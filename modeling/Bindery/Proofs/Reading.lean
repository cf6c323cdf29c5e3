import Bindery.Proofs.Forwarding

/-!
# Names read off the output

Which names an item defines shows in the texts that it is written as: behind a keyword, before a
mark, or among the parameters of a function.
-/
namespace Bindery

open Typing

def LayoutItem.defines (m : LayoutItem) : List String :=
  m.name :: m.fields.map (·.name) ++ m.texts.map (·.name)

def EnumItem.defines : EnumItem → List String
  | .closed name _ variants => name :: variants.map (·.1)
  | .flags name constants => name :: constants.map (·.1)

def FunctionItem.defines : FunctionItem → List String
  | .safe name s _ | .lowering name s _ => name :: s.params.map (·.1)
  | .raw name s _ => (name ++ "_raw") :: s.params.map (·.1)

/-- The method with its parameters, which are all of the signature but for the receiver. -/
def MethodItem.defines (m : MethodItem) : List String :=
  m.name :: (m.signature.params.filter fun p => p.1 ++ ": " ++ p.2 ∈ m.params).map (·.1)

/-- The names that an item defines: of types with their fields and variants, of constants, and of
functions and methods with their parameters. What is linked is defined elsewhere, so only its
parameters are named here. -/
def Item.defines : Item → List String
  | .layout m => m.defines
  | .enumeration e => e.defines
  | .shape s => s.name :: s.fields.map (·.1)
  | .callback c => [c.name]
  | .copies _ | .resultAlias _ => []
  | .link l => l.functions.flatMap fun f => f.params.map (·.1)
  | .root r => [r.handle]
  | .function f => f.defines
  | .global g => [g.name]
  | .methods m => m.methods.flatMap (·.defines)
  | .element e => e.variants.map (·.name)

def Parameters (texts names : List String) : Prop :=
  ∃ receiver ∈ [[], ["self"], ["&self"], ["&'a self"], ["&mut self"], ["&'a mut self"]],
    ∃ params : List (String × String),
      texts = receiver ++ params.map (fun p => p.1 ++ ": " ++ p.2) ∧ names = params.map (·.1)

/-- How lines begin that define no name of the description. -/
def silentStarts : List String :=
  ["#[", "///", "type ", "pub static ", "pub type Result<T>", "lower_by_copy!(", "_marker: ",
   "None,", "Mut(&'a mut dyn FnMut", "Ref(&'a dyn Fn", "Raw(Unsafe<"]

/-- How functions begin that stand under one name in every output. -/
def givenFunctions : List String :=
  ["fn default() -> Self", "fn index(&self, index: usize) -> &", "fn lower(&self, ",
   "fn lower_mut(&mut self, ", "pub fn from_func<F: FnMut", "unsafe fn retain(ptr: *mut Self)",
   "unsafe fn free(ptr: *mut Self)", "pub fn as_data(&self) -> ElementData<'_>"]

/-- How blocks begin whose own names are not new, but whose contents may be. -/
def scopeStarts : List String :=
  ["impl ", "impl Default for ", "impl Index<usize> for ", "impl Lower for ",
   "unsafe impl RootObject for ", "extern \"C\"", "native_flags!", "pub enum ElementData<'a>"]

/-- The names that steps define, read off their texts. The body of a function defines none. -/
inductive Introduces : List Step → List String → Prop where
  | nil : Introduces [] []
  | append {first last names names'} : Introduces first names → Introduces last names' →
      Introduces (first ++ last) (names ++ names')
  | blank : Introduces [.blank] []
  | silent (start rest) : start ∈ silentStarts → Introduces [.line (start ++ rest)] []
  /-- A field, a variant, a constant or another name of a type. -/
  | entry (start name mark rest) : start ∈ ["", "pub ", "const ", "pub type "] →
      mark ∈ [": ", " = ", "("] → Introduces [.line (start ++ name ++ mark ++ rest)] [name]
  | type (start name generics) {body names} : start ∈ ["pub struct ", "pub enum "] →
      generics ∈ ["", "<'a>"] → Introduces body names →
      Introduces [.braces (start ++ name ++ generics) body] (name :: names)
  | function (start name generics texts result) {names body} :
      start ∈ ["pub fn", "pub unsafe fn"] → generics ∈ ["", "<'a>"] → Parameters texts names →
      Introduces [.braces (start ++ " " ++ name ++ generics ++ "(" ++ ", ".intercalate texts ++
        ")" ++ result) body] (name :: names)
  /-- What is linked is defined elsewhere, but its parameters are named here. -/
  | linked (name texts result) {names} : Parameters texts names →
      Introduces [.line ("pub fn " ++ name ++ "(" ++ ", ".intercalate texts ++ ")" ++ result ++
        ";")] names
  | given (start rest) {body} : start ∈ givenFunctions →
      Introduces [.braces (start ++ rest) body] []
  | scope (start rest) {body names} : start ∈ scopeStarts → Introduces body names →
      Introduces [.braces (start ++ rest) body] names

namespace Introduces

variable {s : Step} {steps : List Step} {names names' : List String}

theorem cons (first : Introduces [s] names) (rest : Introduces steps names') :
    Introduces (s :: steps) (names ++ names') := first.append rest

theorem cast (introduces : Introduces steps names) (same : names = names') :
    Introduces steps names' := same ▸ introduces

theorem map {α : Type} {f : α → Step} {names : α → List String} {xs : List α}
    (each : ∀ x ∈ xs, Introduces [f x] (names x)) :
    Introduces (xs.map f) (xs.flatMap names) := by
  induction xs with
  | nil => exact .nil
  | cons x xs ih =>
    obtain ⟨here, later⟩ := List.forall_mem_cons.1 each
    exact here.cons (ih later)

theorem spaced {α : Type} {f : α → Step} {names : α → List String} {xs : List α}
    (each : ∀ x ∈ xs, Introduces [f x] (names x)) :
    Introduces (spaced (xs.map f)) (xs.flatMap names) := by
  induction xs with
  | nil => exact .nil
  | cons x xs ih =>
    obtain ⟨here, later⟩ := List.forall_mem_cons.1 each
    cases xs with
    | nil => exact here.cast (by simp)
    | cons y ys => exact here.cons (Introduces.blank.cons (ih later))

theorem given_exactly {start : String} {body : List Step} (known : start ∈ givenFunctions) :
    Introduces [.braces start body] [] := by
  have given : Introduces [.braces (start ++ "") body] [] := .given start "" known
  rwa [String.append_empty] at given

theorem scope_exactly {start : String} {body : List Step} (known : start ∈ scopeStarts)
    (inside : Introduces body names) : Introduces [.braces start body] names := by
  have scope : Introduces [.braces (start ++ "") body] names := .scope start "" known inside
  rwa [String.append_empty] at scope

theorem silent_exactly {start : String} (known : start ∈ silentStarts) :
    Introduces [.line start] [] := by
  have silent : Introduces [.line (start ++ "")] [] := .silent start "" known
  rwa [String.append_empty] at silent

/-- A line that is pieced together, and begins with a known text and perhaps more. -/
theorem silent_pieces (start more text rest : String) (known : start ∈ silentStarts) :
    Introduces [.line (start ++ more ++ text ++ rest)] [] := by
  rw [String.append_assoc, String.append_assoc]
  exact .silent start _ known

/-- A default value defines nothing new. -/
theorem default (target : String) (fields : List String) :
    Introduces [defaultSteps target fields] [] :=
  .scope "impl Default for " target (by decide) (given_exactly (by decide))

/-- A header that is written out introduces its function and the parameters. -/
theorem of_heads {sig : Signature} {start name header : String} {texts : List String}
    {body : List Step} (heads : sig.Heads start name texts header)
    (known : start ∈ ["pub fn", "pub unsafe fn"]) (params : Parameters texts names) :
    Introduces [.braces header body] (name :: names) := by
  obtain ⟨generics, generic, rfl⟩ := heads
  exact .function start name generics texts _ known generic params

end Introduces

theorem parameters_of_pairs (params : List (String × String)) :
    Parameters (params.map fun p => p.1 ++ ": " ++ p.2) (params.map (·.1)) :=
  ⟨[], by simp, params, rfl, rfl⟩

theorem withLifetime_eq (name : String) (borrows : Bool) :
    ∃ generics ∈ ["", "<'a>"], withLifetime "'a" name borrows = name ++ generics := by
  cases borrows with
  | true => exact ⟨"<'a>", by simp, by simp [withLifetime, String.append_assoc]⟩
  | false => exact ⟨"", by simp, by simp [withLifetime]⟩

/-! ### Items -/

/-- A struct or shape, under its name with a lifetime if it borrows. -/
theorem introduces_struct (name : String) (borrows : Bool) {body : List Step}
    {names : List String} (inside : Introduces body names) :
    Introduces [.braces ("pub struct " ++ withLifetime "'a" name borrows) body]
      (name :: names) := by
  obtain ⟨generics, generic, same⟩ := withLifetime_eq name borrows
  rw [same, ← String.append_assoc]
  exact .type "pub struct " name generics (by simp) generic inside

namespace LayoutItem

theorem introduces_field (f : FieldItem) : Introduces [fieldLine f] [f.name] := by
  have line := Introduces.entry (if f.isPublic then "pub " else "") f.name ": "
    (f.type.text "'a" ++ ",") (by split <;> decide) (by decide)
  simpa [fieldLine, String.append_assoc] using line

theorem introduces_text (t : InlineText) : Introduces [textStep t] [t.name] := by
  have header : "pub fn " ++ t.name ++ "(&self) -> &str" =
      "pub fn" ++ " " ++ t.name ++ "" ++ "(" ++ ", ".intercalate ["&self"] ++ ")" ++
        " -> &str" := by
    have opening : "pub fn " = "pub fn" ++ " " := rfl
    have closing : "(&self) -> &str" = "(" ++ "&self" ++ ")" ++ " -> &str" := rfl
    simp only [String.intercalate_singleton, String.append_empty, opening, closing,
      String.append_assoc]
  rw [textStep, header]
  exact .function "pub fn" t.name "" ["&self"] " -> &str" (by simp) (by simp)
    ⟨["&self"], by simp, [], rfl, rfl⟩

theorem introduces_index (target output : String) : Introduces [indexStep target output] [] := by
  have line : Introduces [.line ("type Output = " ++ output ++ ";")] [] :=
    .silent_pieces "type " "Output = " output ";" (by decide)
  exact .scope "impl Index<usize> for " target (by decide) <|
    line.cons (Introduces.blank.cons
      (.given "fn index(&self, index: usize) -> &" output (by decide)))

theorem introduces (m : LayoutItem) : Introduces m.steps m.defines := by
  have format : Introduces [.line "#[repr(C)]"] [] := .silent "#[" "repr(C)]" (by decide)
  have derives : Introduces (if m.derives.isEmpty then []
      else [.line ("#[derive(" ++ ", ".intercalate m.derives ++ ")]")]) [] := by
    split
    · exact .nil
    · exact .silent_pieces "#[" "derive(" _ ")]" (by decide)
  have dead : Introduces (if m.hasDead then [.line "#[allow(dead_code)]"] else []) [] := by
    split
    · exact .silent "#[" "allow(dead_code)]" (by decide)
    · exact .nil
  have marker : Introduces (if m.borrows then [.line "_marker: PhantomData<&'a ()>,"] else [])
      [] := by
    split
    · exact .silent "_marker: " "PhantomData<&'a ()>," (by decide)
    · exact .nil
  have fields : Introduces (m.fields.map fieldLine) (m.fields.flatMap fun f => [f.name]) :=
    .map fun f _ => introduces_field f
  have struct := introduces_struct m.name m.borrows (fields.append marker)
  have texts : Introduces (if m.texts.isEmpty then []
      else [.blank, .braces ("impl " ++ withLifetime "'_" m.name m.borrows)
        (spaced (m.texts.map textStep))]) (m.texts.flatMap fun t => [t.name]) := by
    split
    next none => exact Introduces.nil.cast (by simp [List.isEmpty_iff.1 none])
    next =>
      exact Introduces.blank.cons
        (.scope "impl " _ (by decide) (.spaced fun t _ => introduces_text t))
  refine Introduces.cast ((((((format.append derives).append dead).append struct).append
    (?default : Introduces _ [])).append texts).append (?output : Introduces _ [])) ?_
  case default =>
    split
    · exact .nil
    · exact Introduces.blank.cons (.default ..)
  case output =>
    split
    · exact .nil
    · exact Introduces.blank.cons (introduces_index ..)
  simp [defines, List.map_eq_flatMap]

end LayoutItem

theorem EnumItem.introduces (e : EnumItem) : Introduces e.steps e.defines := by
  cases e with
  | flags name constants =>
    have line (c : String × UInt32) :
        Introduces [.line ("const " ++ c.1 ++ " = 0x" ++ hexText c.2 ++ ";")] [c.1] := by
      have mark : " = 0x" = " = " ++ "0x" := rfl
      have entry := Introduces.entry "const " c.1 " = " ("0x" ++ hexText c.2 ++ ";") (by decide)
        (by decide)
      simpa only [mark, String.append_assoc] using entry
    have struct := Introduces.type "pub struct " name "" (by simp) (by simp)
      (.map fun c (_ : c ∈ constants) => line c)
    rw [String.append_empty] at struct
    exact (Introduces.scope_exactly (by decide) struct).cast
      (by simp [defines, List.map_eq_flatMap])
  | closed name representation variants =>
    have line (v : String × Int64) :
        Introduces [.line (v.1 ++ " = " ++ toString v.2.toInt ++ ",")] [v.1] := by
      have entry := Introduces.entry "" v.1 " = " (toString v.2.toInt ++ ",") (by decide)
        (by decide)
      simpa only [String.empty_append, String.append_assoc] using entry
    have first : Introduces [.line ("#[repr(" ++ representation ++ ")]")] [] :=
      .silent_pieces "#[" "repr(" representation ")]" (by decide)
    have derives : Introduces [.line "#[derive(Clone, Copy, PartialEq, Eq, Hash, Debug)]"] [] :=
      .silent "#[" "derive(Clone, Copy, PartialEq, Eq, Hash, Debug)]" (by decide)
    have enum := Introduces.type "pub enum " name "" (by simp) (by simp)
      (.map fun v (_ : v ∈ variants) => line v)
    rw [String.append_empty] at enum
    refine Introduces.cast ((first.cons (derives.cons enum)).append
      (?default : Introduces _ [])) ?_
    case default =>
      split
      · exact .nil
      · exact Introduces.blank.cons
          (.scope "impl Default for " name (by decide) (.given_exactly (by decide)))
    simp [defines, List.map_eq_flatMap]

namespace ShapeItem

theorem introduces_lower (s : ShapeItem) (raw method receiver : String)
    (known : "fn " ++ method ++ "(" ++ receiver ++ ", " ∈ givenFunctions) :
    Introduces [s.lowerStep raw method receiver] [] := by
  let arena := if s.lowering.any (·.2 = .lowered) then "arena" else "_arena"
  have given : Introduces [.braces (("fn " ++ method ++ "(" ++ receiver ++ ", ") ++
      (arena ++ ": &mut Arena) -> " ++ raw))
    [.braces s.raw
      ((s.lowering.map fun f => .line (f.1 ++ ": " ++ sourceText method f.1 f.2 ++ ",")) ++
        if s.rawBorrows then [.line "_marker: PhantomData,"] else [])]] [] := .given _ _ known
  simpa only [lowerStep, String.append_assoc] using given

theorem introduces (s : ShapeItem) : Introduces s.steps (s.name :: s.fields.map (·.1)) := by
  have derives : Introduces (if s.default.isNone then [.line "#[derive(Default)]"] else []) [] := by
    split
    · exact .silent "#[" "derive(Default)]" (by decide)
    · exact .nil
  have line (f : String × String) :
      Introduces [.line ("pub " ++ f.1 ++ ": " ++ f.2 ++ ",")] [f.1] := by
    have entry := Introduces.entry "pub " f.1 ": " (f.2 ++ ",") (by decide) (by decide)
    simpa only [String.append_assoc] using entry
  have struct := introduces_struct s.name s.borrows (.map fun f (_ : f ∈ s.fields) => line f)
  let type := withLifetime "'static" s.raw s.rawBorrows
  have raw : Introduces [.line ("type Raw = " ++ type ++ ";")] [] :=
    .silent_pieces "type " "Raw = " type ";" (by decide)
  have lower := raw.cons <| Introduces.blank.cons <|
    (s.introduces_lower type "lower" "&self" (by decide)).cons <| Introduces.blank.cons <|
      s.introduces_lower type "lower_mut" "&mut self" (by decide)
  have impl := Introduces.blank.cons <|
    .scope "impl Lower for " (withLifetime "'_" s.name s.borrows) (by decide) lower
  refine Introduces.cast (((derives.append struct).append (?default : Introduces _ [])).append
    impl) ?_
  case default =>
    split
    · exact .nil
    · exact Introduces.blank.cons (.default ..)
  simp [List.map_eq_flatMap]

end ShapeItem

theorem CallbackItem.introduces (c : CallbackItem) : Introduces c.steps [c.name] := by
  have variants : Introduces [.line "None,",
      .line ("Mut(&'a mut dyn FnMut" ++ c.signature ++ "),"),
      .line ("Ref(&'a dyn Fn" ++ c.signature ++ "),"),
      .line ("Raw(Unsafe<" ++ c.raw ++ ">),")] [] := by
    simp only [String.append_assoc]
    exact (Introduces.silent_exactly (by decide)).cons <|
      (Introduces.silent "Mut(&'a mut dyn FnMut" _ (by decide)).cons <|
      (Introduces.silent "Ref(&'a dyn Fn" _ (by decide)).cons <|
      .silent "Raw(Unsafe<" _ (by decide)
  have enum := Introduces.type "pub enum " c.name "<'a>" (by simp) (by simp) variants
  have default (body : List Step) : Introduces [.braces ("impl Default for " ++ c.name ++ "<'_>")
      [.braces "fn default() -> Self" body]] [] := by
    rw [String.append_assoc]
    exact .scope "impl Default for " _ (by decide) (.given_exactly (by decide))
  have build (body : List Step) : Introduces [.braces ("impl " ++ c.raw)
      [.braces ("pub fn from_func<F: FnMut" ++ c.signature ++ ">(func: &mut F) -> Self") body]]
      [] := by
    rw [String.append_assoc]
    exact .scope "impl " _ (by decide) (.given "pub fn from_func<F: FnMut" _ (by decide))
  have raw : Introduces [.line ("type Raw = " ++ c.raw ++ ";")] [] :=
    .silent_pieces "type " "Raw = " c.raw ";" (by decide)
  have lower (start : String) (body : List Step) (known : start ∈ givenFunctions) :
      Introduces [.braces (start ++ "_arena: &mut Arena) -> " ++ c.raw) body] [] := by
    rw [String.append_assoc]
    exact .given start _ known
  have impl (body body' : List Step) : Introduces [.braces ("impl Lower for " ++ c.name ++ "<'_>")
      [.line ("type Raw = " ++ c.raw ++ ";"), .blank,
        .braces ("fn lower(&self, _arena: &mut Arena) -> " ++ c.raw) body, .blank,
        .braces ("fn lower_mut(&mut self, _arena: &mut Arena) -> " ++ c.raw) body']] [] := by
    rw [String.append_assoc]
    exact .scope "impl Lower for " _ (by decide) <| raw.cons <| Introduces.blank.cons <|
      (lower "fn lower(&self, " body (by decide)).cons <| Introduces.blank.cons <|
      lower "fn lower_mut(&mut self, " body' (by decide)
  exact enum.cons <| Introduces.blank.cons <| (default _).cons <| Introduces.blank.cons <|
    (build _).cons <| Introduces.blank.cons <| impl _ _

theorem LinkItem.introduces (l : LinkItem) :
    Introduces l.steps (l.functions.flatMap fun f => f.params.map (·.1)) := by
  have function (f : NativeFunction) : Introduces [.line f.line] (f.params.map (·.1)) := by
    have params := parameters_of_pairs (f.params.map fun p => (p.1, p.2.text "'_"))
    rw [List.map_map, List.map_map] at params
    exact .linked f.name _ _ params
  have static (v : String × Spelling) :
      Introduces [.line ("pub static " ++ v.1 ++ ": " ++ v.2.text "'static" ++ ";")] [] := by
    simp only [String.append_assoc]
    exact .silent "pub static " _ (by decide)
  have link : Introduces [.line ("#[link(name = \"" ++ l.library ++ "\")]")] [] :=
    .silent_pieces "#[" "link(name = \"" l.library "\")]" (by decide)
  have inside := (Introduces.map fun f (_ : f ∈ l.functions) => function f).append
    (.map fun v (_ : v ∈ l.statics) => static v)
  exact (link.cons (.scope_exactly (by decide) inside)).cast (by simp)

theorem RootItem.introduces (r : RootItem) : Introduces r.steps [r.handle] := by
  have retain : Introduces [.braces "unsafe fn retain(ptr: *mut Self)"
      [.line (r.retain ++ "(ptr);")]] [] := .given_exactly (by decide)
  have free : Introduces [.braces "unsafe fn free(ptr: *mut Self)"
      [.line (r.free ++ "(ptr);")]] [] := .given_exactly (by decide)
  have impl := Introduces.scope "unsafe impl RootObject for " r.type (by decide)
    (retain.cons (Introduces.blank.cons free))
  have handle : Introduces [.line ("pub type " ++ r.handle ++ " = Root<" ++ r.type ++ ">;")]
      [r.handle] := by
    have mark : " = Root<" = " = " ++ "Root<" := rfl
    have entry := Introduces.entry "pub type " r.handle " = " ("Root<" ++ r.type ++ ">;")
      (by decide) (by decide)
    simpa only [mark, String.append_assoc] using entry
  exact impl.cons (Introduces.blank.cons handle)

theorem FunctionItem.introduces (f : FunctionItem) : Introduces f.steps f.defines := by
  have doc (rest : String) : Introduces [.line ("///" ++ rest)] [] := .silent "///" rest (by decide)
  cases f with
  | safe name s c =>
    exact .of_heads (s.heads_header ..) (by simp) (parameters_of_pairs s.params)
  | lowering name s c =>
    exact .of_heads (s.heads_header ..) (by simp) (parameters_of_pairs s.params)
  | raw name s c =>
    have function : Introduces [.braces _ c.steps] _ :=
      .of_heads (s.heads_header "pub unsafe fn" (name ++ "_raw") s.paramTexts) (by simp)
        (parameters_of_pairs s.params)
    exact (doc " # Safety").cons ((Introduces.silent_exactly (by decide)).cons
      ((doc " Raw arguments are handed to the native library unchecked.").cons function))

theorem GlobalItem.introduces (g : GlobalItem) : Introduces g.steps [g.name] := by
  let type := if g.isRef then "&'static " ++ g.type.text "'static" else g.type.text "'static"
  have header : "pub fn " ++ g.name ++ "() -> " ++ type =
      "pub fn" ++ " " ++ g.name ++ "" ++ "(" ++ ", ".intercalate [] ++ ")" ++ (" -> " ++ type) := by
    have opening : "pub fn " = "pub fn" ++ " " := rfl
    have closing : "() -> " = "(" ++ ")" ++ " -> " := rfl
    simp only [String.intercalate_nil, String.append_empty, opening, closing, String.append_assoc]
  have function (body : List Step) :
      Introduces [.braces ("pub fn " ++ g.name ++ "() -> " ++ type) body] [g.name] := by
    rw [header]
    exact .function "pub fn" g.name "" [] _ (by simp) (by simp) ⟨[], by simp, [], rfl, rfl⟩
  exact function _

theorem ElementItem.introduces (e : ElementItem) :
    Introduces e.steps (e.variants.map (·.name)) := by
  have doc (rest : String) : Introduces [.line ("///" ++ rest)] [] := .silent "///" rest (by decide)
  have variant (v : ElementVariant) : Introduces
      [.line (v.name ++ "(&'a " ++ withLifetime "'a" v.struct v.borrows ++ "),")] [v.name] := by
    have mark : "(&'a " = "(" ++ "&'a " := rfl
    have entry := Introduces.entry "" v.name "("
      ("&'a " ++ withLifetime "'a" v.struct v.borrows ++ "),") (by decide) (by decide)
    simpa only [String.empty_append, mark, String.append_assoc] using entry
  have enum : Introduces [.braces "pub enum ElementData<'a>" _] _ := .scope_exactly (by decide)
    (.map fun v (_ : v ∈ e.variants) => variant v)
  have given (body : List Step) : Introduces
      [.braces "pub fn as_data(&self) -> ElementData<'_>" body] [] := .given_exactly (by decide)
  have built : Introduces [.line ("/// Built by [`" ++ e.base ++
      "::as_data`], which trusts the `" ++ e.discriminant ++ "` field: the element")] [] := by
    have opening : "/// Built by [`" = "///" ++ " Built by [`" := rfl
    simp only [opening, String.append_assoc]
    exact doc _
  have empty : Introduces [.line "///"] [] := .silent_exactly (by decide)
  have all : Introduces e.steps _ :=
    (doc " An element viewed as its concrete type.").cons <| empty.cons <| built.cons <|
    (doc " must be the leading member of the struct that field names. Nothing checks this.").cons <|
    enum.cons <| Introduces.blank.cons <| .scope "impl " _ (by decide) (given _)
  exact all.cast (by simp [List.map_eq_flatMap])

/-! ### Methods -/

namespace Analysis

variable {a : Analysis} {w : Wrapper} {m : Method} {arg : WrapperArg} {item : MethodItem}

theorem Replaces.receiver {owner : TypeId} {own : Bool} {receiver : Receiver} {type text : String}
    (replaces : a.Replaces arg owner own receiver type text) :
    [text] ∈ [[], ["self"], ["&self"], ["&'a self"], ["&mut self"], ["&'a mut self"]] := by
  cases replaces with
  | shared | exclusive => cases own <;> decide
  | value => decide

/-- The parameters of a method are named in its signature. -/
theorem Forwards.introduces (forwards : a.Forwards w m arg item)
    (made : a.methodItem w m = some item) :
    ∃ names, Introduces [item.step] names ∧ names ⊆ item.defines := by
  obtain ⟨_, _, rfl⟩ := Option.map_eq_some_iff.1 made
  obtain ⟨header, heads, step⟩ := forwards.written
  obtain ⟨k, _, text, _, _, replaces, _, params⟩ := forwards.receiver
  let s := a.signature w true
  let behind := (s.params.eraseIdx k).map fun param => (param.1, s.typeOf param.1)
  have parameters : Parameters (text :: (s.params.eraseIdx k).map fun param =>
      param.1 ++ ": " ++ s.typeOf param.1) (behind.map (·.1)) :=
    ⟨[text], replaces.receiver, behind, by simp [behind, Function.comp_def], rfl⟩
  rw [step]
  refine ⟨m.name :: behind.map (·.1), .of_heads heads (by simp) (params ▸ parameters), ?_⟩
  rw [MethodItem.defines]
  apply List.cons_subset_cons
  intro name member
  obtain ⟨_, inside, rfl⟩ := List.mem_map.1 member
  obtain ⟨param, other, rfl⟩ := List.mem_map.1 inside
  have listed : param ∈ s.params := List.mem_of_mem_eraseIdx other
  obtain ⟨first, known, same, _, type⟩ := Signature.find?_of_mem listed
  have shown : first.1 ++ ": " ++ first.2 ∈ text :: (s.params.eraseIdx k).map fun param =>
      param.1 ++ ": " ++ s.typeOf param.1 :=
    List.mem_cons_of_mem _ (List.mem_map.2 ⟨param, other, by rw [type, same]⟩)
  refine List.mem_map.2 ⟨first, List.mem_filter.2 ⟨known, ?_⟩, same⟩
  rw [params]
  exact decide_eq_true shown

end Analysis

namespace Library

variable {lib : Library} {t : TypeTable} {a : Analysis} {i : Item}

theorem Analyzed.introduces_methods (analyzed : lib.Analyzed t a) {group : TypeId × List Wrapper}
    (grouped : group ∈ groupMethods a.wrappers) :
    ∃ names, Introduces (a.methodsItem group).steps names ∧
      names ⊆ (Item.methods (a.methodsItem group)).defines := by
  have each (item : MethodItem) (member : item ∈ (a.methodsItem group).methods) :
      ∃ names, Introduces [item.step] names ∧ names ⊆ item.defines := by
    obtain ⟨w, inside, made⟩ := List.mem_filterMap.1 member
    obtain ⟨m, promoted, made⟩ := Option.bind_eq_some_iff.1 made
    obtain ⟨wrapped, _⟩ := (Analysis.groupMethods_grouped _ grouped).members w inside
    obtain ⟨arg, forwards⟩ := analyzed.forwards wrapped promoted made
    exact forwards.introduces made
  choose! names introduces among using each
  refine ⟨_, .scope "impl " _ (by decide) (.spaced introduces), fun name member => ?_⟩
  obtain ⟨item, inside, member⟩ := List.mem_flatMap.1 member
  exact List.mem_flatMap.2 ⟨item, inside, among item inside member⟩

/-- The names that are read off an item are those that it defines. Among methods a name may be read
off less often than it is counted. -/
theorem Analyzed.introduces (analyzed : lib.Analyzed t a) (makes : a.Makes i) :
    ∃ names, Introduces i.steps names ∧ names ⊆ i.defines ∧
      ((∀ m, i ≠ .methods m) → names = i.defines) := by
  have exactly {i : Item} (introduces : Introduces i.steps i.defines) :
      ∃ names, Introduces i.steps names ∧ names ⊆ i.defines ∧
        ((∀ m, i ≠ .methods m) → names = i.defines) :=
    ⟨i.defines, introduces, List.Subset.refl _, fun _ => rfl⟩
  cases makes with
  | layout => exact exactly (LayoutItem.introduces _)
  | enumeration => exact exactly (EnumItem.introduces _)
  | shape => exact exactly (ShapeItem.introduces _)
  | callback => exact exactly (CallbackItem.introduces _)
  | copies =>
    have copied : Introduces (Item.copies a.copiedNames).steps [] := by
      rw [Item.steps, String.append_assoc]
      exact .silent "lower_by_copy!(" _ (by decide)
    exact exactly copied
  | @resultAlias _ m =>
    exact exactly (.silent_pieces "pub type Result<T>" " = result::Result<T, " m.name ">;"
      (by decide))
  | link => exact exactly (LinkItem.introduces _)
  | root => exact exactly (RootItem.introduces _)
  | function => exact exactly (FunctionItem.introduces _)
  | global => exact exactly (GlobalItem.introduces _)
  | methods grouped =>
    obtain ⟨names, introduces, among⟩ := analyzed.introduces_methods grouped
    exact ⟨names, introduces, among, fun others => absurd rfl (others _)⟩
  | element => exact exactly (ElementItem.introduces _)

end Library

end Bindery
