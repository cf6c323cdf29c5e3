import Bindery.Proofs.FunctionPointer
import Bindery.Proofs.Items
import Bindery.Proofs.Zeroing

/-!
# Initializers and spellings

A field is initialized by one walk over its type and spelled by another. Both look through typedefs
and consts and ask for functions first, so they agree on what is a function pointer, a raw pointer
or a reference that can be null, and a field without an initializer is spelled as a bare reference.
-/
namespace Bindery

open Typing

theorem Initializer.text_eq_standard_iff {i : Initializer} :
    i.text = "Default::default()" ↔ i = .standard := by
  cases i <;> decide

def Role.style (role : Role) : Style := if role.hasShape then .input else .member

theorem Role.style_cases (role : Role) :
    role.hasShape = true ∧ role.style = .input ∨ role.hasShape = false ∧ role.style = .member := by
  unfold style
  cases role.hasShape <;> simp

theorem Role.style_ne (role : Role) : role.style ≠ .native ∧ role.style ≠ .shape := by
  obtain ⟨_, style⟩ | ⟨_, style⟩ := role.style_cases <;> simp [style]

theorem Analysis.fieldSpelling_eq_spell (a : Analysis) (m : Layout) (f : LayoutField) :
    a.fieldSpelling m f = a.types.spell m.role.style f.type := by
  unfold fieldSpelling
  rcases m.role.style_cases with ⟨shaped, style⟩ | ⟨plain, style⟩
  · rw [if_pos shaped, style]
    rfl
  · rw [if_neg (by simp [plain]), style]
    rfl

namespace TypeTable

/-- A pointer to a described type that is never null, or an array of such. -/
inductive HoldsRef (t : TypeTable) : TypeId → Prop where
  | pointer {id} : (t.target id).kind = .pointer → t.isOpaquePointer id = false →
      (t.target id).isNullable = false → HoldsRef t id
  | array {id item} : (t.target id).kind = .array → (t.target id).inner = some item →
      HoldsRef t item → HoldsRef t id

variable {t : TypeTable} {id item : TypeId}

theorem isFunction_of_target (marked : t.Marked) (kind : (t.target id).kind = .array)
    (link : (t.target id).inner = some item) :
    (t.node item).isFunction = (t.node id).isFunction := by
  have wraps : (t.target id).isWrapper := by simp [Node.isWrapper, kind]
  rw [← marked.carries wraps link, ← isFunction_target marked id]
  rfl

/-- Whatever leads to a function holds no reference. -/
theorem HoldsRef.not_isFunction (marked : t.Marked) (holds : t.HoldsRef id) :
    (t.node id).isFunction = false := by
  induction holds with
  | @pointer id _ visible _ =>
    rw [← isFunction_target marked]
    exact (Bool.or_eq_false_iff.1 visible).1
  | array kind link _ ih => rwa [isFunction_of_target marked kind link] at ih

/-- Through an array, exactly the references of its items are held. -/
theorem holdsRef_array_iff (kind : (t.target id).kind = .array)
    (link : (t.target id).inner = some item) : t.HoldsRef id ↔ t.HoldsRef item := by
  constructor
  · intro holds
    cases holds with
    | pointer other => cases kind.symm.trans other
    | array _ link' below =>
      cases link.symm.trans link'
      exact below
  · exact .array kind link

theorem holdsRef_pointer_iff (kind : (t.target id).kind = .pointer) :
    t.HoldsRef id ↔ t.isOpaquePointer id = false ∧ (t.target id).isNullable = false := by
  constructor
  · intro holds
    cases holds with
    | pointer _ visible never => exact ⟨visible, never⟩
    | array other => cases kind.symm.trans other
  · exact fun ⟨visible, never⟩ => .pointer kind visible never

theorem not_holdsRef (pointer : (t.target id).kind ≠ .pointer)
    (array : (t.target id).kind ≠ .array) : ¬t.HoldsRef id := by
  intro holds
  cases holds with
  | pointer kind => exact pointer kind
  | array kind => exact array kind

end TypeTable

namespace Library

variable {lib : Library} {t : TypeTable} {id item : TypeId} {role : Role} {i : Initializer}

/-! ### Initializers by the form of a type -/

section Form

variable (marked : t.Marked)

theorem initializer?_function (function : (t.target id).isFunction) :
    lib.initializer? t role id = some .absent := by
  rw [initializer?, if_pos function]

theorem initializer?_pointer (function : (t.target id).isFunction = false)
    (kind : (t.target id).kind = .pointer) :
    lib.initializer? t role id =
      if t.isOpaquePointer id then some (if (t.target id).isConst then .null else .nullMut)
      else if role.hasShape || (t.target id).isNullable then some .standard
      else none := by
  rw [initializer?]
  simp [function, kind]

include marked in
/-- An array has the standard value if it is short and so have its items. -/
theorem initializer?_array (function : (t.target id).isFunction = false)
    (kind : (t.target id).kind = .array) (link : (t.target id).inner = some item) :
    lib.initializer? t role id = (lib.initializer? t role item).map fun i =>
      if ((t.target id).arrayLength.getD 0).toNat ≤ Layout.longestDefaultArray ∧ i = .standard
      then .standard else .zeroed := by
  have earlier : item < id := Nat.lt_of_lt_of_le (marked.inner_lt link) (t.strip_le id)
  rw [initializer?]
  simp only [function, kind, link, earlier, Bool.false_eq_true, if_false, if_true]
  cases lib.initializer? t role item with
  | none => rfl
  | some i =>
    simp only [Option.map_some]
    by_cases short : ((t.target id).arrayLength.getD 0).toNat ≤ Layout.longestDefaultArray
    · by_cases standard : i = .standard <;> simp [short, standard, Nat.not_lt.2 short]
    · simp [short, Nat.lt_of_not_le short]

theorem initializer?_isSome (function : (t.target id).isFunction = false)
    (pointer : (t.target id).kind ≠ .pointer) (array : (t.target id).kind ≠ .array) :
    (lib.initializer? t role id).isSome := by
  rw [initializer?]
  simp only [function, Bool.false_eq_true, if_false]
  split
  next kind => exact absurd kind pointer
  next kind => exact absurd kind array
  next => rfl
  next => rfl

include marked

/-- What holds a reference that is never null has no initializer in a struct without a shape, and
everything else has one. -/
theorem initializer?_eq_none_iff (role : Role) (id : TypeId) :
    lib.initializer? t role id = none ↔ role.hasShape = false ∧ t.HoldsRef id := by
  induction id using Nat.strongRecOn with
  | _ id ih =>
    cases function : (t.target id).isFunction with
    | true =>
      rw [initializer?_function function]
      refine iff_of_false nofun fun ⟨_, holds⟩ => ?_
      rw [TypeTable.isFunction_target marked, holds.not_isFunction marked] at function
      cases function
    | false =>
      by_cases pointer : (t.target id).kind = .pointer
      · rw [initializer?_pointer function pointer, TypeTable.holdsRef_pointer_iff pointer]
        cases t.isOpaquePointer id <;> cases role.hasShape <;>
          cases (t.target id).isNullable <;> simp
      · by_cases array : (t.target id).kind = .array
        · have wraps : (t.target id).isWrapper := by simp [Node.isWrapper, array]
          obtain ⟨item, link⟩ := Option.isSome_iff_exists.1 (marked.wraps wraps)
          have earlier : item < id := Nat.lt_of_lt_of_le (marked.inner_lt link) (t.strip_le id)
          rw [initializer?_array marked function array link, Option.map_eq_none_iff,
            ih item earlier, TypeTable.holdsRef_array_iff array link]
        · have given : (lib.initializer? t role id).isSome :=
            initializer?_isSome function pointer array
          refine iff_of_false (fun none => ?_) fun ⟨_, holds⟩ => ?_
          · rw [none] at given
            cases given
          · exact TypeTable.not_holdsRef pointer array holds

/-- In the layout of a struct, what has no initializer is spelled as a bare reference, and nothing
else is. -/
theorem isBare_spell_iff (role : Role) (id : TypeId) :
    (t.spell role.style id).isBare ↔ lib.initializer? t role id = none := by
  rw [initializer?_eq_none_iff marked]
  rcases role.style_cases with ⟨shaped, style⟩ | ⟨plain, style⟩
  · rw [style, TypeTable.spell, t.not_isBare_inputMember id]
    refine iff_of_false Bool.false_ne_true ?_
    rintro ⟨plain, _⟩
    cases plain.symm.trans shaped
  · rw [style, and_iff_right plain]
    constructor
    · intro bare
      have none : lib.initializer? t role id = none := by
        by_contra given
        obtain ⟨i, found⟩ := Option.ne_none_iff_exists'.1 given
        exact Bool.false_ne_true ((not_isBare_member plain found).symm.trans bare)
      exact ((initializer?_eq_none_iff marked role id).1 none).2
    · intro holds
      induction holds with
      | @pointer id kind visible never =>
        have wraps : (t.target id).isWrapper := by simp [Node.isWrapper, kind]
        obtain ⟨inner, link⟩ := Option.isSome_iff_exists.1 (marked.wraps wraps)
        have function := (TypeTable.HoldsRef.pointer kind visible never).not_isFunction marked
        rw [TypeTable.spell_target_pointer marked function link kind]
        simp [visible, never, Spelling.isBare]
      | @array id item kind link below ih =>
        have function := (TypeTable.HoldsRef.array kind link below).not_isFunction marked
        rw [TypeTable.spell_target_array marked function link kind]
        exact ih

end Form

/-! ### Default values -/

def wantsDefault (lib : Library) (s : StructDecl) (role : Role) : Bool :=
  role.hasShape || s.isPod || lib.config.wantsDefault s.name

def draft (lib : Library) (s : StructDecl) : Typing Layout := do
  let typeId ← lib.resolve s.name
  let role ← liftOutcome s.role
  let n := (← get).node typeId
  let members ← liftOutcome (lib.description.flatten s s.fields)
  let fields ← members.mapM (lib.layoutField s role members)
  let indexType ← s.indexType.mapM lib.resolve
  let callback ←
    if role = .callback then some <$> liftOutcome (lib.callbackSlots (← get) s fields)
    else pure none
  return { native := s.name, name := n.name, safeName := n.safeName, role, typeId, fields,
           isPod := s.isPod, ignored := lib.config.isIgnored s.name, default := .none, indexType,
           callback }

/-- The default value of a layout is made last. -/
theorem layout_eq_draft (lib : Library) (s : StructDecl) : lib.layout s = do
    let m ← lib.draft s
    let default ← liftOutcome (lib.defaultImpl (← get) s m.role m.fields)
    return { m with default } := by
  unfold layout draft
  simp only [bind_assoc]
  refine bind_congr fun typeId => bind_congr fun role => bind_congr fun t =>
    bind_congr fun members => bind_congr fun fields => bind_congr fun indexType => ?_
  split
  next => simp only [bind_assoc, pure_bind]
  next => simp only [pure_bind]

def fieldInitializer (lib : Library) (t : TypeTable) (s : StructDecl) (role : Role)
    (f : LayoutField) : Outcome Initializer :=
  match lib.initializer? t role f.type with
  | some i => .ok i
  | none => .error (.missingDefault s.name f.nativeName)

section Default

variable {s : StructDecl} {m : Layout} {t' : TypeTable} {fields : List LayoutField}

theorem on_layout_of_draft (drafted : on (lib.draft s) t = (.ok m, t')) :
    on (lib.layout s) t =
      ((lib.defaultImpl t' s m.role m.fields).map fun default => { m with default }, t') := by
  rw [layout_eq_draft, on_bind, drafted]
  simp only [on_get_bind]
  rw [on_bind, on_liftOutcome]
  cases lib.defaultImpl t' s m.role m.fields <;> rfl

theorem defaultImpl_of_layout (run : on (lib.layout s) t = (.ok m, t')) :
    lib.defaultImpl t' s m.role m.fields = .ok m.default := by
  rw [layout_eq_draft] at run
  obtain ⟨m, between, _, run⟩ := on_bind_eq_ok.1 run
  rw [on_get_bind] at run
  obtain ⟨default, made, run⟩ := on_liftOutcome_bind_eq_ok.1 run
  cases run
  exact made

/-- A list of steps fails with the error of the first that fails. -/
theorem mapM_eq_error_iff {α β : Type} {f : α → Outcome β} {as : List α} {e : Error} :
    as.mapM f = .error e ↔
      ∃ a, as.find? (fun a => (f a).toOption.isNone) = some a ∧ f a = .error e := by
  induction as with
  | nil => simp [pure, Except.pure]
  | cons a as ih =>
    rw [List.mapM_cons]
    cases first : f a with
    | error e' => simp [first, bind, Except.bind, Except.toOption]
    | ok b =>
      have rest : (do let bs ← as.mapM f; pure (b :: bs)) = Except.error e ↔
          as.mapM f = .error e := by
        cases as.mapM f <;> simp [bind, Except.bind, pure, Except.pure]
      simpa [first, Except.toOption, bind, Except.bind] using rest.trans ih

/-- Where a default value is wanted, all that can go wrong is a field without an initializer. -/
theorem defaultImpl_eq_error_iff (wanted : lib.wantsDefault s role) {e : Error} :
    lib.defaultImpl t s role fields = .error e ↔
      ∃ f, fields.find? (fun f => (lib.initializer? t role f.type).isNone) = some f ∧
        e = .missingDefault s.name f.nativeName := by
  have skipped : (!(role = .callback || role = .interface : Bool) &&
      !(s.isPod || role = .input || lib.config.wantsDefault s.name)) =
        !lib.wantsDefault s role := by
    cases role <;> simp [wantsDefault, Role.hasShape]
  have made : lib.defaultImpl t s role fields = .error e ↔
      fields.mapM (lib.fieldInitializer t s role) = .error e := by
    unfold defaultImpl
    dsimp only
    rw [skipped, wanted, if_neg (by decide)]
    change (fields.mapM (lib.fieldInitializer t s role) >>= _) = _ ↔ _
    cases fields.mapM (lib.fieldInitializer t s role) <;>
      simp [bind, Except.bind, pure, Except.pure]
  have failing (f : LayoutField) : (lib.fieldInitializer t s role f).toOption.isNone =
      (lib.initializer? t role f.type).isNone := by
    unfold fieldInitializer
    cases lib.initializer? t role f.type <;> rfl
  rw [made, mapM_eq_error_iff]
  simp only [failing]
  refine exists_congr fun f => and_congr_right fun found => ?_
  have none : lib.initializer? t role f.type = none := by simpa using List.find?_some found
  rw [fieldInitializer, none, Except.error.injEq, eq_comm]

end Default

/-! ### Fields that are no plain values -/

/-- The type that a field is declared with, if it is a pointer, an array or a function, beside the
value that it is initialized with. -/
inductive Initializes (lib : Library) (t : TypeTable) (role : Role) (id : TypeId) :
    String → String → Prop where
  | function {signature} :
      Initializes lib t role id ("Option<unsafe extern \"C\" fn(" ++ signature ++ ">") "None"
  | null {target} : (t.target id).kind = .pointer →
      Initializes lib t role id ("*const " ++ target) "ptr::null()"
  | nullMut {target} : (t.target id).kind = .pointer →
      Initializes lib t role id ("*mut " ++ target) "ptr::null_mut()"
  | ref {target} : (t.target id).kind = .pointer →
      Initializes lib t role id ("Option<Ref<" ++ target ++ ">>") "Default::default()"
  /-- An array has the standard value if it is short and so have its items. -/
  | array {item length} : (t.target id).kind = .array → (t.target id).inner = some item →
      (t.target id).arrayLength = some length →
      Initializes lib t role id
        ("[" ++ (t.spell role.style item).text "'a" ++ "; " ++ toString length.toNat ++ "]")
        (if length.toNat ≤ 32 ∧
            (lib.initializer? t role item).map Initializer.text = some "Default::default()"
          then "Default::default()" else "unsafe \x7b mem::zeroed() \x7d")

section Initializes

variable (marked : t.Marked) (function : (t.node id).isFunction = false)

include marked function

theorem initializes_pointer (kind : (t.target id).kind = .pointer)
    (found : lib.initializer? t role id = some i) :
    lib.Initializes t role id ((t.spell role.style id).text "'a") i.text := by
  have wraps : (t.target id).isWrapper := by simp [Node.isWrapper, kind]
  obtain ⟨inner, link⟩ := Option.isSome_iff_exists.1 (marked.wraps wraps)
  have leads : (t.target id).isFunction = false :=
    (TypeTable.isFunction_target marked id).trans function
  rw [initializer?_pointer leads kind] at found
  rw [TypeTable.spell_target_pointer marked function link kind]
  cases visible : t.isOpaquePointer id with
  | true =>
    rw [visible, if_pos rfl] at found
    cases found
    rw [if_pos (.inr rfl)]
    cases (t.target id).isConst with
    | true => exact .null kind
    | false => exact .nullMut kind
  | false =>
    -- A field of a struct with a shape may always be left out.
    have optional : (decide (role.style ≠ .member) || (t.target id).isNullable) =
        (role.hasShape || (t.target id).isNullable) := by
      rcases role.style_cases with ⟨shaped, style⟩ | ⟨plain, style⟩
      · simp [shaped, style]
      · simp [plain, style]
    rw [visible, if_neg Bool.false_ne_true] at found
    obtain ⟨given, standard⟩ := Option.ite_none_right_eq_some.1 found
    cases standard
    rw [if_neg (by simp [role.style_ne.1]), optional, given]
    have text (target : Spelling) : (Spelling.ref true target).text "'a" =
        "Option<Ref<" ++ target.text "'a" ++ ">>" := by
      have closed : ">>" = ">" ++ ">" := rfl
      have opened : "Option<Ref<" = "Option<" ++ "Ref<" := rfl
      simp only [Spelling.text_ref, if_true, closed, opened, String.append_assoc]
    rw [text]
    exact .ref kind

theorem initializes_array {length : UInt64} (kind : (t.target id).kind = .array)
    (measured : (t.target id).arrayLength = some length)
    (found : lib.initializer? t role id = some i) :
    lib.Initializes t role id ((t.spell role.style id).text "'a") i.text := by
  have wraps : (t.target id).isWrapper := by simp [Node.isWrapper, kind]
  obtain ⟨item, link⟩ := Option.isSome_iff_exists.1 (marked.wraps wraps)
  have leads : (t.target id).isFunction = false :=
    (TypeTable.isFunction_target marked id).trans function
  rw [initializer?_array marked leads kind link, measured] at found
  rw [TypeTable.spell_target_array marked function link kind, if_neg role.style_ne.2, measured]
  obtain ⟨j, inside, rfl⟩ := Option.map_eq_some_iff.1 found
  have standard : j = .standard ↔
      (lib.initializer? t role item).map Initializer.text = some "Default::default()" := by
    rw [inside, Option.map_some, Option.some_inj, Initializer.text_eq_standard_iff]
  rw [apply_ite Initializer.text]
  simp only [standard]
  exact .array kind link measured

end Initializes

theorem Flagged.initializes (flagged : lib.Flagged t)
    (kind : (t.target id).kind ∈ [.pointer, .array, .function])
    (found : lib.initializer? t role id = some i) :
    lib.Initializes t role id ((t.spell role.style id).text "'a") i.text := by
  have marked := flagged.marked
  have outer := TypeTable.isFunction_target marked id
  cases function : (t.node id).isFunction with
  | true =>
    rw [initializer?_function (outer.trans function)] at found
    cases found
    have text (params : List Spelling) (result : Option Spelling) : ∃ signature,
        (Spelling.function params result).text "'a" =
          "Option<unsafe extern \"C\" fn(" ++ signature ++ ">" :=
      ⟨", ".intercalate (Spelling.texts "'a" params) ++ ")" ++ Spelling.resultText "'a" result,
        by simp only [Spelling.text_function, String.append_assoc]⟩
    rw [TypeTable.spell_of_isFunction function, TypeTable.native, if_pos function]
    obtain ⟨signature, written⟩ := text _ _
    rw [written]
    exact .function
  | false =>
    simp only [List.mem_cons, List.not_mem_nil, or_false] at kind
    rcases kind with kind | kind | kind
    · exact initializes_pointer marked function kind found
    · obtain ⟨length, measured⟩ : ∃ length, (t.target id).arrayLength = some length :=
        Option.isSome_iff_exists.1 (flagged.arrayLength_isSome kind)
      exact initializes_array marked function kind measured found
    · have solid : (t.target id).isWrapper = false := by
        simp [Node.isWrapper, Node.isTransparent, kind]
      have leads : (t.target id).isFunction = decide ((t.target id).kind = .function) :=
        marked.functions solid
      rw [outer, function, decide_eq_true kind] at leads
      cases leads

/-- A written default value has one initializer a field, in the order of the fields, and each fits
how its field is spelled. -/
def Initialized (lib : Library) (t : TypeTable) (m : Layout) (spelled : LayoutField → Spelling) :
    Prop :=
  ∀ is, m.default = .manual is → List.Forall₂
    (fun f i => (t.target f.type).kind ∈ [.pointer, .array, .function] →
      lib.Initializes t m.role f.type ((spelled f).text "'a") i.text) m.fields is

def FieldLines (lib : Library) (t : TypeTable) (m : Layout) (f : LayoutField)
    (lines : Step × Step) : Prop :=
  ∃ type value, lines.1 = .line ((if f.isPublic then "pub " else "") ++ f.name ++ ": " ++ type ++
      ",") ∧ lines.2 = .line (f.name ++ ": " ++ value ++ ",") ∧
    ((t.target f.type).kind ∈ [.pointer, .array, .function] →
      lib.Initializes t m.role f.type type value)

/-- The struct of a layout is written with its fields, and its default value with one expression for
each of them, that fits its type. If it borrows, a marker stands behind both. -/
def WritesDefault (lib : Library) (t : TypeTable) (m : Layout) (steps : List Step) : Prop :=
  ∃ (borrows : Bool) (lines : List (Step × Step)),
    .braces ("pub struct " ++ withLifetime "'a" m.name borrows) (lines.map (·.1) ++
      if borrows then [.line "_marker: PhantomData<&'a ()>,"] else []) ∈ steps ∧
    .braces ("impl Default for " ++ withLifetime "'_" m.name borrows)
      [.braces "fn default() -> Self" [.braces "Self" (lines.map (·.2) ++
        if borrows then [.line "_marker: PhantomData,"] else [])]] ∈ steps ∧
    List.Forall₂ (lib.FieldLines t m) m.fields lines

/-- What the layout of a struct fails with, where all that is left to make is a default value. -/
structure Misses (lib : Library) (t : TypeTable) (s : StructDecl) (m : Layout)
    (made : Outcome Layout) : Prop where
  /-- Only a field without a value can be wrong, -/
  only : ∀ e, made = .error e → ∃ f ∈ m.fields, e = .missingDefault s.name f.nativeName
  /-- which is a reference that is never null, in a struct that has no shape, -/
  missing : (∃ field, made = .error (.missingDefault s.name field)) ↔
    m.role.hasShape = false ∧ ∃ f ∈ m.fields, t.HoldsRef f.type
  /-- and just what is spelled as a bare reference. -/
  bare : ∀ f ∈ m.fields, (t.spell m.role.style f.type).isBare ↔
    m.role.hasShape = false ∧ t.HoldsRef f.type

variable {s : StructDecl} {m : Layout} {t' : TypeTable} {a : Analysis}

theorem Flagged.initialized (flagged : lib.Flagged t)
    (made : lib.defaultImpl t s m.role m.fields = .ok m.default) :
    lib.Initialized t m fun f => t.spell m.role.style f.type := by
  intro is written
  rw [written] at made
  exact (initialized_of_manual made).imp fun f i found kind => flagged.initializes kind found

theorem Flagged.misses (flagged : lib.Flagged t') (drafted : on (lib.draft s) t = (.ok m, t'))
    (wanted : lib.wantsDefault s m.role) : lib.Misses t' s m (on (lib.layout s) t).1 := by
  have marked := flagged.marked
  have fails (e : Error) : (on (lib.layout s) t).1 = .error e ↔
      ∃ f, m.fields.find? (fun f => (lib.initializer? t' m.role f.type).isNone) = some f ∧
        e = .missingDefault s.name f.nativeName := by
    rw [on_layout_of_draft drafted, ← defaultImpl_eq_error_iff wanted]
    cases lib.defaultImpl t' s m.role m.fields <;> simp [Except.map]
  constructor
  · intro e failed
    obtain ⟨f, found, named⟩ := (fails e).1 failed
    exact ⟨f, List.mem_of_find?_eq_some found, named⟩
  · simp only [fails]
    constructor
    · rintro ⟨_, f, found, _⟩
      have none : lib.initializer? t' m.role f.type = none := by simpa using List.find?_some found
      obtain ⟨plain, holds⟩ := (initializer?_eq_none_iff marked _ _).1 none
      exact ⟨plain, f, List.mem_of_find?_eq_some found, holds⟩
    · rintro ⟨plain, f, member, holds⟩
      have none : lib.initializer? t' m.role f.type = none :=
        (initializer?_eq_none_iff marked m.role f.type).2 ⟨plain, holds⟩
      have exists_found : (m.fields.find? fun f =>
          (lib.initializer? t' m.role f.type).isNone).isSome := by
        rw [List.find?_isSome]
        exact ⟨f, member, by simp [none]⟩
      obtain ⟨g, found⟩ := Option.isSome_iff_exists.1 exists_found
      exact ⟨g.nativeName, g, found, rfl⟩
  · intro f _
    have missing : lib.initializer? t' m.role f.type = none ↔
        m.role.hasShape = false ∧ t'.HoldsRef f.type :=
      initializer?_eq_none_iff marked m.role f.type
    exact (isBare_spell_iff marked m.role f.type).trans missing

/-- The lines of a struct and of its default value go side by side. -/
theorem exists_lines {fields : List LayoutField} {is : List Initializer}
    {spelled : LayoutField → Spelling}
    (fits : List.Forall₂ (fun f i => (t.target f.type).kind ∈ [.pointer, .array, .function] →
      lib.Initializes t m.role f.type ((spelled f).text "'a") i.text) fields is) :
    ∃ lines : List (Step × Step),
      lines.map (·.1) = fields.map (fun f => LayoutItem.fieldLine
        { name := f.name, type := spelled f, isPublic := f.isPublic }) ∧
      lines.map (·.2) = ((fields.map (·.name)).zip is).map (fun f =>
        .line (f.1 ++ ": " ++ f.2.text ++ ",")) ∧
      List.Forall₂ (lib.FieldLines t m) fields lines := by
  induction fits with
  | nil => exact ⟨[], rfl, rfl, .nil⟩
  | @cons f i fields is fit _ ih =>
    obtain ⟨lines, declared, valued, rest⟩ := ih
    refine ⟨(_, _) :: lines, congrArg _ declared, congrArg _ valued, .cons ?_ rest⟩
    exact ⟨(spelled f).text "'a", i.text, rfl, rfl, fit⟩

theorem Initialized.writesDefault {is : List Initializer}
    (initialized : lib.Initialized a.types m (a.fieldSpelling m))
    (written : m.default = .manual is) : lib.WritesDefault a.types m (a.layoutItem m).steps := by
  obtain ⟨lines, declared, valued, fits⟩ := exists_lines (initialized is written)
  have body : (a.layoutItem m).body = lines.map (·.1) ++
      if (a.layoutItem m).borrows then [.line "_marker: PhantomData<&'a ()>,"] else [] := by
    rw [declared, LayoutItem.body, Analysis.layoutItem, List.map_map]
    rfl
  have default : (a.layoutItem m).default = some ((m.fields.map (·.name)).zip is) := by
    simp [Analysis.layoutItem, written]
  have struct := (a.layoutItem m).struct_mem_steps.2 ⟨rfl, rfl⟩
  have value := LayoutItem.default_mem_steps default
  rw [body] at struct
  rw [← valued] at value
  exact ⟨_, lines, struct, value, fits⟩

/-- Whatever was asked of a table before, the initializers of a struct fit the fields as they are
spelled, then and where the layout is declared and written in the end, and none is missing but for
bare references. -/
theorem initializers_fit (reached : lib.Reached t) (s : StructDecl) :
    (∀ m t', on (lib.layout s) t = (.ok m, t') →
      lib.Initialized t' m fun f => t'.spell m.role.style f.type) ∧
    (∀ a, lib.analyze = .ok a → ∀ m ∈ a.layouts, m.native = s.name →
      lib.Initialized a.types m (a.fieldSpelling m) ∧
        (∀ is, m.default = .manual is →
          lib.WritesDefault a.types m (Item.layout (a.layoutItem m)).steps) ∧
        (⟨.struct, s.name⟩ ∈ lib.description.declarations → a.layout? s.name = some m →
          m.isVisible → ∀ items, a.items = .ok items → .layout (a.layoutItem m) ∈ items)) ∧
    ∀ m t', on (lib.draft s) t = (.ok m, t') → lib.wantsDefault s m.role →
      lib.Misses t' s m (on (lib.layout s) t).1 := by
  have flagged := (Reached.call (.layout s) reached).flagged
  refine ⟨fun m t' run => ?_, fun a success m member _ => ?_, fun m t' drafted wanted => ?_⟩
  · rw [Call.leaves, run] at flagged
    exact flagged.initialized (defaultImpl_of_layout run)
  · obtain ⟨u, analyzed⟩ := lib.analyzed success
    obtain ⟨_, s, _, _, _, mirrors⟩ := analyzed.mirrors member
    have same := analyzed.reflagged
    have flagged : lib.Flagged a.types := ⟨u, analyzed.formed, same⟩
    have made : lib.defaultImpl a.types s m.role m.fields = .ok m.default := by
      rw [← mirrors.default]
      unfold defaultImpl
      simp only [initializer?_reflag same]
    have spelled : a.fieldSpelling m = fun f => a.types.spell m.role.style f.type :=
      funext (a.fieldSpelling_eq_spell m)
    have initialized : lib.Initialized a.types m (a.fieldSpelling m) := by
      rw [spelled]
      exact flagged.initialized made
    refine ⟨initialized, fun is written => initialized.writesDefault written, ?_⟩
    intro declared known visible items emitted
    rw [← analyzed.library] at declared
    exact (Analysis.mem_items_iff emitted).2 (.layout declared known visible)
  · rw [Call.leaves, on_layout_of_draft drafted] at flagged
    exact flagged.misses drafted wanted

def hooks : StructDecl where
  name := "hooks"
  shortName := "hooks"
  fields := [{ name := "input", type := "const void*" }, { name := "output", type := "void*" },
    { name := "call", type := "cb*" }, { name := "next", type := "node*?" },
    { name := "near", type := "node*?[4]" }, { name := "buffer", type := "int[64]" }]
  isPod := true

def rows : StructDecl where
  name := "rows"
  shortName := "rows"
  fields := [{ name := "items", type := "node*[2]" }]
  isPod := true

def hookLibrary : Library where
  description := {
    types := ⟨[("cb", { kind := .function }),
      ("cb*", { kind := .pointer, inner := some "cb" }),
      ("const void*", { kind := .pointer, isConst := true, inner := some "void" }),
      ("hooks", { kind := .struct }),
      ("int", { kind := .primitive }),
      ("int[64]", { kind := .array, inner := some "int", arrayLength := some 64 }),
      ("node", { kind := .struct }),
      ("node*", { kind := .pointer, inner := some "node" }),
      ("node*?", { kind := .pointer, isNullable := true, inner := some "node" }),
      ("node*?[4]", { kind := .array, inner := some "node*?", arrayLength := some 4 }),
      ("node*[2]", { kind := .array, inner := some "node*", arrayLength := some 2 }),
      ("rows", { kind := .struct }),
      ("void", { kind := .primitive }),
      ("void*", { kind := .pointer, inner := some "void" })], by decide⟩
    structs := ⟨[("hooks", hooks), ("node", { name := "node", shortName := "node" }),
      ("rows", rows)], by decide⟩
    declarations := [⟨.struct, "hooks"⟩, ⟨.struct, "node"⟩] }
  config := { link := "x" }

/-- The hooks have a default value of six forms, and the rows have none. -/
theorem hooks_initialized : hookLibrary.Reached {} ∧
    (∃ m t', on (hookLibrary.layout hooks) {} = (.ok m, t') ∧
      m.default = .manual [.null, .nullMut, .absent, .standard, .standard, .zeroed] ∧
      hookLibrary.Initialized t' m fun f => t'.spell m.role.style f.type) ∧
    (∃ a m, hookLibrary.analyze = .ok a ∧ m ∈ a.layouts ∧ m.native = hooks.name ∧
      m.default = .manual [.null, .nullMut, .absent, .standard, .standard, .zeroed] ∧
      m.fields.map (fun f => (a.fieldSpelling m f).text "'a") = ["*const c_void", "*mut c_void",
        "Option<unsafe extern \"C\" fn()>", "Option<Ref<Node>>", "[Option<Ref<Node>>; 4]",
        "[i32; 64]"] ∧
      hookLibrary.Initialized a.types m (a.fieldSpelling m) ∧
      hookLibrary.WritesDefault a.types m (Item.layout (a.layoutItem m)).steps ∧
      ∃ items, a.items = .ok items ∧ .layout (a.layoutItem m) ∈ items) ∧
    ∃ m t', on (hookLibrary.draft rows) {} = (.ok m, t') ∧
      hookLibrary.wantsDefault rows m.role ∧
      (on (hookLibrary.layout rows) {}).1 = .error (.missingDefault "rows" "items") ∧
      hookLibrary.Misses t' rows m (on (hookLibrary.layout rows) {}).1 := by
  have fresh : hookLibrary.Reached {} := .new
  refine ⟨fresh, ?_, ?_, ?_⟩
  · have made : (on (hookLibrary.layout hooks) {}).1.toOption.any (fun m =>
        m.default = .manual [.null, .nullMut, .absent, .standard, .standard, .zeroed]) := by
      decide +kernel
    obtain ⟨m, success, default⟩ := ok_of_any made
    have run : on (hookLibrary.layout hooks) {} = (.ok m, _) := Prod.ext success rfl
    exact ⟨m, _, run, of_decide_eq_true default, (initializers_fit fresh hooks).1 m _ run⟩
  · have laid : hookLibrary.analyze.toOption.any (fun a => a.items.toOption.any fun _ =>
        a.layouts.any fun m =>
          (m.native = hooks.name ∧ a.layout? hooks.name = some m ∧ m.isVisible) ∧
          m.default = .manual [.null, .nullMut, .absent, .standard, .standard, .zeroed] ∧
          m.fields.map (fun f => (a.fieldSpelling m f).text "'a") = ["*const c_void",
            "*mut c_void", "Option<unsafe extern \"C\" fn()>", "Option<Ref<Node>>",
            "[Option<Ref<Node>>; 4]", "[i32; 64]"]) := by
      decide +kernel
    obtain ⟨a, success, laid⟩ := ok_of_any laid
    obtain ⟨items, emitted, laid⟩ := ok_of_any laid
    obtain ⟨m, member, checked⟩ := List.any_eq_true.1 laid
    obtain ⟨⟨native, known, visible⟩, default, types⟩ := of_decide_eq_true checked
    obtain ⟨initialized, written, emits⟩ :=
      (initializers_fit fresh hooks).2.1 a success m member native
    exact ⟨a, m, success, member, native, default, types, initialized, written _ default, items,
      emitted, emits (by decide) known visible items emitted⟩
  · have wanted : (on (hookLibrary.draft rows) {}).1.toOption.any (fun m =>
        hookLibrary.wantsDefault rows m.role) := by decide +kernel
    obtain ⟨m, success, wanted⟩ := ok_of_any wanted
    have drafted : on (hookLibrary.draft rows) {} = (.ok m, _) := Prod.ext success rfl
    exact ⟨m, _, drafted, wanted, by decide +kernel,
      (initializers_fit fresh rows).2.2 m _ drafted wanted⟩

end Library

end Bindery
