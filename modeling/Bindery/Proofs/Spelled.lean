import Bindery.Proofs.Items
import Bindery.Proofs.Naming

/-!
# Types that the output spells

Which types are spelled in native declarations, in layouts and in the signatures of functions, and
how each of them is.
-/
namespace Bindery

theorem flatMap_eq_of_forall₂ {α β γ : Type} {f : α → List γ} {g : β → List γ} {as : List α}
    {bs : List β} (each : List.Forall₂ (fun a b => f a = g b) as bs) :
    as.flatMap f = bs.flatMap g := by
  induction each with
  | nil => rfl
  | cons first _ ih => rw [List.flatMap_cons, List.flatMap_cons, first, ih]

def LinkItem.spellings (l : LinkItem) : List Spelling :=
  l.functions.flatMap (fun f => f.params.map (·.2) ++ f.result.toList) ++ l.statics.map (·.2)

def LayoutItem.spellings (m : LayoutItem) : List Spelling :=
  m.fields.map (·.type) ++ m.output.toList

def Item.spellings : Item → List Spelling
  | .layout m => m.spellings
  | .link l => l.spellings
  | _ => []

def Item.layouts : Item → List LayoutItem
  | .layout m => [m]
  | _ => []

def Item.IsOther : Item → Prop
  | .layout _ | .link _ => False
  | _ => True

def FunctionItem.signature : FunctionItem → Signature
  | .safe _ s _ | .raw _ s _ | .lowering _ s _ => s

/-- The entry points of a function; `true` stands for the one over idiomatic shapes. -/
def Wrapper.entries (w : Wrapper) : List Bool :=
  if !w.exposed then []
  else if w.isRaw then false :: if w.rawOnly then [] else [true]
  else [true]

namespace Analysis

variable {a : Analysis} {items : List Item}

def mirrors (a : Analysis) : List Layout :=
  (a.library.description.declared .struct).filterMap fun name =>
    (a.layout? name).filter (·.isVisible)

def linkedFunctions (a : Analysis) : List (Wrapper × FunctionDecl) :=
  (a.wrappers.filter (·.linked)).filterMap fun w =>
    (a.library.description.functions.find? w.native).map (w, ·)

def nativeTypes (a : Analysis) (w : Wrapper) (f : FunctionDecl) : List TypeId :=
  let n := a.types.target w.result
  f.args.filterMap (a.types.find? ·.type) ++
    if n.isVoid ∧ n.kind = .primitive then [] else [w.result]

def linkTypes (a : Analysis) : List (Style × TypeId) :=
  (a.linkedFunctions.flatMap (fun p => a.nativeTypes p.1 p.2) ++
    (a.globals.filter (·.access ≠ .omitted)).map (·.type)).map (.native, ·)

/-- The types of the fields of a layout, and of what looking up an index yields. -/
def layoutTypes (m : Layout) : List (Style × TypeId) :=
  m.fields.map (fun f => (if m.role.hasShape then .input else .member, f.type)) ++
    if (m.field? "values").isSome && (m.field? "indices").isSome then
      m.indexType.toList.map (.member, ·)
    else []

def paramType? (a : Analysis) (arg : WrapperArg) (safe : Bool) : Option (Style × TypeId) :=
  let shaped := safe && arg.isRaw
  match arg.kind with
  | .string | .blob => none
  | .slice => arg.item.map (.native, ·)
  | .pointer =>
    match a.types.pointee arg.type with
    | none => some (.native, arg.type)
    | some p => some (if shaped then .shape else .member, p)
  | .callback => some (if shaped then .shape else .input, arg.type)
  | .plain => some (if shaped then .shape else .member, arg.type)
  | .errorOut | .panicOut => some (.member, arg.type)

def returnType? (a : Analysis) (w : Wrapper) : Option (Style × TypeId) :=
  match w.returnShape with
  | .void | .root _ => none
  | .value => some (.member, w.result)
  | .raw => some (.native, w.result)
  | .ref _ => (a.types.pointee w.result).map (.member, ·)

/-- The types in the signatures of the functions that stand for a native one. -/
def signatureTypes (a : Analysis) (w : Wrapper) : List (Style × TypeId) :=
  w.entries.flatMap fun safe =>
    w.visibleArgs.filterMap (a.paramType? · safe) ++ (a.returnType? w).toList

def spelledTypes (a : Analysis) : List (Style × TypeId) :=
  a.linkTypes ++ a.mirrors.flatMap layoutTypes ++
    a.wrappers.flatMap a.signatureTypes

theorem functionItems_signature (a : Analysis) (records : Records) (w : Wrapper) :
    (a.functionItems records w).map FunctionItem.signature = w.entries.map (a.signature w) := by
  unfold functionItems Wrapper.entries
  cases w.exposed <;> cases w.isRaw <;> cases w.rawOnly <;> rfl

def Shows (a : Analysis) (text : String) (part : Style × TypeId) : Prop :=
  ∃ before lifetime after, text = before ++ (a.types.spell part.1 part.2).text lifetime ++ after

theorem shows_text (a : Analysis) (part : Style × TypeId) (lifetime : String) :
    a.Shows ((a.types.spell part.1 part.2).text lifetime) part := ⟨"", lifetime, "", by simp⟩

variable {text : String} {part : Style × TypeId}

theorem Shows.within (shows : a.Shows text part) (before after : String) :
    a.Shows (before ++ text ++ after) part := by
  obtain ⟨first, lifetime, last, rfl⟩ := shows
  exact ⟨before ++ first, lifetime, last ++ after, by simp only [String.append_assoc]⟩

theorem Shows.behind (shows : a.Shows text part) (before : String) :
    a.Shows (before ++ text) part := by
  simpa using shows.within before ""

/-- The type of a parameter shows the type that it is written with. -/
theorem paramType_shows {arg : WrapperArg} {safe : Bool} (lifetime : String)
    (given : a.paramType? arg safe = some part) : a.Shows (a.paramType arg safe lifetime) part := by
  unfold paramType? at given
  unfold paramType
  cases kind : arg.kind <;> simp only [kind] at given ⊢
  case string | blob => cases given
  case slice =>
    obtain ⟨item, found, rfl⟩ := Option.map_eq_some_iff.1 given
    simp only [found]
    exact (a.shows_text (.native, item) "'_").within _ _
  case pointer =>
    cases points : a.types.pointee arg.type with
    | none =>
      simp only [points] at given ⊢
      cases given
      exact a.shows_text (.native, arg.type) "'_"
    | some p =>
      simp only [points] at given ⊢
      cases given
      cases safe && arg.isRaw with
      | true => exact a.shows_text (.shape, p) "'a"
      | false =>
        have shown := a.shows_text (.member, p) (if lifetime.isEmpty then "'_" else lifetime)
        have target := shown.behind
          ((if lifetime.isEmpty then "&" else "&" ++ lifetime ++ " ") ++
            if arg.isConst then "" else "mut ")
        cases arg.isNullable with
        | true => exact target.within _ _
        | false => exact target
  case callback =>
    cases given
    cases safe && arg.isRaw with
    | true => exact a.shows_text (.shape, arg.type) "'a"
    | false => exact a.shows_text (.input, arg.type) "'_"
  case plain =>
    cases given
    cases safe && arg.isRaw with
    | true => exact a.shows_text (.shape, arg.type) "'a"
    | false => exact a.shows_text (.member, arg.type) "'_"
  case errorOut | panicOut =>
    cases given
    exact a.shows_text (.member, arg.type) "'_"

/-- The type of a result shows the type that it is written with. -/
theorem returnType_shows {w : Wrapper} (given : a.returnType? w = some part) :
    ∃ text, a.returnType w = some text ∧ a.Shows text part := by
  have fallible {text : String} (shows : a.Shows text part) : ∃ text',
      (if w.fallible then some ("Result<" ++ (some text).getD "()" ++ ">") else some text) =
        some text' ∧ a.Shows text' part := by
    split
    · exact ⟨_, rfl, shows.within _ _⟩
    · exact ⟨_, rfl, shows⟩
  unfold returnType? at given
  unfold returnType
  cases shape : w.returnShape <;> simp only [shape] at given ⊢
  case void | root => cases given
  case value =>
    cases given
    exact fallible (a.shows_text (.member, w.result) "'static")
  case raw =>
    cases given
    exact fallible (a.shows_text (.native, w.result) "'static")
  case ref isNullable =>
    obtain ⟨p, points, rfl⟩ := Option.map_eq_some_iff.1 given
    have target := (a.shows_text (.member, p) "'a").behind "&'a "
    simp only [points]
    cases isNullable with
    | true => exact fallible (target.within _ _)
    | false => exact fallible target

theorem layoutItem_spellings (a : Analysis) (m : Layout) :
    (a.layoutItem m).spellings = (layoutTypes m).map fun p => a.types.spell p.1 p.2 := by
  have fields (f : LayoutField) : a.fieldSpelling m f =
      a.types.spell (if m.role.hasShape then .input else .member) f.type := by
    unfold fieldSpelling
    split <;> rfl
  simp only [LayoutItem.spellings, layoutItem, layoutTypes, List.map_append, List.map_map]
  congr 1
  · simp only [Function.comp_def, fields]
  · split
    · cases m.indexType <;> rfl
    · rfl

/-- The parameters of a native declaration are spelled like the native arguments. -/
theorem nativeParams_spelled {index : Nat} {ds : List ArgDecl}
    {params : List (String × Spelling)} (made : a.nativeParams index ds = .ok params) :
    List.Forall₂ (fun d p => ∃ type, a.types.find? d.type = some type ∧ p.2 = a.types.native type)
      ds params := by
  induction ds generalizing index params with
  | nil =>
    cases made
    exact .nil
  | cons d ds ih =>
    unfold nativeParams at made
    split at made
    next => cases made
    next type found =>
      obtain ⟨rest, later, same⟩ := bind_eq_ok_iff.1 made
      cases same
      exact .cons ⟨type, found, rfl⟩ (ih later)

theorem nativeParams_spellings {index : Nat} {args : List ArgDecl}
    {params : List (String × Spelling)} (made : a.nativeParams index args = .ok params) :
    params.map (·.2) = (args.filterMap (a.types.find? ·.type)).map a.types.native := by
  have each := nativeParams_spelled made
  clear made
  induction each with
  | nil => rfl
  | cons first _ ih =>
    obtain ⟨type, found, spelled⟩ := first
    rw [List.map_cons, List.filterMap_cons, found, List.map_cons, ih, spelled]

theorem linkItem_spellings {link : LinkItem} (made : a.linkItem = .ok link) :
    link.spellings = a.linkTypes.map fun p => a.types.spell p.1 p.2 := by
  obtain ⟨functions, each, same⟩ := bind_eq_ok_iff.1 made
  cases same
  have native (p : Wrapper × FunctionDecl) (f : NativeFunction)
      (run : a.nativeFunction p.1 p.2 = .ok f) :
      f.params.map (·.2) ++ f.result.toList = (a.nativeTypes p.1 p.2).map a.types.native := by
    obtain ⟨params, read, same⟩ := bind_eq_ok_iff.1 run
    cases same
    rw [nativeTypes, List.map_append, nativeParams_spellings read]
    congr 1
    dsimp only
    split <;> rfl
  have functions : functions.flatMap (fun f => f.params.map (·.2) ++ f.result.toList) =
      (a.linkedFunctions.flatMap fun p => a.nativeTypes p.1 p.2).map a.types.native := by
    have each : List.Forall₂ (fun p f => (a.nativeTypes p.1 p.2).map a.types.native =
        f.params.map (·.2) ++ f.result.toList) a.linkedFunctions functions :=
      (mapM_eq_ok_iff.1 each).imp fun p f run => (native p f run).symm
    rw [List.map_flatMap, flatMap_eq_of_forall₂ each]
  simp only [LinkItem.spellings, functions, linkTypes, List.map_append, List.map_map]
  rfl

/-- The signatures of the functions that stand for a native one show the types in them. -/
theorem signatureTypes_shown {w : Wrapper} (records : Records)
    (member : part ∈ a.signatureTypes w) :
    ∃ f ∈ a.functionItems records w, ∃ text,
      (text ∈ f.signature.params.map (·.2) ∨ f.signature.result = some text) ∧
        a.Shows text part := by
  obtain ⟨safe, entry, member⟩ := List.mem_flatMap.1 member
  obtain ⟨f, emitted, signature⟩ : ∃ f ∈ a.functionItems records w,
      f.signature = a.signature w safe := by
    have signature := List.mem_map_of_mem (f := a.signature w) entry
    rwa [← a.functionItems_signature records, List.mem_map] at signature
  refine ⟨f, emitted, ?_⟩
  rw [signature]
  rcases List.mem_append.1 member with param | result
  · obtain ⟨arg, visible, given⟩ := List.mem_filterMap.1 param
    obtain ⟨lifetime, inside⟩ : ∃ lifetime,
        (arg.name, a.paramType arg safe lifetime) ∈ (a.signature w safe).params :=
      ⟨_, List.mem_map.2 ⟨arg, visible, rfl⟩⟩
    exact ⟨_, .inl (List.mem_map_of_mem inside), paramType_shows lifetime given⟩
  · obtain ⟨text, written, shows⟩ := returnType_shows (Option.mem_toList.1 result)
    exact ⟨text, .inr written, shows⟩

section Items

variable {α : Type} {f : Item → List α} (other : ∀ i, i.IsOther → f i = [])

include other

theorem flatMap_declarationItem (a : Analysis) :
    (a.library.description.declarations.filterMap a.declarationItem).flatMap f =
      a.mirrors.flatMap fun m => f (.layout (a.layoutItem m)) := by
  rw [mirrors, Description.declared]
  induction a.library.description.declarations with
  | nil => rfl
  | cons d ds ih =>
    cases kind : d.kind with
    | struct =>
      have item : a.declarationItem d =
          ((a.layout? d.name).filter (·.isVisible)).map fun m => .layout (a.layoutItem m) := by
        rw [declarationItem, kind]
      cases shown : (a.layout? d.name).filter (·.isVisible) <;>
        simp [item, kind, shown, ih]
    | enum =>
      have item : a.declarationItem d =
          ((a.enum? d.name).filter (!·.ignored)).map fun e => .enumeration e.item := by
        rw [declarationItem, kind]
      cases shown : (a.enum? d.name).filter (!·.ignored) with
      | none => simp [item, kind, shown, ih]
      | some e => simp [item, kind, shown, ih, other (.enumeration e.item) trivial]
    | function | global => simp [declarationItem, kind, ih]

theorem flatMap_shapeItems (a : Analysis) (layouts : List Layout) :
    (layouts.filterMap a.shapeItems).flatMap f = [] := by
  refine List.flatMap_eq_nil_iff.2 fun i member => other i ?_
  obtain ⟨m, _, made⟩ := List.mem_filterMap.1 member
  unfold shapeItems at made
  split at made
  next =>
    cases made
    trivial
  next =>
    obtain ⟨c, _, rfl⟩ := Option.map_eq_some_iff.1 made
    trivial
  next => cases made

theorem flatMap_resultAlias {alias? : Option Item} (made : a.resultAlias = .ok alias?) :
    alias?.toList.flatMap f = [] := by
  unfold resultAlias at made
  split at made
  next =>
    cases made
    rfl
  next =>
    obtain ⟨m, _, same⟩ := bind_eq_ok_iff.1 made
    cases same
    simp [other (.resultAlias m.name) trivial]

/-- The layouts are emitted where they are declared, and what links once. -/
theorem items_flatMap (emitted : a.items = .ok items) :
    ∃ link, a.linkItem = .ok link ∧
      items.flatMap f = a.mirrors.flatMap (fun m => f (.layout (a.layoutItem m))) ++
        f (.link link) := by
  unfold Analysis.items at emitted
  obtain ⟨alias?, aliased, rest⟩ := bind_eq_ok_iff.1 emitted
  obtain ⟨link, linked, rest⟩ := bind_eq_ok_iff.1 rest
  obtain ⟨records, _, rest⟩ := bind_eq_ok_iff.1 rest
  obtain ⟨element, _, rest⟩ := bind_eq_ok_iff.1 rest
  cases rest
  have copies : (if a.copiedNames.isEmpty then [] else [Item.copies a.copiedNames]).flatMap f =
      [] := by
    split
    · rfl
    · simp [other (.copies a.copiedNames) trivial]
  have root (r : Root) : f (.root (a.rootItem r)) = [] := other _ trivial
  have function (i : FunctionItem) : f (.function i) = [] := other _ trivial
  have global (i : GlobalItem) : f (.global i) = [] := other _ trivial
  have methods (g : TypeId × List Wrapper) : f (.methods (a.methodsItem g)) = [] := other _ trivial
  have element (i : ElementItem) : f (.element i) = [] := other _ trivial
  refine ⟨link, linked, ?_⟩
  simp only [List.flatMap_append, flatMap_declarationItem other, flatMap_shapeItems other,
    flatMap_resultAlias other aliased, copies, List.flatMap_map, List.flatMap_assoc, root, function,
    global, methods]
  simp [element]

end Items

theorem items_layouts (emitted : a.items = .ok items) :
    items.flatMap Item.layouts = a.mirrors.map a.layoutItem := by
  have other (i : Item) (isOther : i.IsOther) : i.layouts = [] := by
    cases i with
    | layout => cases isOther
    | _ => rfl
  obtain ⟨link, _, layouts⟩ := items_flatMap other emitted
  simp [layouts, Item.layouts, List.map_eq_flatMap]

/-- What is spelled in the declarations of layouts and of what links, type by type. -/
theorem items_spellings (emitted : a.items = .ok items) :
    items.flatMap Item.spellings = (a.mirrors.flatMap layoutTypes ++ a.linkTypes).map
      fun p => a.types.spell p.1 p.2 := by
  have other (i : Item) (isOther : i.IsOther) : i.spellings = [] := by
    cases i with
    | layout | link => cases isOther
    | _ => rfl
  obtain ⟨link, linked, spellings⟩ := items_flatMap other emitted
  simp only [spellings, Item.spellings, linkItem_spellings linked, layoutItem_spellings,
    List.map_append, List.map_flatMap]

/-- A type is spelled in a declaration of the output, or shown in the signature of a function. -/
def ShownIn (a : Analysis) (items : List Item) (part : Style × TypeId) : Prop :=
  a.types.spell part.1 part.2 ∈ items.flatMap Item.spellings ∨
    ∃ f, .function f ∈ items ∧ ∃ text,
      (text ∈ f.signature.params.map (·.2) ∨ f.signature.result = some text) ∧ a.Shows text part

theorem spelledTypes_shown (emitted : a.items = .ok items) (spelled : part ∈ a.spelledTypes) :
    a.ShownIn items part := by
  simp only [spelledTypes, List.mem_append] at spelled
  rcases spelled with (linked | laid) | signed
  · left
    rw [items_spellings emitted]
    exact List.mem_map_of_mem (List.mem_append_right _ linked)
  · left
    rw [items_spellings emitted]
    exact List.mem_map_of_mem (List.mem_append_left _ laid)
  · right
    obtain ⟨w, wrapped, member⟩ := List.mem_flatMap.1 signed
    obtain ⟨records, recorded⟩ := records_of_items emitted
    obtain ⟨f, made, shown⟩ := signatureTypes_shown records member
    exact ⟨f, (mem_items_iff emitted).2 (.function wrapped recorded made), shown⟩

end Analysis

/-- The names in these declarations are those of the types that they are made of. -/
theorem Library.Analyzed.mem_names_iff {lib : Library} {t : TypeTable} {a : Analysis}
    {items : List Item} (analyzed : lib.Analyzed t a) (emitted : a.items = .ok items)
    (name : String) :
    (∃ s ∈ items.flatMap Item.spellings, name ∈ s.names) ↔
      ∃ whole ∈ a.mirrors.flatMap Analysis.layoutTypes ++ a.linkTypes, ∃ part,
        a.types.Made whole part ∧ name ∈ (a.types.node part.2).ownNames part.1 := by
  rw [Analysis.items_spellings emitted]
  simp only [List.mem_map, exists_exists_and_eq_and, TypeTable.mem_names_iff analyzed.ordered]

end Bindery
