import Bindery.Proofs.ShapeLifetime
import Bindery.Proofs.Spelled

/-!
# Structs that the output names

Which structs are declared in the output, and which that it names are not. Lists are named in native
signatures and unions wherever a field or an argument is of one, but neither is declared.
-/
namespace Bindery

open Typing

namespace Analysis

/-- A struct is spelled by its own name in a native declaration, a layout or a signature. -/
def Names (a : Analysis) (style : Style) (id : TypeId) : Prop :=
  (a.types.node id).kind = .struct ∧ (a.types.node id).isViewed style = false ∧
    ∃ whole ∈ a.spelledTypes, a.types.Made whole (style, id)

def ignores (a : Analysis) (id : TypeId) : Bool :=
  (a.types.node id).base.any a.library.config.isIgnored

/-- Each struct that is named and not ignored has a name that is declared. -/
def Closed (a : Analysis) (items : List Item) : Prop :=
  ∀ style id, a.Names style id → a.ignores id = false →
    (a.types.node id).name ∈ (items.flatMap Item.layouts).map (·.name)

end Analysis

/-- The role of a struct is the one that is flagged. -/
theorem StructDecl.flags_of_role {s : StructDecl} {role : Role} (given : s.role = .ok role) :
    (s.isList ↔ role = .list) ∧ (s.isUnion ↔ role = .union) := by
  have list : Role.list ∈ s.roles ↔ s.isList := by simp [roles]
  have union : Role.union ∈ s.roles ↔ s.isUnion := by simp [roles]
  rw [← list, ← union]
  unfold StructDecl.role at given
  split at given
  next none =>
    cases given
    simp [none]
  next one =>
    cases given
    simp [one, eq_comm]
  next => cases given

namespace Library

/-- The struct that a declaration is of: the first one by the name that is no union. -/
def mirrored? (lib : Library) (name : String) : Option StructDecl :=
  ((lib.description.declared .struct).filterMap lib.description.structs.find?).find? fun s =>
    s.name = name && !s.isUnion

def Emits (lib : Library) (t : TypeTable) (name : String) : Prop :=
  ∃ native s id, native ∈ lib.description.declared .struct ∧ lib.mirrored? native = some s ∧
    s.isList = false ∧ lib.config.isIgnored native = false ∧ t.find? native = some id ∧
      (t.node id).name = name

/-- All structs are declared, each under its own name, which names the type of the struct. -/
structure Filed (lib : Library) (t : TypeTable) : Prop where
  keyed : lib.description.Keyed
  declared : ∀ key ∈ lib.description.structs.keys, key ∈ lib.description.declared .struct
  own : ∀ id native own, (t.node id).kind = .struct → (t.node id).base = some native →
    t.find? native = some own → (t.node own).name = (t.node id).name

variable {lib : Library} {t : TypeTable} {a : Analysis} {s : StructDecl} {m : Layout}

/-- The layouts are found by name as the structs are. -/
theorem find?_layouts (formed : lib.Formed t) (complete : lib.Complete t) {names : List String}
    {made : List (Option Layout)} (native : String)
    (each : List.Forall₂ (fun name m => on (lib.declaredLayout name) t = (.ok m, t)) names made) :
    Option.Rel (lib.Mirrors t)
      ((names.filterMap lib.description.structs.find?).find? fun s => s.name = native && !s.isUnion)
      ((made.filterMap id).find? (·.native = native)) := by
  induction each with
  | nil => exact .none
  | cons first _ ih =>
    obtain ⟨s, known, ⟨given, rfl⟩ | ⟨m, rfl, layered, mirrors⟩⟩ :=
      declaredLayout_eq_ok formed complete first
    · have union : s.isUnion := (StructDecl.flags_of_role given).2.2 rfl
      simpa [known, union] using ih
    · have layered : s.isUnion = false := by
        simpa [layered] using (StructDecl.flags_of_role mirrors.role).2
      by_cases named : s.name = native
      · simpa [known, layered, mirrors.native, named] using mirrors
      · simpa [known, layered, mirrors.native, named] using ih

theorem Analyzed.layout?_rel (analyzed : lib.Analyzed t a) (native : String) :
    Option.Rel (lib.Mirrors t) (lib.mirrored? native) (a.layout? native) := by
  obtain ⟨made, layouts, each⟩ := analyzed.layouts
  rw [Analysis.layout?, layouts]
  exact find?_layouts analyzed.formed analyzed.complete native each

theorem Analyzed.mirrored?_of_layout? (analyzed : lib.Analyzed t a) {native : String}
    (found : a.layout? native = some m) :
    ∃ s, lib.mirrored? native = some s ∧ lib.Mirrors t s m := by
  have related := analyzed.layout?_rel native
  rw [found] at related
  cases known : lib.mirrored? native with
  | none =>
    rw [known] at related
    cases related
  | some s =>
    rw [known] at related
    cases related with
    | some mirrors => exact ⟨s, rfl, mirrors⟩

theorem Analyzed.layout?_of_mirrored? (analyzed : lib.Analyzed t a) {native : String}
    (known : lib.mirrored? native = some s) :
    ∃ m, a.layout? native = some m ∧ lib.Mirrors t s m := by
  have related := analyzed.layout?_rel native
  rw [known] at related
  cases found : a.layout? native with
  | none =>
    rw [found] at related
    cases related
  | some m =>
    rw [found] at related
    cases related with
    | some mirrors => exact ⟨m, rfl, mirrors⟩

theorem mirrored?_spec {native : String} (known : lib.mirrored? native = some s) :
    s.name = native ∧ s.isUnion = false ∧ ∃ key, lib.description.structs.find? key = some s := by
  obtain ⟨key, _, found⟩ := List.mem_filterMap.1 (List.mem_of_find?_eq_some known)
  have holds := List.find?_some known
  simp only [Bool.and_eq_true, decide_eq_true_eq, Bool.not_eq_true'] at holds
  exact ⟨holds.1, holds.2, key, found⟩

/-- A struct that is filed under its own name is the one that is declared by it. -/
theorem Filed.mirrored?_eq_some (filed : lib.Filed t) {key : String}
    (known : lib.description.structs.find? key = some s) (layered : s.isUnion = false) :
    lib.mirrored? s.name = some s := by
  have named := filed.keyed key s known
  have declared := filed.declared key (Table.mem_keys_of_find? known)
  have first : (lib.mirrored? s.name).isSome := List.find?_isSome.2
    ⟨s, List.mem_filterMap.2 ⟨key, declared, known⟩, by simp [layered]⟩
  obtain ⟨s', found⟩ := Option.isSome_iff_exists.1 first
  obtain ⟨named', _, key', known'⟩ := mirrored?_spec found
  rw [found, filed.keyed.eq_of_name known' known named']

/-- A layout is shown unless it is of a list or ignored. -/
theorem Mirrors.isVisible_iff {native : String} (mirrors : lib.Mirrors t s m)
    (known : lib.mirrored? native = some s) :
    m.isVisible ↔ s.isList = false ∧ lib.config.isIgnored native = false := by
  obtain ⟨named, union, _⟩ := mirrored?_spec known
  have ⟨list, isUnion⟩ := StructDecl.flags_of_role mirrors.role
  rw [union] at isUnion
  rw [Layout.isVisible, mirrors.ignored, named, Bool.and_eq_true, Bool.not_eq_true',
    ← Bool.not_eq_true s.isList, list]
  refine and_congr_left fun _ => ?_
  cases role : m.role <;> simp_all [Role.hasLayout]

/-- The names of the layouts in the output. -/
theorem Analyzed.emits_iff (analyzed : lib.Analyzed t a) {items : List Item}
    (emitted : a.items = .ok items) (name : String) :
    name ∈ (items.flatMap Item.layouts).map (·.name) ↔ lib.Emits a.types name := by
  have same := analyzed.reflagged
  have named {s : StructDecl} {m : Layout} (mirrors : lib.Mirrors t s m) :
      m.name = (a.types.node m.typeId).name := by
    rw [mirrors.name]
    exact (congrArg Node.name (same.frame m.typeId)).symm
  rw [Analysis.items_layouts emitted, List.map_map, Analysis.mirrors, analyzed.library]
  constructor
  · intro member
    obtain ⟨m, shown, rfl⟩ := List.mem_map.1 member
    obtain ⟨native, declared, found⟩ := List.mem_filterMap.1 shown
    obtain ⟨found, visible⟩ := Option.filter_eq_some_iff.1 found
    obtain ⟨s, known, mirrors⟩ := analyzed.mirrored?_of_layout? found
    obtain ⟨list, ignored⟩ := (mirrors.isVisible_iff known).1 visible
    refine ⟨native, s, m.typeId, declared, known, list, ignored, ?_, (named mirrors).symm⟩
    rw [same.find?, ← (mirrored?_spec known).1]
    exact mirrors.type
  · rintro ⟨native, s, id, declared, known, list, ignored, own, rfl⟩
    obtain ⟨m, found, mirrors⟩ := analyzed.layout?_of_mirrored? known
    have visible := (mirrors.isVisible_iff known).2 ⟨list, ignored⟩
    have shown : (a.layout? native).filter (·.isVisible) = some m :=
      Option.filter_eq_some_iff.2 ⟨found, visible⟩
    refine List.mem_map.2 ⟨m, List.mem_filterMap.2 ⟨native, declared, shown⟩, ?_⟩
    rw [same.find?, ← (mirrored?_spec known).1, mirrors.type] at own
    cases own
    exact named mirrors

/-- A type of kind struct is made for a described one. -/
theorem Describes.structNode_of_kind {key : String} {ty : TypeDecl} {n : Node}
    (describes : lib.Describes t key ty n) (kind : n.kind = .struct) :
    ∃ base s role, lib.description.structs.find? base = some s ∧ s.role = .ok role ∧
      (role ≠ .list ∧ n = lib.structNode (ty.plain key) s role ∨
        role = .list ∧ ∃ pointee, n = listNode (lib.structNode (ty.plain key) s role) t pointee) := by
  cases describes with
  | primitive => cases kind
  | wrapper wrapper =>
    rw [Node.wrapping_kind] at kind
    simp [Node.isWrapper, Node.isTransparent, kind] at wrapper
  | function isFunction => cases kind.symm.trans isFunction
  | struct _ known role other => exact ⟨_, _, _, known, role, .inl ⟨other, rfl⟩⟩
  | list _ known role => exact ⟨_, _, _, known, role, .inr ⟨rfl, _, rfl⟩⟩
  | enum isEnum => cases kind.symm.trans isEnum

theorem Describes.struct_of_kind {key : String} {ty : TypeDecl} {n : Node}
    (describes : lib.Describes t key ty n) (kind : n.kind = .struct) :
    ∃ base s role, lib.description.structs.find? base = some s ∧ s.role = .ok role ∧
      n.base = some s.name ∧ n.role = some role ∧ (role = .list → n.isList) := by
  obtain ⟨base, s, role, known, given, ⟨other, rfl⟩ | ⟨_, pointee, rfl⟩⟩ :=
    describes.structNode_of_kind kind
  · exact ⟨base, s, role, known, given, rfl, rfl, fun list => absurd list other⟩
  · refine ⟨base, s, role, known, given, ?_⟩
    unfold listNode
    split <;> exact ⟨rfl, rfl, fun _ => rfl⟩

theorem Analyzed.struct_of_kind (analyzed : lib.Analyzed t a) {id : TypeId}
    (kind : (a.types.node id).kind = .struct) :
    ∃ base s role, lib.description.structs.find? base = some s ∧ s.role = .ok role ∧
      (a.types.node id).base = some s.name ∧ (a.types.node id).role = some role ∧
      (role = .list → (a.types.node id).isList) := by
  obtain ⟨_, _, describes⟩ := analyzed.described kind
  rw [Node.eq_of_unflagged (analyzed.reflagged.frame id)] at kind ⊢
  exact describes.struct_of_kind kind

/-- Lists are named natively only. -/
theorem Analyzed.native_of_names_list (analyzed : lib.Analyzed t a) {style : Style} {id : TypeId}
    (names : a.Names style id) (list : (a.types.node id).role = some .list) : style = .native := by
  obtain ⟨kind, plain, _⟩ := names
  obtain ⟨_, _, role, _, _, _, isRole, isList⟩ := analyzed.struct_of_kind kind
  rw [isRole, Option.some.injEq] at list
  have isList := isList list
  cases style with
  | native => rfl
  | member | input | shape => simp [Node.isViewed, isList] at plain

/-- Under its own name each struct has a layout that is declared, but for lists and unions. -/
theorem Analyzed.emits_of_filed (analyzed : lib.Analyzed t a) (filed : lib.Filed a.types)
    {id : TypeId} (kind : (a.types.node id).kind = .struct) (free : a.ignores id = false)
    (list : (a.types.node id).role ≠ some .list) (union : (a.types.node id).role ≠ some .union) :
    lib.Emits a.types (a.types.node id).name := by
  obtain ⟨base, s, role, known, given, native, isRole, _⟩ := analyzed.struct_of_kind kind
  obtain rfl := filed.keyed base s known
  have declared := filed.declared s.name (Table.mem_keys_of_find? known)
  have ⟨isList, isUnion⟩ := StructDecl.flags_of_role given
  rw [isRole, ne_eq, Option.some.injEq, ← isList, Bool.not_eq_true] at list
  rw [isRole, ne_eq, Option.some.injEq, ← isUnion, Bool.not_eq_true] at union
  have mirrored := filed.mirrored?_eq_some known union
  obtain ⟨m, _, mirrors⟩ := analyzed.layout?_of_mirrored? mirrored
  have own : a.types.find? s.name = some m.typeId := by
    rw [analyzed.reflagged.find?]
    exact mirrors.type
  refine ⟨s.name, s, m.typeId, declared, mirrored, list, ?_, own,
    filed.own id s.name _ kind native own⟩
  simpa [Analysis.ignores, native, analyzed.library] using free

/-- The types that are spelled are shown in the output. Each struct that it names and the
configuration does not ignore is declared in it exactly if its name is that of a struct that is.
Where all structs are declared under their own names, this fails at most for lists, which native
signatures name, and for unions. -/
theorem names_closed_iff {input text : String} {config : Config}
    (success : generate input config = .ok text) :
    ∃ lib a items, Generates input config text lib a items ∧
      (∀ part ∈ a.spelledTypes, a.ShownIn items part) ∧
      (a.Closed items ↔ ∀ style id, a.Names style id → a.ignores id = false →
        lib.Emits a.types (a.types.node id).name) ∧
      (lib.Filed a.types → (a.Closed items ↔ ∀ style id, a.Names style id → a.ignores id = false →
        (a.types.node id).role = some .list ∧ style = .native ∨
          (a.types.node id).role = some .union → lib.Emits a.types (a.types.node id).name)) := by
  obtain ⟨lib, a, items, generates⟩ := generates_of_generate success
  obtain ⟨t, analyzed⟩ := lib.analyzed generates.analyzed
  have closed : a.Closed items ↔ ∀ style id, a.Names style id → a.ignores id = false →
      lib.Emits a.types (a.types.node id).name := by
    simp only [Analysis.Closed, analyzed.emits_iff generates.emitted]
  refine ⟨lib, a, items, generates, fun _ => Analysis.spelledTypes_shown generates.emitted, closed,
    fun filed => closed.trans ?_⟩
  constructor
  · exact fun emits style id names free _ => emits style id names free
  · intro emits style id names free
    by_cases list : (a.types.node id).role = some .list
    · exact emits style id names free (.inl ⟨list, analyzed.native_of_names_list names list⟩)
    by_cases union : (a.types.node id).role = some .union
    · exact emits style id names free (.inr union)
    · exact analyzed.emits_of_filed filed names.1 free list union

def listedNames : Library where
  description := {
    types := ⟨[("name", { key := "name", kind := .struct }),
      ("name*", { key := "name*", kind := .pointer, inner := some "name" }),
      ("name_list", { key := "name_list", kind := .struct }),
      ("size_t", { key := "size_t", kind := .primitive })], by decide⟩
    structs := ⟨[("name", { name := "name", shortName := "name" }),
      ("name_list", {
        name := "name_list"
        shortName := "name_list"
        fields := [{ name := "data", type := "name*" }, { name := "count", type := "size_t" }]
        isList := true })], by decide⟩
    functions := ⟨[("all_names",
      { name := "all_names", shortName := "all_names", returnType := "name_list" })], by decide⟩
    declarations := [⟨.struct, "name"⟩, ⟨.struct, "name_list"⟩, ⟨.function, "all_names"⟩] }
  config := { link := "names" }

def namesText : String :=
  String.join [
    "\x7b\"types\": \x7b",
    "\"name\": \x7b\"kind\": \"struct\"\x7d,",
    "\"name*\": \x7b\"kind\": \"pointer\", \"inner\": \"name\"\x7d,",
    "\"name_list\": \x7b\"kind\": \"struct\"\x7d,",
    "\"size_t\": \x7b\"kind\": \"primitive\"\x7d\x7d,",
    "\"structs\": \x7b\"name\": \x7b\x7d,",
    "\"name_list\": \x7b\"is_list\": true, \"fields\": [",
    "\x7b\"name\": \"data\", \"type\": \"name*\"\x7d,",
    "\x7b\"name\": \"count\", \"type\": \"size_t\"\x7d]\x7d\x7d,",
    "\"functions\": \x7b\"all_names\": \x7b\"return_type\": \"name_list\"\x7d\x7d,",
    "\"declarations\": [",
    "\x7b\"kind\": \"struct\", \"name\": \"name\"\x7d,",
    "\x7b\"kind\": \"struct\", \"name\": \"name_list\"\x7d,",
    "\x7b\"kind\": \"function\", \"name\": \"all_names\"\x7d]\x7d"]

theorem parse_namesText : Description.parse namesText = .ok listedNames.description := by
  apply Description.parse_join (by repeat constructor)
  decide +kernel

/-- The native declaration of the function names the list, which the output does not declare. -/
theorem nameList_undeclared : ∃ text lib a items,
    generate namesText listedNames.config = .ok text ∧
    Generates namesText listedNames.config text lib a items ∧ lib.Filed a.types ∧
    ¬a.Closed items ∧
    (a.Closed items ↔ ∀ style id, a.Names style id → a.ignores id = false →
      lib.Emits a.types (a.types.node id).name) ∧
    (a.Closed items ↔ ∀ style id, a.Names style id → a.ignores id = false →
      (a.types.node id).role = some .list ∧ style = .native ∨
        (a.types.node id).role = some .union → lib.Emits a.types (a.types.node id).name) := by
  have checked : listedNames.analyze.toOption.any (fun a => a.prelude.toOption.any fun _ =>
      a.items.toOption.any fun items => (Style.native, 2) ∈ a.spelledTypes ∧
        (a.types.node 2).kind = .struct ∧ a.ignores 2 = false ∧
        (a.types.node 2).name ∉ (items.flatMap Item.layouts).map (·.name) ∧
        ∀ id ∈ a.types.ids, ∀ native ∈ (a.types.node id).base, ∀ own ∈ a.types.find? native,
          (a.types.node own).name = (a.types.node id).name) := by decide +kernel
  obtain ⟨a, analysis, checked⟩ := ok_of_any checked
  obtain ⟨prelude, imported, checked⟩ := ok_of_any checked
  obtain ⟨items, emitted, checked⟩ := ok_of_any checked
  obtain ⟨spelled, kind, free, undeclared, named⟩ := of_decide_eq_true checked
  obtain ⟨text, written⟩ : ∃ text, a.source (Digest.ofText namesText) = .ok text :=
    ⟨_, Analysis.source_eq_ok_iff.2 ⟨prelude, items, imported, emitted, rfl⟩⟩
  have success := generate_eq_ok_iff.2 ⟨_, a, parse_namesText, analysis, written⟩
  obtain ⟨⟨d, c⟩, a', items', generates, _, closed, filedClosed⟩ := names_closed_iff success
  obtain rfl := Except.ok.inj (generates.parsed.symm.trans parse_namesText)
  obtain rfl := generates.config
  obtain rfl := Except.ok.inj (generates.analyzed.symm.trans analysis)
  obtain rfl := Except.ok.inj (generates.emitted.symm.trans emitted)
  have filed : listedNames.Filed a'.types := {
    keyed := by decide
    declared := by decide
    own := fun id native own kind base found => by
      have inside : id < a'.types.size := by
        by_contra outside
        rw [TypeTable.node_of_le (Nat.not_lt.1 outside)] at kind
        cases kind
      exact named id (List.mem_range.2 inside) native base own found }
  refine ⟨text, _, a', items', success, generates, filed, fun holds => ?_, closed,
    filedClosed filed⟩
  exact undeclared (holds .native 2 ⟨kind, rfl, _, spelled, .refl⟩ free)

end Library

end Bindery
