import Bindery.Proofs.Closure
import Bindery.Proofs.Dispatch
import Bindery.Proofs.Emission
import Bindery.Proofs.Enumeration
import Bindery.Proofs.Identifier
import Bindery.Proofs.Range
import Bindery.Proofs.Reading

/-!
# Names that the output defines

Fields, variants, constants, functions, methods and parameters are escaped where they are named, so
they are identifiers whatever they are called in the description. The names of types are cased only.
They are the ones that can begin with a digit or be a keyword.
-/
namespace Bindery

open Typing Ident

/-- What is defined under the same name in every output: the mark of a lifetime, the functions of
traits with their parameters, and the parts of callbacks, results and elements. -/
def givenNames : List String :=
  ["_marker", "default", "index", "lower", "lower_mut", "arena", "_arena", "from_func", "func",
   "None", "Mut", "Ref", "Raw", "Result", "retain", "free", "ptr", "ElementData", "as_data"]

def definedNames (items : List Item) : List String := givenNames ++ items.flatMap (·.defines)

def EnumItem.title : EnumItem → String
  | .closed name .. | .flags name _ => name

def Item.title? : Item → Option String
  | .layout m => some m.name
  | .enumeration e => some e.title
  | .shape s => some s.name
  | .callback c => some c.name
  | .root r => some r.handle
  | _ => none

theorem title_mem_defines {i : Item} {title : String} (given : title ∈ i.title?) :
    title ∈ i.defines := by
  cases i with
  | layout | shape | callback | root =>
    cases given
    exact List.mem_cons_self
  | enumeration e =>
    cases e <;>
    · cases given
      exact List.mem_cons_self
  | _ => cases given

theorem Description.mem_declared_iff {d : Description} {kind : DeclKind} {name : String} :
    name ∈ d.declared kind ↔ ⟨kind, name⟩ ∈ d.declarations := by
  refine ⟨fun member => ?_, fun member => List.mem_map.2 ⟨_, List.mem_filter.2 ⟨member, ?_⟩, rfl⟩⟩
  · obtain ⟨d, chosen, rfl⟩ := List.mem_map.1 member
    obtain ⟨declared, same⟩ := List.mem_filter.1 chosen
    obtain rfl : d.kind = kind := of_decide_eq_true same
    exact declared
  · exact decide_eq_true rfl

namespace Analysis

variable {a : Analysis} {m : Layout} {e : Enumeration}

def shapes (a : Analysis) : List Layout :=
  a.visibleLayouts.filter fun m => m.role = .input || m.role = .callback

def shownEnums (a : Analysis) : List Enumeration :=
  (a.library.description.declared .enum).filterMap fun name => (a.enum? name).filter (!·.ignored)

theorem mem_mirrors_iff : m ∈ a.mirrors ↔ ∃ native,
    ⟨.struct, native⟩ ∈ a.library.description.declarations ∧ a.layout? native = some m ∧
      m.isVisible := by
  simp [mirrors, Description.mem_declared_iff, Option.filter_eq_some_iff]

theorem mem_shownEnums_iff : e ∈ a.shownEnums ↔ ∃ native,
    ⟨.enum, native⟩ ∈ a.library.description.declarations ∧ a.enum? native = some e ∧
      e.ignored = false := by
  simp [shownEnums, Description.mem_declared_iff, Option.filter_eq_some_iff]

end Analysis

namespace Library

variable {lib : Library} {t t' : TypeTable} {a : Analysis} {s : StructDecl} {m : Layout}
  {w : Wrapper} {r : Root} {roots : List Root} {e : Enumeration}

/-! ### What is escaped -/

theorem Mirrors.proper_field (mirrors : lib.Mirrors t s m) {f : LayoutField}
    (member : f ∈ m.fields) :
    Proper f.name := by
  obtain ⟨_, _, each⟩ := mirrors.fields
  obtain ⟨d, _, run⟩ := exists_left_of_forall₂ each member
  unfold layoutField at run
  obtain ⟨_, _, _, run⟩ := on_bind_eq_ok.1 run
  rw [on_get_bind] at run
  obtain ⟨_, _, run⟩ := on_liftOutcome_bind_eq_ok.1 run
  cases run
  exact proper_escape d.name

theorem Analyzed.enumerated (analyzed : lib.Analyzed t a) (member : e ∈ a.enums) :
    ∃ key d, lib.description.enums.find? key = some d ∧
      lib.description.enumeration lib.config d = .ok e := by
  obtain ⟨key, _, run⟩ := exists_left_of_forall₂ (mapM_eq_ok_iff.1 analyzed.enums) member
  unfold declaredEnum at run
  split at run
  next => cases run
  next d known => exact ⟨key, d, known, run⟩

theorem Analyzed.proper_value (analyzed : lib.Analyzed t a) (member : e ∈ a.enums) {v : EnumValue}
    (inside : v ∈ e.values) : Proper v.name := by
  obtain ⟨_, _, _, run⟩ := analyzed.enumerated member
  obtain ⟨constants, _, rfl⟩ := Description.enumeration_eq_ok run
  obtain ⟨value, _, rfl⟩ := List.mem_map.1 (List.mem_filter.1 inside).1
  exact proper_escape _

structure Escapes (w : Wrapper) : Prop where
  name : ∃ plain, w.name = escape plain
  args : ∀ arg ∈ w.args, ∃ plain, arg.name = escape plain
  method : ∀ m ∈ w.method, ∃ plain, m.name = escape plain

theorem Analyzed.escapes (analyzed : lib.Analyzed t a) (member : w ∈ a.wrappers) : Escapes w := by
  obtain ⟨f, _, run⟩ := exists_left_of_forall₂ analyzed.wrappers member
  refine ⟨?_, fun arg inside => ?_, fun m promoted => ?_⟩
  · obtain ⟨_, _, _, _, _, _, _, _, rfl⟩ := wrapper_cases run
    exact ⟨f.shortName, rfl⟩
  · obtain ⟨_, reads⟩ := reads_of_wrapper run
    obtain ⟨_, d, _, name⟩ := reads.named inside
    exact ⟨d.name, name⟩
  · obtain ⟨_, made⟩ := method_of_wrapper run promoted
    obtain ⟨_, promotes⟩ := promotes_of_method made
    exact ⟨_, promotes.name⟩

theorem Escapes.proper_param (escapes : Escapes w) (a : Analysis) {safe : Bool}
    {p : String × String} (member : p ∈ (a.signature w safe).params) : Proper p.1 := by
  obtain ⟨arg, visible, rfl⟩ := List.mem_map.1 member
  obtain ⟨plain, name⟩ := escapes.args arg (List.mem_filter.1 visible).1
  exact name ▸ proper_escape plain

theorem Escapes.proper_function (escapes : Escapes w) {records : Records} {f : FunctionItem}
    (made : f ∈ a.functionItems records w) : ∀ name ∈ f.defines, Proper name := by
  obtain ⟨plain, own⟩ := escapes.name
  have own : Proper w.name := own ▸ proper_escape plain
  have raw : Proper (w.name ++ "_raw") := (proper_append_iff (.inl rfl) rfl).2 own.undigited
  have params (safe : Bool) : ∀ name ∈ (a.signature w safe).params.map (·.1), Proper name := by
    intro name member
    obtain ⟨p, inside, rfl⟩ := List.mem_map.1 member
    exact escapes.proper_param a inside
  unfold Analysis.functionItems at made
  split at made
  next => cases made
  next =>
    split at made
    next =>
      rcases List.mem_cons.1 made with rfl | made
      · exact List.forall_mem_cons.2 ⟨raw, params false⟩
      · split at made
        next => cases made
        next =>
          cases List.mem_singleton.1 made
          exact List.forall_mem_cons.2 ⟨own, params true⟩
    next =>
      cases List.mem_singleton.1 made
      exact List.forall_mem_cons.2 ⟨own, params true⟩

theorem Escapes.proper_method (escapes : Escapes w) {m : Method} {item : MethodItem}
    (promoted : m ∈ w.method) (made : a.methodItem w m = some item) :
    ∀ name ∈ item.defines, Proper name := by
  obtain ⟨plain, own⟩ := escapes.method m promoted
  obtain ⟨self, _, rfl⟩ := Option.map_eq_some_iff.1 made
  refine List.forall_mem_cons.2 ⟨own ▸ proper_escape plain, fun name member => ?_⟩
  obtain ⟨p, inside, rfl⟩ := List.mem_map.1 member
  exact escapes.proper_param a (List.mem_filter.1 inside).1

theorem proper_nativeParams {index : Nat} {ds : List ArgDecl} {params : List (String × Spelling)}
    (made : a.nativeParams index ds = .ok params) : ∀ p ∈ params, Proper p.1 := by
  induction ds generalizing index params with
  | nil =>
    cases made
    nofun
  | cons d ds ih =>
    unfold Analysis.nativeParams at made
    split at made
    next => cases made
    next =>
      obtain ⟨rest, later, same⟩ := bind_eq_ok_iff.1 made
      cases same
      refine List.forall_mem_cons.2 ⟨?_, ih later⟩
      dsimp only
      split
      next => exact proper_numbered index
      next => exact proper_escape d.name

theorem proper_link {link : LinkItem} (made : a.linkItem = .ok link) :
    ∀ name ∈ (Item.link link).defines, Proper name := by
  obtain ⟨functions, each, same⟩ := bind_eq_ok_iff.1 made
  cases same
  intro name member
  obtain ⟨f, inside, param⟩ := List.mem_flatMap.1 member
  obtain ⟨p, given, rfl⟩ := List.mem_map.1 param
  obtain ⟨_, _, run⟩ := exists_left_of_forall₂ (mapM_eq_ok_iff.1 each) inside
  obtain ⟨params, read, same⟩ := bind_eq_ok_iff.1 run
  cases same
  exact proper_nativeParams read p given

theorem Analyzed.proper_global (analyzed : lib.Analyzed t a) {g : Global} {item : GlobalItem}
    (member : g ∈ a.globals) (made : a.globalItem g = some item) : Proper item.name := by
  obtain ⟨d, _, run⟩ := exists_left_of_forall₂ analyzed.globals member
  unfold Library.global at run
  obtain ⟨_, _, _, run⟩ := on_bind_eq_ok.1 run
  rw [on_get_bind] at run
  cases run
  unfold Analysis.globalItem at made
  split at made
  next => cases made
  next =>
    cases made
    exact proper_escape d.shortName

/-- A variant of an element has the name of a constant. -/
theorem Analyzed.proper_element (analyzed : lib.Analyzed t a) {e : ElementItem}
    (made : a.elementItem? = .ok (some e)) {v : ElementVariant} (member : v ∈ e.variants) :
    Proper v.name := by
  obtain ⟨_, kind, _, known, yields⟩ := Analysis.yields_of_elementItem? made
  obtain ⟨_, _, stands⟩ := exists_left_of_forall₂ yields.each member
  obtain ⟨value, inside, same⟩ := List.mem_map.1 stands.constant
  rw [← stands.same, ← same]
  exact analyzed.proper_value (List.mem_of_find?_eq_some known) inside

/-! ### What is cased only -/

theorem defines_item (e : Enumeration) : e.item.defines = e.name :: e.values.map (·.name) := by
  unfold Enumeration.item
  split <;> simp [EnumItem.defines]

theorem title_item (e : Enumeration) : e.item.title = e.name := by
  unfold Enumeration.item
  split <;> rfl

/-- Texts in inline buffers are read by methods with the names of their fields. -/
theorem defines_layoutItem {name : String} (member : name ∈ (a.layoutItem m).defines) :
    name = m.name ∨ ∃ f ∈ m.fields, name = f.name := by
  rcases List.mem_cons.1 member with rfl | member
  · exact .inl rfl
  right
  rcases List.mem_append.1 member with field | text
  · obtain ⟨_, item, rfl⟩ := List.mem_map.1 field
    obtain ⟨f, inside, rfl⟩ := List.mem_map.1 item
    exact ⟨f, inside, rfl⟩
  · obtain ⟨_, item, rfl⟩ := List.mem_map.1 text
    obtain ⟨f, inside, made⟩ := List.mem_filterMap.1 item
    obtain ⟨_, _, rfl⟩ := Option.map_eq_some_iff.1 made
    exact ⟨f, inside, rfl⟩

/-- All names are proper but for those of types. -/
theorem Analyzed.title_or_proper (analyzed : lib.Analyzed t a) {i : Item} (makes : a.Makes i)
    {name : String} (member : name ∈ i.defines) : name ∈ i.title? ∨ Proper name := by
  have fields {m : Layout} (inside : m ∈ a.layouts) : ∀ f ∈ m.fields, Proper f.name := by
    obtain ⟨_, _, _, _, _, mirrors⟩ := analyzed.mirrors inside
    exact fun f => mirrors.proper_field
  cases makes with
  | layout _ known =>
    obtain rfl | ⟨f, inside, rfl⟩ := defines_layoutItem member
    · exact .inl rfl
    · exact .inr (fields (List.mem_of_find?_eq_some known) f inside)
  | @enumeration _ e _ known =>
    have member : name ∈ e.item.defines := member
    rw [defines_item, List.mem_cons] at member
    rcases member with rfl | value
    · exact .inl (congrArg some (title_item e))
    · obtain ⟨v, inside, rfl⟩ := List.mem_map.1 value
      exact .inr (analyzed.proper_value (List.mem_of_find?_eq_some known) inside)
  | shape shown =>
    rcases List.mem_cons.1 member with rfl | member
    · exact .inl rfl
    · obtain ⟨_, inside, rfl⟩ := List.mem_map.1 member
      obtain ⟨f, visible, rfl⟩ := List.mem_map.1 inside
      exact .inr (fields (List.mem_filter.1 shown).1 f (List.mem_filter.1 visible).1)
  | callback =>
    cases List.mem_singleton.1 member
    exact .inl rfl
  | copies | resultAlias => cases member
  | link linked => exact .inr (proper_link linked name member)
  | root =>
    cases List.mem_singleton.1 member
    exact .inl rfl
  | function wrapped _ made =>
    exact .inr ((analyzed.escapes wrapped).proper_function made name member)
  | global inside made =>
    cases List.mem_singleton.1 member
    exact .inr (analyzed.proper_global inside made)
  | methods grouped =>
    obtain ⟨item, inside, member⟩ := List.mem_flatMap.1 member
    obtain ⟨w, promoted, made⟩ := List.mem_filterMap.1 inside
    obtain ⟨m, method, made⟩ := Option.bind_eq_some_iff.1 made
    obtain ⟨wrapped, _⟩ := (Analysis.groupMethods_grouped _ grouped).members w promoted
    exact .inr ((analyzed.escapes wrapped).proper_method method made name member)
  | element made =>
    obtain ⟨v, inside, rfl⟩ := List.mem_map.1 member
    exact .inr (analyzed.proper_element made inside)

theorem proper_given : ∀ name ∈ givenNames, Proper name := by decide +kernel

/-- Whether all names of the output are proper is a matter of the names of its types. -/
theorem Analyzed.defined_iff (analyzed : lib.Analyzed t a) {items : List Item}
    (emitted : a.items = .ok items) : (∀ name ∈ definedNames items, Proper name) ↔
      ∀ i, a.Makes i → ∀ title ∈ i.title?, Proper title := by
  constructor
  · intro proper i makes title given
    have member := (Analysis.mem_items_iff emitted).2 makes
    exact proper title (List.mem_append_right _
      (List.mem_flatMap.2 ⟨i, member, title_mem_defines given⟩))
  · intro proper name member
    rcases List.mem_append.1 member with given | defined
    · exact proper_given name given
    · obtain ⟨i, inside, own⟩ := List.mem_flatMap.1 defined
      have makes := (Analysis.mem_items_iff emitted).1 inside
      exact (analyzed.title_or_proper makes own).elim (proper i makes name) id

/-- The names of the types that are emitted: layouts and idiomatic shapes, enums, and handles. -/
theorem Analyzed.titles_iff (analyzed : lib.Analyzed t a) {P : String → Prop} :
    (∀ i, a.Makes i → ∀ title ∈ i.title?, P title) ↔
      (∀ m ∈ a.mirrors, P m.name) ∧ (∀ m ∈ a.shapes, P m.safeName) ∧
        (∀ e ∈ a.shownEnums, P e.name) ∧ ∀ r ∈ a.roots, P r.handle := by
  constructor
  · intro titles
    refine ⟨fun m member => ?_, fun m member => ?_, fun e member => ?_, fun r member => ?_⟩
    · obtain ⟨native, declared, known, visible⟩ := Analysis.mem_mirrors_iff.1 member
      exact titles _ (.layout declared known visible) _ rfl
    · obtain ⟨shown, role⟩ := List.mem_filter.1 member
      simp only [Bool.or_eq_true, decide_eq_true_eq] at role
      rcases role with input | isCallback
      · exact titles _ (.shape shown input) _ rfl
      · obtain ⟨_, _, _, _, _, mirrors⟩ := analyzed.mirrors (List.mem_filter.1 shown).1
        have callback := mirrors.callback
        rw [if_pos isCallback] at callback
        obtain ⟨c, _, slots⟩ := callback
        exact titles _ (.callback shown isCallback slots) _ rfl
    · obtain ⟨native, declared, known, kept⟩ := Analysis.mem_shownEnums_iff.1 member
      exact titles _ (.enumeration declared known kept) _ (congrArg some (title_item e))
    · exact titles _ (.root member) _ rfl
  · rintro ⟨mirrors, shapes, enums, roots⟩ i makes title given
    cases makes with
    | layout declared known visible =>
      cases given
      exact mirrors _ (Analysis.mem_mirrors_iff.2 ⟨_, declared, known, visible⟩)
    | enumeration declared known kept =>
      cases given
      rw [title_item]
      exact enums _ (Analysis.mem_shownEnums_iff.2 ⟨_, declared, known, kept⟩)
    | shape shown input =>
      cases given
      exact shapes _ (List.mem_filter.2 ⟨shown, by simp [input]⟩)
    | callback shown isCallback =>
      cases given
      exact shapes _ (List.mem_filter.2 ⟨shown, by simp [isCallback]⟩)
    | root member =>
      cases given
      exact roots _ member
    | _ => cases given

theorem Describes.titles_of_kind {key : String} {ty : TypeDecl} {n : Node}
    (describes : lib.Describes t key ty n) (kind : n.kind = .struct) :
    ∃ base s role, lib.description.structs.find? base = some s ∧ s.role = .ok role ∧
      n.base = some s.name ∧ n.safeName = toPascal s.shortName ∧
      n.name = if role.hasShape then "Raw" ++ toPascal s.shortName else toPascal s.shortName := by
  obtain ⟨base, s, role, known, given, ⟨_, rfl⟩ | ⟨_, pointee, rfl⟩⟩ :=
    describes.structNode_of_kind kind
  · exact ⟨base, s, role, known, given, rfl, rfl, rfl⟩
  · refine ⟨base, s, role, known, given, ?_⟩
    unfold listNode
    split <;> exact ⟨rfl, rfl, rfl⟩

theorem handle_of_addRoots {fs : List FunctionDecl} {roots' : List Root}
    (named : ∀ r ∈ roots, r.handle = r.name ++ "Root")
    (run : on (fs.foldlM lib.addRoot roots) t = (.ok roots', t')) :
    ∀ r ∈ roots', r.handle = r.name ++ "Root" := by
  induction fs generalizing roots t with
  | nil =>
    cases run
    exact named
  | cons f fs ih =>
    rw [List.foldlM_cons] at run
    obtain ⟨between, _, first, later⟩ := on_bind_eq_ok.1 run
    refine ih ?_ later
    obtain ⟨_, rfl⟩ | ⟨_, s, _, _, ⟨_, rfl⟩ | ⟨_, r, made, rfl⟩⟩ := addRoot_cases first
    · exact named
    · exact named
    · have handle := (root_made made).2.2
      exact List.forall_mem_append.2 ⟨named, List.forall_mem_singleton.2 handle⟩

theorem proper_raw (name : String) : Proper ("Raw" ++ name) :=
  proper_of_head (.inr rfl) (by rw [String.toList_append]; rfl)

/-- For which short names the names of types are proper. -/
structure Titles (lib : Library) (a : Analysis) : Prop where
  /-- A layout whose own type is a struct is proper beside a shape, and else with that. -/
  layouts : ∀ m ∈ a.layouts, (a.types.node m.typeId).kind = .struct →
    ∃ base s role, lib.description.structs.find? base = some s ∧ s.role = .ok role ∧
      (a.types.node m.typeId).base = some s.name ∧
      (Proper m.name ↔ role.hasShape ∨ Titled s.shortName) ∧
      (Proper m.safeName ↔ Titled s.shortName)
  enums : ∀ e ∈ a.enums, ∃ key d, lib.description.enums.find? key = some d ∧ e.native = d.name ∧
    (Proper e.name ↔ Titled d.shortName)
  roots : ∀ r ∈ a.roots, ∃ key s, lib.description.structs.find? key = some s ∧
    r.native = s.name ∧ (Proper r.handle ↔ Undigited s.shortName)

theorem Analyzed.titles (analyzed : lib.Analyzed t a) : lib.Titles a where
  layouts := by
    intro m member kind
    obtain ⟨_, _, _, _, _, mirrors⟩ := analyzed.mirrors member
    obtain ⟨_, _, describes⟩ := analyzed.described kind
    rw [analyzed.reflagged.kind] at kind
    obtain ⟨base, s, role, known, given, own, safeName, name⟩ := describes.titles_of_kind kind
    have base' := (congrArg Node.base (analyzed.reflagged.frame m.typeId) :)
    refine ⟨base, s, role, known, given, base'.trans own, ?_, ?_⟩
    · rw [mirrors.name, name]
      split
      next shaped => simp [shaped, proper_raw]
      next plain => simp [plain, proper_toPascal_iff]
    · rw [mirrors.safeName, safeName, proper_toPascal_iff]
  enums := by
    intro e member
    obtain ⟨key, d, known, run⟩ := analyzed.enumerated member
    obtain ⟨_, _, rfl⟩ := Description.enumeration_eq_ok run
    exact ⟨key, d, known, rfl, proper_toPascal_iff d.shortName⟩
  roots := by
    intro r member
    obtain ⟨key, s, known, native, name⟩ := (collected analyzed.roots).described r member
    refine ⟨key, s, known, native, ?_⟩
    have handle := handle_of_addRoots (by simp) analyzed.roots r member
    rw [handle, name, proper_handle_iff]

/-- The names that can be read off the output are those that it defines. They are all identifiers
exactly if those of the emitted layouts, shapes, enums and handles are. Cased from a short name,
these are unless it begins with a digit or, but for handles, is a word that becomes a keyword. -/
theorem defined_proper_iff {input text : String} {config : Config}
    (success : generate input config = .ok text) :
    ∃ lib a items, Generates input config text lib a items ∧
      (∀ i ∈ items, ∃ names, Introduces i.steps names ∧ names ⊆ i.defines ∧
        ((∀ m, i ≠ .methods m) → names = i.defines)) ∧
      ((∀ name ∈ definedNames items, Proper name) ↔
        (∀ m ∈ a.mirrors, Proper m.name) ∧ (∀ m ∈ a.shapes, Proper m.safeName) ∧
          (∀ e ∈ a.shownEnums, Proper e.name) ∧ ∀ r ∈ a.roots, Proper r.handle) ∧
      lib.Titles a := by
  obtain ⟨lib, a, items, generates⟩ := generates_of_generate success
  obtain ⟨t, analyzed⟩ := lib.analyzed generates.analyzed
  refine ⟨lib, a, items, generates, fun i member => ?_,
    (analyzed.defined_iff generates.emitted).trans analyzed.titles_iff, analyzed.titles⟩
  exact analyzed.introduces ((Analysis.mem_items_iff generates.emitted).1 member)

def points : Library where
  description := {
    types := ⟨[("float", { key := "float", kind := .primitive }),
      ("point", { key := "point", kind := .struct })], by decide⟩
    structs := ⟨[("point", {
      name := "point"
      shortName := "3d_point"
      fields := [{ name := "x", type := "float" }] })], by decide⟩
    declarations := [⟨.struct, "point"⟩] }
  config := { link := "points" }

def pointsText : String :=
  String.join [
    "\x7b\"types\": \x7b",
    "\"float\": \x7b\"kind\": \"primitive\"\x7d,",
    "\"point\": \x7b\"kind\": \"struct\"\x7d\x7d,",
    "\"structs\": \x7b\"point\": \x7b\"short_name\": \"3d_point\", \"fields\": [",
    "\x7b\"name\": \"x\", \"type\": \"float\"\x7d]\x7d\x7d,",
    "\"declarations\": [\x7b\"kind\": \"struct\", \"name\": \"point\"\x7d]\x7d"]

theorem parse_pointsText : Description.parse pointsText = .ok points.description := by
  apply Description.parse_join (by repeat constructor)
  decide +kernel

/-- A struct is declared whose name begins with a digit. -/
theorem point_improper : ∃ text lib a items,
    generate pointsText points.config = .ok text ∧
    Generates pointsText points.config text lib a items ∧ "3dPoint" ∈ definedNames items ∧
    (∃ m ∈ a.mirrors, m.name = "3dPoint") ∧ ¬Titled "3d_point" ∧
    ¬∀ name ∈ definedNames items, Proper name := by
  have checked : points.analyze.toOption.any (fun a => a.prelude.toOption.any fun _ =>
      a.items.toOption.any fun _ => a.mirrors.map (·.name) = ["3dPoint"]) := by decide +kernel
  obtain ⟨a, analysis, checked⟩ := ok_of_any checked
  obtain ⟨prelude, imported, checked⟩ := ok_of_any checked
  obtain ⟨items, emitted, checked⟩ := ok_of_any checked
  obtain ⟨text, written⟩ : ∃ text, a.source (Digest.ofText pointsText) = .ok text :=
    ⟨_, Analysis.source_eq_ok_iff.2 ⟨prelude, items, imported, emitted, rfl⟩⟩
  have success := generate_eq_ok_iff.2 ⟨_, a, parse_pointsText, analysis, written⟩
  obtain ⟨⟨d, c⟩, a', items', generates, _, proper, _⟩ := defined_proper_iff success
  obtain rfl := Except.ok.inj (generates.parsed.symm.trans parse_pointsText)
  obtain rfl := generates.config
  obtain rfl := Except.ok.inj (generates.analyzed.symm.trans analysis)
  obtain rfl := Except.ok.inj (generates.emitted.symm.trans emitted)
  obtain ⟨m, mirrored, name⟩ : ∃ m ∈ a'.mirrors, m.name = "3dPoint" := by
    rw [← List.mem_map, of_decide_eq_true checked]
    exact List.mem_cons_self
  obtain ⟨native, declared, known, visible⟩ := Analysis.mem_mirrors_iff.1 mirrored
  have emits := (Analysis.mem_items_iff emitted).2 (.layout declared known visible)
  have defined : "3dPoint" ∈ definedNames items' :=
    List.mem_append_right _ (List.mem_flatMap.2 ⟨_, emits, name ▸ List.mem_cons_self⟩)
  refine ⟨text, _, a', items', success, generates, defined, ⟨m, mirrored, name⟩, by decide,
    fun all => ?_⟩
  have own := (proper.1 all).1 m mirrored
  rw [name] at own
  exact absurd own (by decide +kernel)

end Library

end Bindery
