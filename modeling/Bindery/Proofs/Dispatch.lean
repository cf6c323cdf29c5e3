import Bindery.Proofs.Items
import Mathlib.Data.List.Perm.Subperm

/-!
# Match on the kind of an element

Whether the match covers all constants of the kind is decided by counting the variants. The count is
right as long as no two variants have one name: then their constants are different ones, and as many
as there are constants at all leave none out. So the match is total and unambiguous exactly if the
element types are listed once each, under names that differ.
-/
namespace Bindery

namespace ElementItem

def armNames (e : ElementItem) : List String := e.variants.map (·.kind)

/-- The match on the kind is total and unambiguous, and so is what it yields. -/
structure Dispatches (e : ElementItem) (kind : Enumeration) : Prop where
  /-- Each constant has an arm of its own, or there is one for all that have none. -/
  covers : e.hasOthers ∨ (kind.values.map (·.name)).Subperm e.armNames
  /-- No constant has two arms. -/
  arms : e.armNames.Nodup
  /-- No variant is defined twice. -/
  variants : (e.variants.map (·.name)).Nodup

/-- The enum is written with a line for each variant, and the match with an arm for each and, if
there are others, with one for these. -/
def Written (e : ElementItem) : Prop :=
  ∃ target variants arms others,
    .braces "pub enum ElementData<'a>" variants ∈ (Item.element e).steps ∧
    .braces ("impl " ++ target) [.braces "pub fn as_data(&self) -> ElementData<'_>"
      [.braces "unsafe" [.braces ("match self." ++ e.discriminant) (arms ++ others)]]] ∈
      (Item.element e).steps ∧
    List.Forall₂ (fun v line => ∃ type, line = .line (v.name ++ "(&'a " ++ type ++ "),"))
      e.variants variants ∧
    List.Forall₂ (fun v line => ∃ value, line = .line (e.kindEnum ++ "::" ++ v.kind ++
      " => ElementData::" ++ v.name ++ value)) e.variants arms ∧
    (e.hasOthers → ∃ value, others = [.line ("_ => " ++ value)]) ∧
    (e.hasOthers = false → others = [])

theorem written (e : ElementItem) : e.Written := by
  refine ⟨withLifetime "'_" e.base e.baseBorrows, _, e.variants.map e.arm, _,
    List.mem_of_getElem? (i := 4) rfl, List.mem_of_getElem? (i := 6) rfl, ?_, ?_, ?_, ?_⟩
  · rw [List.forall₂_map_right_iff, List.forall₂_same]
    exact fun v _ => ⟨_, rfl⟩
  · rw [List.forall₂_map_right_iff, List.forall₂_same]
    intro v _
    refine ⟨"(&*(self as *const Self as *const " ++ v.struct ++ ")),", ?_⟩
    simp only [arm, String.append_assoc]
  · intro others
    rw [if_pos others]
    exact ⟨"unreachable!(\"element kind without a concrete type\"),", rfl⟩
  · intro others
    rw [if_neg (by simp [others])]

end ElementItem

namespace Analysis

variable {a : Analysis} {items : List Item} {kind : Enumeration} {e : ElementItem}
  {v : ElementVariant} {name : String}

def variantName (a : Analysis) (name : String) : Option String :=
  (a.layout? name).map (·.safeName)

structure Stands (a : Analysis) (kind : Enumeration) (name : String) (v : ElementVariant) :
    Prop where
  named : a.variantName name = some v.name
  same : v.kind = v.name
  constant : v.kind ∈ kind.values.map (·.name)

theorem stands_of_elementVariant (made : a.elementVariant kind name = .ok v) :
    a.Stands kind name v := by
  unfold elementVariant at made
  split at made
  next => cases made
  next m known =>
    split at made
    next => cases made
    next value found =>
      cases made
      have same : value.name = m.safeName := by simpa using List.find?_some found
      exact {
        named := by rw [variantName, known, Option.map_some]
        same
        constant := List.mem_map_of_mem (List.mem_of_find?_eq_some found) }

/-- One variant for each element type, and an arm for all other constants if these are fewer. -/
structure Yields (a : Analysis) (kind : Enumeration) (e : ElementItem) : Prop where
  each : List.Forall₂ (a.Stands kind) a.library.description.elementTypes e.variants
  others : e.hasOthers ↔ e.variants.length < kind.values.length

theorem yields_of_elementItem? (made : a.elementItem? = .ok (some e)) :
    ∃ c kind, a.library.config.elements = some c ∧ a.enum? c.kindEnum = some kind ∧
      a.Yields kind e := by
  unfold elementItem? at made
  split at made
  next => cases made
  next c configured =>
    split at made
    next => cases made
    next =>
      obtain ⟨_, item, same⟩ := bind_eq_ok_iff.1 made
      cases same
      unfold elementItem at item
      split at item
      next => cases item
      next => cases item
      next base kind _ known =>
        split at item
        next => cases item
        next =>
          split at item
          next => cases item
          next =>
            obtain ⟨variants, mapped, same⟩ := bind_eq_ok_iff.1 item
            cases same
            exact ⟨c, kind, configured, known, {
              each := (mapM_eq_ok_iff.1 mapped).imp fun _ _ => stands_of_elementVariant
              others := by simp }⟩

namespace Yields

theorem variantNames (yields : a.Yields kind e) :
    a.library.description.elementTypes.map a.variantName = (e.variants.map (·.name)).map some := by
  rw [← List.forall₂_eq_eq_eq, List.map_map, List.forall₂_map_left_iff, List.forall₂_map_right_iff]
  exact yields.each.imp fun _ _ stands => stands.named

theorem armNames (yields : a.Yields kind e) : e.armNames = e.variants.map (·.name) :=
  List.map_congr_left fun _ member =>
    have ⟨_, _, stands⟩ := exists_left_of_forall₂ yields.each member
    stands.same

theorem armNames_subset (yields : a.Yields kind e) : e.armNames ⊆ kind.values.map (·.name) := by
  intro name member
  obtain ⟨v, inside, rfl⟩ := List.mem_map.1 member
  obtain ⟨_, _, stands⟩ := exists_left_of_forall₂ yields.each inside
  exact stands.constant

/-- As many different arms as there are constants leave none of them out. -/
theorem covers_of_nodup (yields : a.Yields kind e) (arms : e.armNames.Nodup) :
    e.hasOthers ∨ (kind.values.map (·.name)).Subperm e.armNames := by
  by_cases others : e.variants.length < kind.values.length
  · exact .inl (yields.others.2 others)
  · have among := List.subperm_of_subset arms yields.armNames_subset
    have long : (kind.values.map (·.name)).length ≤ e.armNames.length := by
      simpa [ElementItem.armNames] using others
    exact .inr (among.perm_of_length_le long).symm.subperm

theorem dispatches_iff (yields : a.Yields kind e) :
    e.Dispatches kind ↔ (a.library.description.elementTypes.map a.variantName).Nodup := by
  rw [yields.variantNames, List.nodup_map_iff (Option.some_injective String)]
  refine ⟨(·.variants), fun variants => ?_⟩
  have arms : e.armNames.Nodup := yields.armNames ▸ variants
  exact { covers := yields.covers_of_nodup arms, arms, variants }

end Yields

end Analysis

namespace Library

/-- The match on the kind of an element, where there is one, is total and unambiguous exactly if no
element type is listed twice and no two of them have one name. -/
theorem dispatches_iff_nodup {input text : String} {config : Config}
    (success : generate input config = .ok text) :
    ∃ lib a items, Generates input config text lib a items ∧ ∀ e, .element e ∈ items →
      ∃ c kind, config.elements = some c ∧ a.enum? c.kindEnum = some kind ∧ e.Written ∧
        (e.Dispatches kind ↔ lib.description.elementTypes.Nodup ∧
          ∀ name ∈ lib.description.elementTypes, ∀ name' ∈ lib.description.elementTypes,
            a.variantName name = a.variantName name' → name = name') := by
  obtain ⟨lib, a, items, generates⟩ := generates_of_generate success
  obtain ⟨t, analyzed⟩ := lib.analyzed generates.analyzed
  refine ⟨lib, a, items, generates, fun e member => ?_⟩
  cases (Analysis.mem_items_iff generates.emitted).1 member with
  | element made =>
    obtain ⟨c, kind, configured, known, yields⟩ := Analysis.yields_of_elementItem? made
    have distinct := yields.dispatches_iff
    rw [analyzed.library] at configured distinct
    refine ⟨c, kind, generates.config ▸ configured, known, e.written,
      distinct.trans ⟨fun each => ?_, ?_⟩⟩
    · have once := each.of_map
      exact ⟨once, (List.nodup_map_iff_inj_on once).1 each⟩
    · rintro ⟨once, apart⟩
      exact (List.nodup_map_iff_inj_on once).2 apart

def twoNodes : Library where
  description := {
    types := ⟨[("element", { key := "element", kind := .struct }),
      ("kind", { key := "kind", kind := .enum }),
      ("node", { key := "node", kind := .struct })], by decide⟩
    structs := ⟨[
      ("element", {
        name := "element"
        shortName := "element"
        fields := [{ name := "kind", type := "kind" }] }),
      ("node", {
        name := "node"
        shortName := "node"
        fields := [{ name := "kind", type := "kind" }] })], by decide⟩
    enums := ⟨[("kind", { name := "kind", shortName := "kind", values := ["NODE", "MESH"] })],
      by decide⟩
    constants := ⟨[("MESH", { name := "MESH", shortName := "MESH", value := 1 }),
      ("NODE", { name := "NODE", shortName := "NODE", value := 0 })], by decide⟩
    elementTypes := ["node", "node"]
    declarations := [⟨.enum, "kind"⟩, ⟨.struct, "element"⟩, ⟨.struct, "node"⟩] }
  config := {
    link := "elements"
    elements := some { base := "element", discriminant := "kind", kindEnum := "kind" } }

def nodesText : String :=
  String.join [
    "\x7b\"types\": \x7b",
    "\"kind\": \x7b\"kind\": \"enum\"\x7d,",
    "\"element\": \x7b\"kind\": \"struct\"\x7d,",
    "\"node\": \x7b\"kind\": \"struct\"\x7d\x7d,",
    "\"structs\": \x7b",
    "\"element\": \x7b\"fields\": [\x7b\"name\": \"kind\", \"type\": \"kind\"\x7d]\x7d,",
    "\"node\": \x7b\"fields\": [\x7b\"name\": \"kind\", \"type\": \"kind\"\x7d]\x7d\x7d,",
    "\"enums\": \x7b\"kind\": \x7b\"values\": [\"NODE\", \"MESH\"]\x7d\x7d,",
    "\"enum_values\": \x7b\"NODE\": \x7b\"value\": 0\x7d, \"MESH\": \x7b\"value\": 1\x7d\x7d,",
    "\"element_types\": [\"node\", \"node\"],",
    "\"declarations\": [",
    "\x7b\"kind\": \"enum\", \"name\": \"kind\"\x7d,",
    "\x7b\"kind\": \"struct\", \"name\": \"element\"\x7d,",
    "\x7b\"kind\": \"struct\", \"name\": \"node\"\x7d]\x7d"]

theorem parse_nodesText : Description.parse nodesText = .ok twoNodes.description := by
  apply Description.parse_join (by repeat constructor)
  decide +kernel

/-- There are as many arms as constants, but both are for nodes. -/
theorem mesh_uncovered : ∃ text lib a items e kind,
    generate nodesText twoNodes.config = .ok text ∧
    Generates nodesText twoNodes.config text lib a items ∧ .element e ∈ items ∧
    a.enum? "kind" = some kind ∧ kind.values.map (·.name) = ["Node", "Mesh"] ∧
    e.armNames = ["Node", "Node"] ∧ e.variants.map (·.name) = ["Node", "Node"] ∧
    e.hasOthers = false ∧ ¬e.Dispatches kind := by
  have checked : twoNodes.analyze.toOption.any (fun a => a.prelude.toOption.any fun _ =>
      a.items.toOption.any fun _ => a.elementItem?.toOption.any fun made => made.any fun e =>
        (a.enum? "kind").any fun kind => kind.values.map (·.name) = ["Node", "Mesh"] ∧
          e.armNames = ["Node", "Node"] ∧ e.variants.map (·.name) = ["Node", "Node"] ∧
          e.hasOthers = false) := by decide +kernel
  obtain ⟨a, analysis, checked⟩ := ok_of_any checked
  obtain ⟨prelude, imported, checked⟩ := ok_of_any checked
  obtain ⟨items, emitted, checked⟩ := ok_of_any checked
  obtain ⟨made, element, checked⟩ := ok_of_any checked
  obtain ⟨e, rfl, checked⟩ := (Option.any_eq_true _ made).1 checked
  obtain ⟨kind, known, checked⟩ := (Option.any_eq_true _ (a.enum? "kind")).1 checked
  obtain ⟨constants, arms, variants, others⟩ := of_decide_eq_true checked
  obtain ⟨text, written⟩ : ∃ text, a.source (Digest.ofText nodesText) = .ok text :=
    ⟨_, Analysis.source_eq_ok_iff.2 ⟨prelude, items, imported, emitted, rfl⟩⟩
  have success := generate_eq_ok_iff.2 ⟨_, a, parse_nodesText, analysis, written⟩
  obtain ⟨⟨d, c⟩, a', items', generates, dispatches⟩ := dispatches_iff_nodup success
  obtain rfl := Except.ok.inj (generates.parsed.symm.trans parse_nodesText)
  obtain rfl := generates.config
  obtain rfl := Except.ok.inj (generates.analyzed.symm.trans analysis)
  obtain rfl := Except.ok.inj (generates.emitted.symm.trans emitted)
  have member := (Analysis.mem_items_iff emitted).2 (.element element)
  refine ⟨text, _, a', items', e, kind, success, generates, member, known, constants, arms,
    variants, others, fun whole => ?_⟩
  obtain ⟨_, kind', ⟨rfl⟩, known', _, exact⟩ := dispatches e member
  cases known.symm.trans known'
  exact absurd (exact.1 whole).1 (by decide)

end Library

end Bindery
