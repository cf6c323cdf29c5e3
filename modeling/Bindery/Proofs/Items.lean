import Bindery.Proofs.Linkage

/-!
# Items of the output

What each item of the output is made from, and that nothing it can be made from is left out.
-/
namespace Bindery

namespace Analysis

variable {a : Analysis} {items : List Item} {i : Item}

inductive Makes (a : Analysis) : Item → Prop where
  | layout {native m} : ⟨.struct, native⟩ ∈ a.library.description.declarations →
      a.layout? native = some m → m.isVisible → Makes a (.layout (a.layoutItem m))
  | enumeration {native e} : ⟨.enum, native⟩ ∈ a.library.description.declarations →
      a.enum? native = some e → e.ignored = false → Makes a (.enumeration e.item)
  | shape {m} : m ∈ a.visibleLayouts → m.role = .input → Makes a (.shape (a.shapeItem m))
  | callback {m c} : m ∈ a.visibleLayouts → m.role = .callback → m.callback = some c →
      Makes a (.callback (c.item m))
  | copies : a.copiedNames ≠ [] → Makes a (.copies a.copiedNames)
  | resultAlias {c m} : a.library.config.errors = some c → a.recordLayout c.record = .ok m →
      Makes a (.resultAlias m.name)
  | link {l} : a.linkItem = .ok l → Makes a (.link l)
  | root {r} : r ∈ a.roots → Makes a (.root (a.rootItem r))
  | function {w records f} : w ∈ a.wrappers → a.records = .ok records →
      f ∈ a.functionItems records w → Makes a (.function f)
  | global {g made} : g ∈ a.globals → a.globalItem g = some made → Makes a (.global made)
  | methods {group} : group ∈ groupMethods a.wrappers → Makes a (.methods (a.methodsItem group))
  | element {e} : a.elementItem? = .ok (some e) → Makes a (.element e)

theorem makes_of_declarationItem {d : Declaration}
    (declared : d ∈ a.library.description.declarations) (made : a.declarationItem d = some i) :
    a.Makes i := by
  obtain ⟨kind, native⟩ := d
  cases kind with
  | struct =>
    obtain ⟨m, shown, rfl⟩ := Option.map_eq_some_iff.1 made
    obtain ⟨known, visible⟩ := Option.filter_eq_some_iff.1 shown
    exact .layout declared known visible
  | enum =>
    obtain ⟨e, shown, rfl⟩ := Option.map_eq_some_iff.1 made
    obtain ⟨known, kept⟩ := Option.filter_eq_some_iff.1 shown
    exact .enumeration declared known (by simpa using kept)
  | function | global => cases made

theorem makes_of_shapeItems {m : Layout} (shown : m ∈ a.visibleLayouts)
    (made : a.shapeItems m = some i) : a.Makes i := by
  unfold shapeItems at made
  split at made
  next input =>
    cases made
    exact .shape shown input
  next isCallback =>
    obtain ⟨c, slots, rfl⟩ := Option.map_eq_some_iff.1 made
    exact .callback shown isCallback slots
  next => cases made

theorem makes_of_resultAlias {alias? : Option Item} (made : a.resultAlias = .ok alias?)
    (member : i ∈ alias?) : a.Makes i := by
  unfold resultAlias at made
  split at made
  next =>
    cases made
    cases member
  next c configured =>
    obtain ⟨m, known, same⟩ := bind_eq_ok_iff.1 made
    cases same
    cases member
    exact .resultAlias configured known

/-- The items of the output are all that are made from something, and no others. -/
theorem mem_items_iff (emitted : a.items = .ok items) : i ∈ items ↔ a.Makes i := by
  unfold Analysis.items at emitted
  obtain ⟨alias?, aliased, rest⟩ := bind_eq_ok_iff.1 emitted
  obtain ⟨link, linked, rest⟩ := bind_eq_ok_iff.1 rest
  obtain ⟨records, checked, rest⟩ := bind_eq_ok_iff.1 rest
  obtain ⟨element, elements, rest⟩ := bind_eq_ok_iff.1 rest
  cases rest
  simp only [List.mem_append, List.mem_filterMap, List.mem_map, List.mem_flatMap,
    List.mem_singleton, Option.mem_toList, Option.map_eq_some_iff, or_assoc]
  constructor
  · rintro (⟨d, declared, made⟩ | ⟨m, shown, made⟩ | copies | renamed | rfl | ⟨r, member, rfl⟩ |
      ⟨w, member, f, made, rfl⟩ | ⟨_, ⟨g, member, made⟩, rfl⟩ | ⟨group, member, rfl⟩ |
      ⟨e, rfl, rfl⟩)
    · exact makes_of_declarationItem declared made
    · exact makes_of_shapeItems shown made
    · split at copies
      next => cases copies
      next some =>
        cases List.mem_singleton.1 copies
        exact .copies (by simpa using some)
    · exact makes_of_resultAlias aliased renamed
    · exact .link linked
    · exact .root member
    · exact .function member checked made
    · exact .global member made
    · exact .methods member
    · exact .element elements
  · intro makes
    cases makes with
    | layout declared known visible =>
      exact .inl ⟨_, declared, by simp [declarationItem, known, visible, Option.filter_some]⟩
    | enumeration declared known kept =>
      exact .inl ⟨_, declared, by simp [declarationItem, known, kept, Option.filter_some]⟩
    | shape shown input => exact .inr (.inl ⟨_, shown, by simp [shapeItems, input]⟩)
    | callback shown isCallback slots =>
      exact .inr (.inl ⟨_, shown, by simp [shapeItems, isCallback, slots]⟩)
    | copies some => simp [some]
    | resultAlias configured known =>
      have same := aliased
      simp only [resultAlias, configured, known] at same
      cases same
      simp
    | link linked' =>
      cases linked.symm.trans linked'
      simp
    | root member =>
      iterate 5 right
      exact .inl ⟨_, member, rfl⟩
    | function member checked' made =>
      cases checked.symm.trans checked'
      iterate 6 right
      exact .inl ⟨_, member, _, made, rfl⟩
    | global member made =>
      iterate 7 right
      exact .inl ⟨_, ⟨_, member, made⟩, rfl⟩
    | methods member =>
      iterate 8 right
      exact .inl ⟨_, member, rfl⟩
    | element elements' =>
      cases elements.symm.trans elements'
      iterate 9 right
      exact ⟨_, rfl, rfl⟩

theorem records_of_items (emitted : a.items = .ok items) : ∃ records, a.records = .ok records := by
  obtain ⟨_, _, rest⟩ := bind_eq_ok_iff.1 emitted
  obtain ⟨_, _, rest⟩ := bind_eq_ok_iff.1 rest
  obtain ⟨records, checked, _⟩ := bind_eq_ok_iff.1 rest
  exact ⟨records, checked⟩

end Analysis

end Bindery
