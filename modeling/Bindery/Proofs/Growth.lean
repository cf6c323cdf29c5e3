import Bindery.Types.Query
import Mathlib.Order.Defs.Unbundled

/-!
# Growing type tables

A table grows by nodes behind those that it has, which keep their positions, their keys and what
they refer to.
-/
namespace Bindery.TypeTable

variable {t t' : TypeTable} {id : TypeId} {key : String}

theorem lt_size_of_find? (found : t.find? key = some id) : id < t.size := by
  obtain ⟨bound, _⟩ := Array.findIdx?_eq_some_iff_getElem.1 found
  exact bound

theorem node_eq_getElem (inside : id < t.nodes.size) : t.node id = t.nodes[id] := by
  simp [node, inside]

/-- A key is found where it stands first. -/
theorem find?_eq_some_iff : t.find? key = some id ↔
    id < t.size ∧ (t.node id).key = key ∧ ∀ before < id, (t.node before).key ≠ key := by
  simp only [find?, size, Array.findIdx?_eq_some_iff_getElem, decide_eq_true_eq]
  constructor
  · rintro ⟨inside, same, first⟩
    refine ⟨inside, by rwa [node_eq_getElem inside], fun before lt => ?_⟩
    rw [node_eq_getElem (Nat.lt_trans lt inside)]
    exact first before lt
  · rintro ⟨inside, same, first⟩
    refine ⟨inside, by rwa [← node_eq_getElem inside], fun before lt => ?_⟩
    rw [← node_eq_getElem (Nat.lt_trans lt inside)]
    exact first before lt

theorem find?_eq_none_iff : t.find? key = none ↔ ∀ id < t.size, (t.node id).key ≠ key := by
  simp only [find?, size, Array.findIdx?_eq_none_iff, decide_eq_false_iff_not]
  constructor
  · intro absent id inside
    rw [node_eq_getElem inside]
    exact absent _ (Array.getElem_mem inside)
  · intro absent n member
    obtain ⟨id, inside, rfl⟩ := Array.getElem_of_mem member
    rw [← node_eq_getElem inside]
    exact absent id inside

/-- The second table has the nodes of the first and perhaps further ones behind them. -/
structure Extends (t t' : TypeTable) : Prop where
  size : t.size ≤ t'.size
  node : ∀ id < t.size, t'.node id = t.node id

namespace Extends

theorem push (t : TypeTable) (n : Node) : Extends t (t.push n) where
  size := by simp
  node _ inside := node_push_of_lt n inside

instance : IsPreorder TypeTable Extends where
  refl _ := ⟨Nat.le_refl _, fun _ _ => rfl⟩
  trans _ _ _ first second :=
    ⟨Nat.le_trans first.size second.size, fun id inside =>
      (second.node id (Nat.lt_of_lt_of_le inside first.size)).trans (first.node id inside)⟩

theorem find? (grows : Extends t t') (found : t.find? key = some id) :
    t'.find? key = some id := by
  obtain ⟨inside, same, first⟩ := find?_eq_some_iff.1 found
  refine find?_eq_some_iff.2 ⟨Nat.lt_of_lt_of_le inside grows.size, ?_, fun before lt => ?_⟩
  · rwa [grows.node id inside]
  · rw [grows.node before (Nat.lt_trans lt inside)]
    exact first before lt

theorem strip (grows : Extends t t') (inside : id < t.size) : t'.strip id = t.strip id := by
  fun_induction t.strip id with
  | case1 id inner link transparent earlier ih =>
    rw [← grows.node id inside] at link transparent
    rw [strip_inner transparent link earlier]
    exact ih (Nat.lt_trans earlier inside)
  | case2 id inner link _ late =>
    refine strip_eq_self fun other _ found => ?_
    rw [grows.node id inside, link] at found
    cases found
    exact late
  | case3 id other =>
    refine strip_eq_self fun inner transparent link => ?_
    rw [grows.node id inside] at transparent link
    exact (other inner transparent link).elim

theorem target (grows : Extends t t') (inside : id < t.size) : t'.target id = t.target id := by
  simp only [TypeTable.target, grows.strip inside]
  exact grows.node _ (Nat.lt_of_le_of_lt (t.strip_le id) inside)

theorem pointee (grows : Extends t t') (inside : id < t.size) : t'.pointee id = t.pointee id := by
  simp only [TypeTable.pointee, grows.target inside]

end Extends

end Bindery.TypeTable
