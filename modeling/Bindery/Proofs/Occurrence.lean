import Mathlib.Data.List.Basic
import Mathlib.Data.List.Nodup

/-!
# First occurrences

The first element of a list that has a property, and the elements of a list without their
repetitions.
-/
namespace Bindery

variable {α : Type} {a b : α} {as bs : List α}

def IsFirst (p : α → Prop) (as : List α) (a : α) : Prop :=
  p a ∧ ∃ before after, as = before ++ a :: after ∧ ∀ b ∈ before, ¬p b

theorem isFirst_cons_of_pos {p : α → Prop} (holds : p a) : IsFirst p (a :: as) a :=
  ⟨holds, [], as, rfl, nofun⟩

theorem IsFirst.cons_of_neg {p : α → Prop} (first : IsFirst p as a) (fails : ¬p b) :
    IsFirst p (b :: as) a := by
  obtain ⟨holds, before, after, rfl, none⟩ := first
  exact ⟨holds, b :: before, after, rfl, List.forall_mem_cons.2 ⟨fails, none⟩⟩

theorem IsFirst.mem {p : α → Prop} (first : IsFirst p as a) : a ∈ as := by
  obtain ⟨-, before, after, rfl, -⟩ := first
  exact List.mem_append_right before List.mem_cons_self

/-- A list with the elements of another, each once and in the order of its first occurrence
there. -/
structure EachOnce [DecidableEq α] (as bs : List α) : Prop where
  same : ∀ a, a ∈ bs ↔ a ∈ as
  ordered : bs.Pairwise fun a b => as.idxOf a < as.idxOf b

namespace EachOnce

variable [DecidableEq α]

theorem nil : EachOnce ([] : List α) [] := ⟨fun _ => .rfl, .nil⟩

theorem nodup (each : EachOnce as bs) : bs.Nodup := by
  refine each.ordered.imp fun before same => ?_
  rw [same] at before
  exact Nat.lt_irrefl _ before

/-- More at the end of the list leaves the order as it is. -/
theorem ordered_append (each : EachOnce as bs) (more : List α) :
    bs.Pairwise fun a b => (as ++ more).idxOf a < (as ++ more).idxOf b := by
  refine each.ordered.imp_of_mem fun member member' before => ?_
  rwa [List.idxOf_append_of_mem ((each.same _).1 member),
    List.idxOf_append_of_mem ((each.same _).1 member')]

/-- An element that has occurred before adds nothing. -/
theorem concat_of_mem (each : EachOnce as bs) (member : a ∈ bs) : EachOnce (as ++ [a]) bs where
  same b := by
    rw [List.mem_append, List.mem_singleton, each.same]
    refine ⟨.inl, ?_⟩
    rintro (inside | rfl)
    · exact inside
    · exact (each.same _).1 member
  ordered := each.ordered_append [a]

/-- An element that is met for the first time comes last. -/
theorem concat_of_not_mem (each : EachOnce as bs) (absent : a ∉ bs) :
    EachOnce (as ++ [a]) (bs ++ [a]) where
  same b := by rw [List.mem_append, List.mem_append, each.same]
  ordered := by
    rw [each.same] at absent
    refine List.pairwise_append.2 ⟨each.ordered_append [a], List.pairwise_singleton _ _, ?_⟩
    intro b member c last
    obtain rfl := List.mem_singleton.1 last
    have inside := (each.same b).1 member
    rw [List.idxOf_append_of_mem inside, List.idxOf_append_of_notMem absent]
    have bound := List.idxOf_lt_length_of_mem inside
    omega

end EachOnce

end Bindery
