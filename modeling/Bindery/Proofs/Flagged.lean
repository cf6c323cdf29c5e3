import Bindery.Proofs.History
import Bindery.Proofs.Reflagging

/-!
# Resolving with flags raised

Types are resolved before and after flags are raised. Resolving does not look at flags and raises
none, so whatever order the two come in, the table is as resolving alone leaves it up to flags.
-/
namespace Bindery

open Typing

/-- A wrapper takes no flags from its target. -/
theorem Node.wrapping_unflagged (n : Node) {target target' : Node} (id : TypeId)
    (same : target'.unflagged = target.unflagged) :
    n.wrapping id target' = n.wrapping id target := by
  rw [eq_of_unflagged same]
  rfl

namespace TypeTable.Reflagged

variable {t t' : TypeTable}

theorem push (same : Reflagged t t') (n : Node) : Reflagged (t.push n) (t'.push n) where
  size := by rw [size_push, size_push, same.size]
  frame id := by
    rcases Nat.lt_trichotomy id t.size with old | rfl | beyond
    · rw [node_push_of_lt n old, node_push_of_lt n (same.size ▸ old)]
      exact same.frame id
    · rw [node_push_self, ← same.size, node_push_self]
    · have outside : (t.push n).size ≤ id := by rwa [size_push]
      have outside' : (t'.push n).size ≤ id := by rwa [size_push, same.size]
      rw [node_of_le outside, node_of_le outside']

end TypeTable.Reflagged

namespace Typing

variable {α β : Type}

/-- On tables that differ in flags only, a typing has one outcome and leaves such tables again. -/
def Blind (x : Typing α) : Prop :=
  ∀ t t', TypeTable.Reflagged t t' →
    (on x t').1 = (on x t).1 ∧ TypeTable.Reflagged (on x t).2 (on x t').2

theorem blind_pure (a : α) : Blind (pure a : Typing α) := fun _ _ same => ⟨rfl, same⟩

theorem Blind.bind {x : Typing α} {f : α → Typing β} (first : Blind x) (rest : ∀ a, Blind (f a)) :
    Blind (x >>= f) := by
  intro t t' same
  obtain ⟨alike, between⟩ := first t t' same
  rw [on_bind, on_bind]
  rcases run : on x t with ⟨r, after⟩
  rcases run' : on x t' with ⟨r', after'⟩
  rw [run, run'] at alike between
  obtain rfl : r' = r := alike
  cases r' with
  | error e => exact ⟨rfl, between⟩
  | ok a => exact rest a after after' between

theorem Blind.mapM {f : α → Typing β} (each : ∀ a, Blind (f a)) (as : List α) :
    Blind (as.mapM f) := by
  induction as with
  | nil => exact blind_pure []
  | cons a as ih =>
    rw [List.mapM_cons]
    exact (each a).bind fun b => ih.bind fun bs => blind_pure (b :: bs)

end Typing

namespace Library

variable {lib : Library} {t t' : TypeTable} {key : String} {id : TypeId}

theorem finish_reflag (same : TypeTable.Reflagged t t') (p : Blueprint) (ids : List TypeId) :
    p.finish t' ids = p.finish t ids := by
  cases p with
  | closed | function => rfl
  | wrapper n inner =>
    have wrapped := n.wrapping_unflagged (ids.headD 0) (same.frame (ids.headD 0))
    simp only [Blueprint.finish, wrapped]
  | list n name data => simp only [Blueprint.finish, listNode, same.pointee]

theorem realize_blind {resolve : String → Typing TypeId} (blind : ∀ key, Blind (resolve key))
    (p : Blueprint) : Blind (realize resolve p) := by
  refine (Blind.mapM blind p.refs).bind fun ids => ?_
  intro t t' same
  rw [on_get_bind, on_get_bind, on_liftOutcome, on_liftOutcome, finish_reflag same]
  exact ⟨rfl, same⟩

theorem make_blind {resolve : String → Typing TypeId}
    (blind : ∀ p, lib.blueprint key = .ok p → ∀ name, Blind (resolve name)) :
    Blind (lib.make resolve key) := by
  intro t t' same
  cases drawn : lib.blueprint key with
  | error e =>
    rw [on_make_of_error drawn, on_make_of_error drawn]
    exact ⟨rfl, same⟩
  | ok p =>
    rw [on_make drawn, on_make drawn]
    exact realize_blind (blind p drawn) p t t' same

theorem resolveIn_blind (lib : Library) (active : List String) :
    ∀ key, Blind (lib.resolveIn active key) := by
  induction active using waiting_induction lib with
  | _ active ih =>
    intro key t t' same
    rw [on_resolveIn_make, on_resolveIn_make, same.find?]
    split
    next => exact ⟨rfl, same⟩
    next =>
      split
      next => exact ⟨rfl, same⟩
      next fresh =>
        obtain ⟨alike, after⟩ := make_blind (fun p drawn => ih key p fresh drawn) t t' same
        generalize on (lib.make (lib.resolveIn (key :: active)) key) t = run at *
        generalize on (lib.make (lib.resolveIn (key :: active)) key) t' = run' at *
        obtain ⟨r, u⟩ := run
        obtain ⟨r', u'⟩ := run'
        obtain rfl : r' = r := alike
        cases r' with
        | error e => exact ⟨rfl, after⟩
        | ok n => exact ⟨congrArg Except.ok after.size, after.push n⟩

/-- On every table, whatever is wrong with it, resolving only adds nodes. -/
theorem resolveIn_extends (lib : Library) (active : List String) :
    ∀ key, Keeps TypeTable.Extends (lib.resolveIn active key) := by
  induction active using waiting_induction lib with
  | _ active ih =>
    intro key t
    have visit := lib.visit active key t
    generalize (on (lib.resolveIn active key) t).1 = r,
      (on (lib.resolveIn active key) t).2 = after at *
    cases visit with
    | known | waits | unfit => exact Std.Refl.refl _
    | @stuck p _ _ _ fresh drawn refs | @unfinished p _ _ _ _ fresh drawn refs =>
      have grows := Keeps.mapM (ih key p fresh drawn) p.refs t
      rwa [refs] at grows
    | @made p _ n between _ fresh drawn refs =>
      have grows := Keeps.mapM (ih key p fresh drawn) p.refs t
      rw [refs] at grows
      exact IsTrans.trans _ _ _ grows (.push between n)

/-- A table as resolving leaves it, where any flags may be raised. -/
def Flagged (lib : Library) (t : TypeTable) : Prop :=
  ∃ bare, lib.Formed bare ∧ TypeTable.Reflagged bare t

theorem resolve_flagged (lib : Library) (key : String) :
    Keeps (fun t t' => lib.Flagged t → lib.Flagged t' ∧ TypeTable.Extends t t')
      (lib.resolve key) := by
  rintro t ⟨bare, formed, same⟩
  have ⟨after, _⟩ := lib.resolve_keeps key bare formed
  exact ⟨⟨_, after, (lib.resolveIn_blind [] key bare t same).2⟩, lib.resolveIn_extends [] key t⟩

theorem Flagged.resolve (flagged : lib.Flagged t) (run : on (lib.resolve key) t = (.ok id, t')) :
    lib.Flagged t' ∧ TypeTable.Extends t t' ∧ id < t'.size := by
  have ⟨after, grows⟩ := lib.resolve_flagged key t flagged
  rw [run] at after grows
  refine ⟨after, grows, ?_⟩
  obtain ⟨bare, formed, same⟩ := flagged
  obtain ⟨alike, reflagged⟩ := lib.resolveIn_blind [] key bare t same
  rw [← Library.resolve, run] at alike reflagged
  rcases run' : on (lib.resolve key) bare with ⟨r, after'⟩
  rw [run'] at alike reflagged
  obtain rfl : .ok id = r := alike
  rw [reflagged.size]
  exact TypeTable.lt_size_of_find? (find?_of_resolve formed run')

inductive Reached (lib : Library) : TypeTable → Prop where
  | new : Reached lib {}
  | call {before} (call : Call) : Reached lib before → Reached lib (call.leaves lib before)
  | seed {before} : Reached lib before → Reached lib (before.seed lib.config)
  | propagate {before} (edges : Edges) : Reached lib before →
      Reached lib (before.propagate edges).1

def Raised (lib : Library) (t : TypeTable) : Prop :=
  ∃ bare, lib.Built bare ∧ TypeTable.Reflagged bare t

theorem resolve_raised (lib : Library) (key : String) :
    Keeps (fun t t' => lib.Raised t → lib.Raised t' ∧ TypeTable.Extends t t')
      (lib.resolve key) := by
  rintro t ⟨bare, built, same⟩
  have ⟨after, _⟩ := lib.resolve_built key bare built
  exact ⟨⟨_, after, (lib.resolveIn_blind [] key bare t same).2⟩, lib.resolveIn_extends [] key t⟩

theorem Reached.raised (reached : lib.Reached t) : lib.Raised t := by
  induction reached with
  | new => exact ⟨{}, built_empty lib, rfl, fun _ => rfl⟩
  | call call _ ih => exact (call.leaves_keeps lib.resolve_raised _ ih).1
  | seed _ ih =>
    obtain ⟨bare, built, same⟩ := ih
    exact ⟨bare, built, same.trans (TypeTable.seed_reflagged _ lib.config)⟩
  | propagate edges _ ih =>
    obtain ⟨bare, built, same⟩ := ih
    exact ⟨bare, built, same.trans (TypeTable.propagate_spreads _ edges).reflagged⟩

theorem Reached.flagged (reached : lib.Reached t) : lib.Flagged t := by
  obtain ⟨bare, built, same⟩ := reached.raised
  exact ⟨bare, built.toFormed, same⟩

end Library

end Bindery
