import Bindery.Types.Resolve
import Mathlib.Order.Defs.Unbundled

/-!
# Runs of typings

A typing takes a table to an outcome and a table, also where it fails. What each of its steps
keeps, all of it keeps.
-/
namespace Bindery.Typing

variable {α β γ : Type}

/-- The outcome of a typing on a table and the table that it leaves. -/
def on (x : Typing α) (t : TypeTable) : Outcome α × TypeTable := x.run.run t

@[simp] theorem on_pure (a : α) (t : TypeTable) : on (pure a) t = (.ok a, t) := rfl

@[simp] theorem on_throw (e : Error) (t : TypeTable) :
    on (throw e : Typing α) t = (.error e, t) := rfl

@[simp] theorem on_get (t : TypeTable) : on get t = (.ok t, t) := rfl

@[simp] theorem on_set (t t' : TypeTable) : on (set t') t = (.ok ⟨⟩, t') := rfl

@[simp] theorem on_liftOutcome (r : Outcome α) (t : TypeTable) : on (liftOutcome r) t = (r, t) := by
  cases r <;> rfl

theorem on_bind (x : Typing α) (f : α → Typing β) (t : TypeTable) :
    on (x >>= f) t =
      match on x t with
      | (.ok a, t') => on (f a) t'
      | (.error e, t') => (.error e, t') := by
  simp only [on, ExceptT.run_bind, StateT.run_bind]
  rcases h : StateT.run (ExceptT.run x) t with ⟨r, t'⟩
  cases r <;> rfl

theorem on_map (f : α → β) (x : Typing α) (t : TypeTable) :
    on (f <$> x) t = ((on x t).1.map f, (on x t).2) := by
  rw [map_eq_pure_bind, on_bind]
  rcases on x t with ⟨r, t'⟩
  cases r <;> rfl

theorem on_discard_eq_ok {x : Typing α} {t t' : TypeTable} {u : PUnit} :
    on (discard x) t = (.ok u, t') ↔ ∃ a, on x t = (.ok a, t') := by
  have same : discard x = (fun _ => PUnit.unit) <$> x := rfl
  rw [same, on_map]
  rcases on x t with ⟨r, after⟩
  cases r <;> simp [Except.map]

@[simp] theorem on_throw_bind (e : Error) (f : α → Typing β) (t : TypeTable) :
    on ((throw e : Typing α) >>= f) t = (.error e, t) := by rw [on_bind, on_throw]

@[simp] theorem on_get_bind (f : TypeTable → Typing β) (t : TypeTable) :
    on (get >>= f) t = on (f t) t := by rw [on_bind, on_get]

/-- A typing that succeeds has done so step by step. -/
theorem on_bind_eq_ok {x : Typing α} {f : α → Typing β} {t t' : TypeTable} {b : β} :
    on (x >>= f) t = (.ok b, t') ↔ ∃ a between, on x t = (.ok a, between) ∧
      on (f a) between = (.ok b, t') := by
  rw [on_bind]
  constructor
  · intro run
    rcases first : on x t with ⟨_ | a, between⟩ <;> rw [first] at run
    · cases run
    · exact ⟨a, between, rfl, run⟩
  · rintro ⟨a, between, first, rest⟩
    rw [first]
    exact rest

/-- A typing that fails does so in its first step or after it. -/
theorem on_bind_eq_error {x : Typing α} {f : α → Typing β} {t : TypeTable} {e : Error} :
    (on (x >>= f) t).1 = .error e ↔ (on x t).1 = .error e ∨
      ∃ a between, on x t = (.ok a, between) ∧ (on (f a) between).1 = .error e := by
  rw [on_bind]
  rcases on x t with ⟨_ | a, between⟩
  · simp
  · simp [Prod.ext_iff, and_assoc]

theorem on_liftOutcome_bind_eq_ok {r : Outcome α} {f : α → Typing β} {t t' : TypeTable} {b : β} :
    on (liftOutcome r >>= f) t = (.ok b, t') ↔ ∃ a, r = .ok a ∧ on (f a) t = (.ok b, t') := by
  rw [on_bind, on_liftOutcome]
  cases r <;> simp

theorem on_map_liftOutcome_eq_ok {r : Outcome α} {f : α → β} {t t' : TypeTable} {b : β} :
    on (f <$> liftOutcome r) t = (.ok b, t') ↔ ∃ a, r = .ok a ∧ f a = b ∧ t = t' := by
  rw [on_map, on_liftOutcome]
  cases r <;> simp [Except.map]

theorem on_mapM_cons_eq_ok {f : α → Typing β} {x : α} {xs : List α} {t t' : TypeTable}
    {ys : List β} :
    on ((x :: xs).mapM f) t = (.ok ys, t') ↔ ∃ y between rest, on (f x) t = (.ok y, between) ∧
      on (xs.mapM f) between = (.ok rest, t') ∧ y :: rest = ys := by
  rw [List.mapM_cons]
  simp only [on_bind_eq_ok, on_pure]
  constructor
  · rintro ⟨y, between, first, rest, _, later, same⟩
    cases same
    exact ⟨y, between, rest, first, later, rfl⟩
  · rintro ⟨y, between, rest, first, later, rfl⟩
    exact ⟨y, between, first, rest, t', later, rfl⟩

section Keeps

variable {R : TypeTable → TypeTable → Prop}

/-- Whatever its outcome, a typing leaves a table that is so related to the one before. -/
def Keeps (R : TypeTable → TypeTable → Prop) (x : Typing α) : Prop := ∀ t, R t (on x t).2

theorem Keeps.map {x : Typing α} (f : α → β) (keeps : Keeps R x) : Keeps R (f <$> x) := by
  intro t
  rw [on_map]
  exact keeps t

theorem Keeps.bind [IsTrans TypeTable R] {x : Typing α} {f : α → Typing β} (first : Keeps R x)
    (rest : ∀ a, Keeps R (f a)) : Keeps R (x >>= f) := by
  intro t
  have here := first t
  rw [on_bind]
  rcases run : on x t with ⟨_ | a, t'⟩ <;> rw [run] at here
  · exact here
  · exact IsTrans.trans _ _ _ here (rest a t')

theorem Keeps.ite {c : Prop} [Decidable c] {x y : Typing α} (yes : c → Keeps R x)
    (no : ¬c → Keeps R y) : Keeps R (if c then x else y) := by
  split
  next holds => exact yes holds
  next fails => exact no fails

theorem on_mapM_cons_eq_error {f : α → Typing β} {x : α} {xs : List α} {t : TypeTable} {e : Error} :
    (on ((x :: xs).mapM f) t).1 = .error e ↔ (on (f x) t).1 = .error e ∨
      ∃ y between, on (f x) t = (.ok y, between) ∧ (on (xs.mapM f) between).1 = .error e := by
  rw [List.mapM_cons]
  simp only [on_bind_eq_error, on_pure, reduceCtorEq, and_false, exists_false, or_false]

/-- A list of steps fails with the error of one of them, on a table that the others have left. -/
theorem on_mapM_eq_error {P : TypeTable → Prop} {f : α → Typing β} {xs : List α} {e : Error}
    {t : TypeTable} (keeps : ∀ x, Keeps (fun t t' => P t → P t') (f x)) (holds : P t)
    (failed : (on (xs.mapM f) t).1 = .error e) :
    ∃ x ∈ xs, ∃ between, P between ∧ (on (f x) between).1 = .error e := by
  induction xs generalizing t with
  | nil => cases failed
  | cons x xs ih =>
    rcases on_mapM_cons_eq_error.1 failed with here | ⟨y, between, first, rest⟩
    · exact ⟨x, List.mem_cons_self, t, holds, here⟩
    · have after := keeps x t holds
      rw [first] at after
      obtain ⟨x, member, found⟩ := ih after rest
      exact ⟨x, List.mem_cons_of_mem _ member, found⟩

/-- A list of steps fails alike on two tables if each step does. -/
theorem on_mapM_error_of_error {P : TypeTable → Prop} {f : α → Typing β} {e : Error}
    {t t' : TypeTable} (keeps : ∀ x, Keeps (fun t t' => P t → P t') (f x))
    (alike : ∀ {x t t' e}, P t → P t' → (on (f x) t).1 = .error e → (on (f x) t').1 = .error e)
    (xs : List α) (holds : P t) (holds' : P t') (failed : (on (xs.mapM f) t).1 = .error e) :
    (on (xs.mapM f) t').1 = .error e := by
  induction xs generalizing t t' with
  | nil => cases failed
  | cons x xs ih =>
    rw [on_mapM_cons_eq_error] at failed ⊢
    rcases failed with here | ⟨y, between, first, rest⟩
    · exact .inl (alike holds holds' here)
    · have after := keeps x t holds
      have after' := keeps x t' holds'
      rcases first' : on (f x) t' with ⟨e' | y', between'⟩
      · have same := alike holds' holds (congrArg Prod.fst first')
        rw [first] at same
        cases same
      · rw [first] at after
        rw [first'] at after'
        exact .inr ⟨y', between', rfl, ih after after' rest⟩

variable [Std.Refl R]

theorem keeps_pure (a : α) : Keeps R (pure a : Typing α) := fun t => Std.Refl.refl t

theorem keeps_throw (e : Error) : Keeps R (throw e : Typing α) := fun t => Std.Refl.refl t

theorem keeps_get : Keeps R get := fun t => Std.Refl.refl t

theorem keeps_liftOutcome (r : Outcome α) : Keeps R (liftOutcome r) := fun t => by
  rw [on_liftOutcome]
  exact Std.Refl.refl t

theorem Keeps.optionMapM {f : α → Typing β} (each : ∀ a, Keeps R (f a)) (o : Option α) :
    Keeps R (o.mapM f) := by
  cases o with
  | none => exact keeps_pure none
  | some a => exact (each a).map some

variable [IsTrans TypeTable R]

theorem Keeps.mapM {f : α → Typing β} (each : ∀ a, Keeps R (f a)) (as : List α) :
    Keeps R (as.mapM f) := by
  induction as with
  | nil => exact keeps_pure []
  | cons a as ih =>
    rw [List.mapM_cons]
    exact (each a).bind fun b => ih.bind fun bs => keeps_pure (b :: bs)

theorem Keeps.foldlM {f : β → α → Typing β} (each : ∀ b a, Keeps R (f b a)) (as : List α) (b : β) :
    Keeps R (as.foldlM f b) := by
  induction as generalizing b with
  | nil => exact keeps_pure b
  | cons a as ih =>
    rw [List.foldlM_cons]
    exact (each b a).bind ih

end Keeps

end Bindery.Typing
