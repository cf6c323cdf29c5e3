import Bindery.Proofs.Reference
import Mathlib.Logic.Function.Iterate

/-!
# Which keys resolve

Resolving ends on every description, cyclic ones included, since a key that waits for itself is
refused. It succeeds exactly for the keys whose references are complete and free of cycles.
-/
namespace Bindery

open Typing

namespace Library

variable {lib : Library} {key name : String} {p : Blueprint} {t : TypeTable}

theorem finish_of_finishes (built : lib.Built t) {ids : List TypeId}
    (found : List.Forall₂ (fun name id => t.find? name = some id) p.refs ids)
    (finishes : p.Finishes lib) : ∃ n, p.finish t ids = .ok n := by
  cases p with
  | closed | function => exact ⟨_, rfl⟩
  | wrapper n inner => exact ⟨_, if_neg finishes⟩
  | list n name data =>
    obtain ⟨target, points⟩ := finishes
    obtain ⟨id, _, there, _, rfl⟩ := List.forall₂_cons_left_iff.1 found
    obtain ⟨ref, points, _⟩ := points.find? built there
    exact ⟨listNode n t ref, by simp only [Blueprint.finish, List.headD_cons, points]⟩

theorem Founded.refers (founded : lib.Founded key) (refers : lib.Refers key name) :
    lib.Founded name :=
  fun other path => founded other (path.head refers)

/-- A founded key resolves, unless it comes back to a key that waits. -/
theorem resolveIn_of_founded (lib : Library) (active : List String) :
    ∀ {key t}, lib.Waiting active t → lib.Founded key →
      (∀ name ∈ active, ¬Relation.ReflTransGen lib.Refers key name) →
      ∃ id t', on (lib.resolveIn active key) t = (.ok id, t') := by
  induction active using waiting_induction lib with
  | _ active ih =>
    intro key t waiting founded apart
    have ⟨fits, acyclic⟩ := founded key .refl
    obtain ⟨p, drawn, finishes⟩ := fits_iff.1 fits
    have visit := lib.visit active key t
    rcases run : on (lib.resolveIn active key) t with ⟨r, after⟩
    rw [run] at visit
    cases visit with
    | known | made => exact ⟨_, _, rfl⟩
    | waits _ waits => exact absurd .refl (apart key waits)
    | unfit _ _ unfit => cases unfit.symm.trans drawn
    | stuck absent fresh drawn' refs =>
      cases drawn'.symm.trans drawn
      have resolves := lib.resolveIn_waiting (key :: active)
      obtain ⟨name, member, between, waiting', failed⟩ :=
        on_mapM_eq_error resolves.weaken (waiting.wait absent) (congrArg Prod.fst refs)
      have refers := refers_iff.2 ⟨p, drawn, member⟩
      obtain ⟨id, last, resolved⟩ := ih key p fresh drawn waiting' (founded.refers refers) (by
        intro other waits path
        rcases List.mem_cons.1 waits with rfl | waits
        · exact acyclic (.head' refers path)
        · exact apart other waits (path.head refers))
      rw [resolved] at failed
      cases failed
    | unfinished absent fresh drawn' refs failed =>
      cases drawn'.symm.trans drawn
      obtain ⟨waiting', _, found⟩ := mapM_finds (lib.resolveIn_waiting (key :: active)) id
        (waiting.wait absent) refs
      obtain ⟨n, finished⟩ := finish_of_finishes waiting'.2 found finishes
      cases failed.symm.trans finished

inductive EntryFault : Error → Prop where
  | unresolved (key : String) : EntryFault (.unresolvedType key)
  | primitive (key : String) : EntryFault (.unknownPrimitive key)
  | inner (key : String) : EntryFault (.noInnerType key)
  | length (key : String) : EntryFault (.noArrayLength key)
  | struct (name : String) : EntryFault (.unknownStruct name)
  | enum (name : String) : EntryFault (.unknownEnum name)
  | roles (name : String) (roles : List Role) : EntryFault (.conflictingRoles name roles)
  | list (name : String) (fault : StructFault) : EntryFault (.invalidStruct name fault)

theorem entryFault_of_blueprint {e : Error} (unfit : lib.blueprint key = .error e) :
    EntryFault e := by
  unfold blueprint at unfit
  split at unfit
  next =>
    cases unfit
    exact .unresolved _
  next =>
    dsimp only at unfit
    split at unfit
    next => cases unfit
    next =>
      split at unfit
      next =>
        cases unfit
        exact .primitive _
      iterate 4
        next =>
          split at unfit <;> cases unfit
          exact .inner _
      next => cases unfit
      next =>
        split at unfit
        next =>
          cases unfit
          exact .struct _
        next s _ =>
          split at unfit
          next illegal =>
            cases unfit
            unfold StructDecl.role at illegal
            split at illegal <;> cases illegal
            exact .roles _ _
          next =>
            split at unfit
            next => cases unfit
            next =>
              split at unfit <;> cases unfit
              exact .list _ _
      next =>
        split at unfit <;> cases unfit
        exact .enum _

theorem entryFault_of_finish {e : Error} {ids : List TypeId}
    (failed : p.finish t ids = .error e) : EntryFault e := by
  cases p with
  | closed | function => cases failed
  | wrapper =>
    simp only [Blueprint.finish] at failed
    split at failed <;> cases failed
    exact .length _
  | list =>
    simp only [Blueprint.finish] at failed
    split at failed <;> cases failed
    exact .list _ _

/-- A cycle is reported for a key that is reached and waits already or leads back to itself. -/
theorem cyclic_of_resolveIn (lib : Library) (active : List String) :
    ∀ {key t name}, (on (lib.resolveIn active key) t).1 = .error (.cyclicType name) →
      Relation.ReflTransGen lib.Refers key name ∧
        (name ∈ active ∨ Relation.TransGen lib.Refers name name) := by
  induction active using waiting_induction lib with
  | _ active ih =>
    intro key t name failed
    obtain ⟨_, visit⟩ := lib.visit_of_error failed
    cases visit with
    | waits _ waits => exact ⟨.refl, .inl waits⟩
    | unfit _ _ unfit => cases entryFault_of_blueprint unfit
    | unfinished _ _ _ _ failed => cases entryFault_of_finish failed
    | @stuck p _ _ _ fresh drawn refs =>
      obtain ⟨other, member, between, -, failed⟩ := on_mapM_eq_error (P := fun _ => True)
        (fun _ _ _ => trivial) trivial (congrArg Prod.fst refs)
      have refers := refers_iff.2 ⟨p, drawn, member⟩
      obtain ⟨path, cyclic⟩ := ih key p fresh drawn failed
      refine ⟨path.head refers, ?_⟩
      rcases cyclic with waits | cyclic
      · rcases List.mem_cons.1 waits with rfl | waits
        · exact .inr (.head' refers path)
        · exact .inl waits
      · exact .inr cyclic

end Library

/-! ### Marks -/

structure Marked where
  table : TypeTable := {}
  marks : List String := []

abbrev Marking := String → Marked → Outcome TypeId × Marked

def Marking.each (resolve : Marking) : List String → Marked → Outcome (List TypeId) × Marked
  | [], m => (.ok [], m)
  | key :: keys, m =>
    match resolve key m with
    | (.error e, m) => (.error e, m)
    | (.ok id, m) =>
      match resolve.each keys m with
      | (.error e, m) => (.error e, m)
      | (.ok ids, m) => (.ok (id :: ids), m)

/-- With these marks set, it does what resolving without marks does, and then they are set again. -/
def Marking.Follows (marking : Marking) (marks : List String) (resolve : String → Typing TypeId) :
    Prop :=
  ∀ key t, marking key ⟨t, marks⟩ = ((on (resolve key) t).1, ⟨(on (resolve key) t).2, marks⟩)

theorem Marking.Follows.each {marking : Marking} {marks : List String}
    {resolve : String → Typing TypeId} (follows : marking.Follows marks resolve)
    (keys : List String) (t : TypeTable) : marking.each keys ⟨t, marks⟩ =
      ((on (keys.mapM resolve) t).1, ⟨(on (keys.mapM resolve) t).2, marks⟩) := by
  induction keys generalizing t with
  | nil => rfl
  | cons key keys ih =>
    simp only [Marking.each, follows key t, List.mapM_cons, on_bind]
    rcases on (resolve key) t with ⟨_ | id, between⟩
    · rfl
    · dsimp only
      rw [ih]
      rcases on (keys.mapM resolve) between with ⟨_ | ids, after⟩ <;> rfl

namespace Library

def markedBuild (lib : Library) (deeper : Marking) (key : String) (m : Marked) :
    Outcome Node × Marked :=
  match lib.blueprint key with
  | .error e => (.error e, m)
  | .ok p =>
    match deeper.each p.refs m with
    | (.error e, m) => (.error e, m)
    | (.ok ids, m) => (p.finish m.table ids, m)

/-- Resolves a key, and with `deeper` those that it refers to. The key is marked while its node is
made, and no longer, whatever comes of that. -/
def markedResolve (lib : Library) (deeper : Marking) : Marking := fun key m =>
  match m.table.find? key with
  | some id => (.ok id, m)
  | none =>
    if key ∈ m.marks then (.error (.cyclicType key), m)
    else
      match lib.markedBuild deeper key { m with marks := key :: m.marks } with
      | (.error e, m) => (.error e, { m with marks := m.marks.erase key })
      | (.ok n, m) => (.ok m.table.size, ⟨m.table.push n, m.marks.erase key⟩)

section Marks

variable {lib : Library} {deeper : Marking} {marks : List String}
  {resolve : String → Typing TypeId}

theorem markedBuild_eq {key : String}
    (follows : ∀ p, lib.blueprint key = .ok p → deeper.Follows marks resolve) (t : TypeTable) :
    lib.markedBuild deeper key ⟨t, marks⟩ =
      ((on (lib.make resolve key) t).1, ⟨(on (lib.make resolve key) t).2, marks⟩) := by
  unfold markedBuild
  cases drawn : lib.blueprint key with
  | error e => rw [on_make_of_error drawn]
  | ok p =>
    simp only [on_make drawn, realize, (follows p drawn).each, on_bind]
    rcases on (p.refs.mapM resolve) t with ⟨_ | ids, after⟩
    · rfl
    · simp only [on_get, on_liftOutcome]

/-- Calls nest no deeper than there are types without a mark: however deeper ones would go on, the
outcome is that of resolving while the marked keys wait. -/
theorem markedResolve_follows (lib : Library) (deeper : Marking) {n : Nat} {marks : List String}
    (enough : (lib.description.types.pending marks).length < n) :
    (lib.markedResolve^[n] deeper).Follows marks (lib.resolveIn marks) := by
  induction n generalizing marks with
  | zero => exact absurd enough (Nat.not_lt_zero _)
  | succ n ih =>
    intro key t
    rw [Function.iterate_succ_apply', markedResolve, on_resolveIn_make]
    cases t.find? key with
    | some id => rfl
    | none =>
      by_cases waits : key ∈ marks
      · simp only [if_pos waits]
      · have follows (p) (drawn : lib.blueprint key = .ok p) :=
          ih (Nat.lt_of_lt_of_le (Table.pending_lt (known_of_blueprint drawn) waits)
            (Nat.le_of_lt_succ enough))
        simp only [if_neg waits, markedBuild_eq follows]
        rcases on (lib.make (lib.resolveIn (key :: marks)) key) t with ⟨_ | n, after⟩ <;> simp

/-- With no mark set, calls nest no deeper than there are types. -/
theorem markedResolve_eq (lib : Library) (deeper : Marking) {n : Nat}
    (enough : lib.description.types.keys.length < n) (key : String) (t : TypeTable) :
    lib.markedResolve^[n] deeper key { table := t } =
      ((on (lib.resolve key) t).1, { table := (on (lib.resolve key) t).2 }) := by
  have all : (lib.description.types.pending []).length = lib.description.types.keys.length := by
    simp [Table.pending]
  exact lib.markedResolve_follows deeper (all ▸ enough) key t

end Marks

/-- Resolving a key ends: it takes calls that nest no deeper than one more than there are types, and
whatever deeper calls would do, it comes to the same. On a new table it succeeds exactly if the
references below the key are complete and free of cycles, and a cycle is reported for a key below
that leads back to itself. -/
theorem resolve_iff_founded (lib : Library) (key : String) :
    (∀ (deeper : Marking) (n : Nat), lib.description.types.keys.length < n →
      lib.markedResolve^[n] deeper key {} =
        ((on (lib.resolve key) {}).1, { table := (on (lib.resolve key) {}).2 })) ∧
    ((∃ id t, on (lib.resolve key) {} = (.ok id, t)) ↔ lib.Founded key) ∧
    ∀ name t, on (lib.resolve key) {} = (.error (.cyclicType name), t) →
      Relation.ReflTransGen lib.Refers key name ∧ Relation.TransGen lib.Refers name name := by
  have waiting : lib.Waiting [] {} := (built_empty lib).waiting
  refine ⟨fun deeper n enough => lib.markedResolve_eq deeper enough key {},
    ⟨fun ⟨id, t, run⟩ => ?_, fun founded => ?_⟩, ?_⟩
  · have resolves := lib.resolveIn_waiting []
    have ⟨⟨_, built⟩, _⟩ := resolves.keeps key {} waiting
    have run' : on (lib.resolveIn [] key) {} = (.ok id, t) := run
    rw [run'] at built
    exact built.founded (resolves.finds waiting run)
  · exact lib.resolveIn_of_founded [] waiting founded (by simp)
  · intro name t run
    obtain ⟨path, waits | cycle⟩ := lib.cyclic_of_resolveIn [] (congrArg Prod.fst run)
    · cases waits
    · exact ⟨path, cycle⟩

end Library

end Bindery
