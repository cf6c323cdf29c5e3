import Bindery.Lifetime
import Mathlib.Data.Finset.Card
import Mathlib.Logic.Relation

/-!
# Lifetimes as reachability

Sweeping ends with the least flags above those given: a type borrows exactly if it is made of a
type that did so before.
-/
namespace Bindery

inductive Form where
  | native
  | idiomatic

def Node.borrows (n : Node) : Form → Bool
  | .native => n.borrowsRaw
  | .idiomatic => n.borrowsSafe

def Node.unflagged (n : Node) : Node := { n with borrowsRaw := false, borrowsSafe := false }

theorem Node.eq_of_unflagged {n m : Node} (same : n.unflagged = m.unflagged) :
    n = { m with borrowsRaw := n.borrowsRaw, borrowsSafe := n.borrowsSafe } := by
  cases n
  cases m
  simp_all [Node.unflagged]

def Edges.of (edges : Edges) : Form → List (TypeId × TypeId)
  | .native => edges.raw
  | .idiomatic => edges.safe

theorem Edges.mem_targets {edges : List (TypeId × TypeId)} {id target : TypeId} :
    target ∈ Edges.targets edges id ↔ (id, target) ∈ edges := by
  simp [Edges.targets]

namespace TypeTable

def sources (t : TypeTable) (edges : Edges) : Form → TypeId → List TypeId
  | .native => t.rawSources edges
  | .idiomatic => t.safeSources edges

/-- One step from a type to one that it is made of. Function pointers are the same in both forms,
so the idiomatic one takes nothing from the parts of a function. -/
inductive Step (t : TypeTable) (edges : Edges) : Form → TypeId → TypeId → Prop where
  | wrapped {form id inner} : (t.node id).isWrapper → (t.node id).inner = some inner →
      Step t edges form id inner
  | result {id result} : (t.node id).kind = .function → (t.node id).inner = some result →
      Step t edges .native id result
  | param {id param} : (t.node id).kind = .function → param ∈ (t.node id).params →
      Step t edges .native id param
  | edge {form id target} : (t.node id).kind = .struct → (id, target) ∈ edges.of form →
      Step t edges form id target

theorem mem_sources (t : TypeTable) (edges : Edges) (form : Form) (id source : TypeId) :
    source ∈ t.sources edges form id ↔ t.Step edges form id source := by
  constructor
  · intro member
    cases form <;> cases kind : (t.node id).kind <;>
      simp only [sources, rawSources, safeSources, kind, Option.mem_toList, List.mem_append,
        Edges.mem_targets, List.not_mem_nil] at member
    all_goals first
      | exact .wrapped (by simp [Node.isWrapper, Node.isTransparent, kind]) member
      | exact .edge kind member
      | exact member.elim (.result kind) (.param kind)
  · intro step
    cases step with
    | wrapped wrapper inner =>
      cases form <;> cases kind : (t.node id).kind <;>
        simp_all [sources, rawSources, safeSources, Node.isWrapper, Node.isTransparent]
    | result kind inner => simp [sources, rawSources, kind, inner]
    | param kind member => simp [sources, rawSources, kind, member]
    | edge kind member =>
      cases form <;> simp_all [sources, rawSources, safeSources, Edges.mem_targets, Edges.of]

/-- Some type that a type is made of, in any number of steps, borrows. -/
def Reaches (t : TypeTable) (edges : Edges) (form : Form) (id : TypeId) : Prop :=
  ∃ source, Relation.ReflTransGen (t.Step edges form) id source ∧ (t.node source).borrows form

/-- The second table is the first with some flags raised, each of them for a reason. -/
structure Spreads (edges : Edges) (t t' : TypeTable) : Prop where
  size : t'.size = t.size
  frame : ∀ id, (t'.node id).unflagged = (t.node id).unflagged
  keep : ∀ form id, (t.node id).borrows form → (t'.node id).borrows form
  sound : ∀ form id, (t'.node id).borrows form → t.Reaches edges form id

/-- Tables are the same if they have the same nodes. -/
theorem ext_node {t t' : TypeTable} (size : t'.size = t.size)
    (nodes : ∀ id, t'.node id = t.node id) : t' = t := by
  obtain ⟨left⟩ := t'
  obtain ⟨right⟩ := t
  congr 1
  refine Array.ext size fun id inLeft inRight => ?_
  simpa [node, inLeft, inRight] using nodes id

namespace Spreads

variable {edges : Edges} {t t' t'' : TypeTable}

theorem refl (edges : Edges) (t : TypeTable) : Spreads edges t t where
  size := rfl
  frame _ := rfl
  keep _ _ borrows := borrows
  sound _ id borrows := ⟨id, .refl, borrows⟩

theorem kind (spreads : Spreads edges t t') (id : TypeId) : (t'.node id).kind = (t.node id).kind :=
  (congrArg Node.kind (spreads.frame id) :)

theorem inner (spreads : Spreads edges t t') (id : TypeId) :
    (t'.node id).inner = (t.node id).inner :=
  (congrArg Node.inner (spreads.frame id) :)

theorem params (spreads : Spreads edges t t') (id : TypeId) :
    (t'.node id).params = (t.node id).params :=
  (congrArg Node.params (spreads.frame id) :)

theorem sources (spreads : Spreads edges t t') (form : Form) (id : TypeId) :
    t'.sources edges form id = t.sources edges form id := by
  cases form <;>
    simp only [TypeTable.sources, rawSources, safeSources, spreads.kind, spreads.inner,
      spreads.params]

theorem step (spreads : Spreads edges t t') (form : Form) :
    t'.Step edges form = t.Step edges form := by
  ext id source
  rw [← mem_sources, ← mem_sources, spreads.sources]

theorem trans (first : Spreads edges t t') (second : Spreads edges t' t'') :
    Spreads edges t t'' where
  size := second.size.trans first.size
  frame id := (second.frame id).trans (first.frame id)
  keep form id borrows := second.keep form id (first.keep form id borrows)
  sound form id borrows := by
    obtain ⟨middle, path, atMiddle⟩ := second.sound form id borrows
    obtain ⟨source, rest, atSource⟩ := first.sound form middle atMiddle
    rw [first.step] at path
    exact ⟨source, path.trans rest, atSource⟩

/-- A table in which no flag is raised is the one before. -/
theorem eq (spreads : Spreads edges t t')
    (same : ∀ form id, (t'.node id).borrows form → (t.node id).borrows form) : t' = t := by
  have flags form id : (t'.node id).borrows form = (t.node id).borrows form :=
    Bool.eq_iff_iff.2 ⟨same form id, spreads.keep form id⟩
  refine ext_node spreads.size fun id => ?_
  have raw := flags .native id
  have safe := flags .idiomatic id
  rw [Node.eq_of_unflagged (spreads.frame id)]
  simp_all [Node.borrows]

end Spreads

theorem node_update (t : TypeTable) (id other : TypeId) (f : Node → Node) :
    (t.update id f).node other =
      if other = id ∧ id < t.size then f (t.node other) else t.node other := by
  have bound : t.nodes.size = t.size := rfl
  by_cases inside : other < t.size
  · by_cases same : id = other
    · subst same
      simp [node, update, Array.getElem_modify, bound, inside]
    · simp [node, update, Array.getElem_modify, bound, inside, same, Ne.symm same]
  · have outside : ¬(other = id ∧ id < t.size) := fun h => inside (h.1 ▸ h.2)
    simp [node, update, bound, inside, outside]

def incoming (t : TypeTable) (edges : Edges) (form : Form) (id : TypeId) : Bool :=
  (t.sources edges form id).any fun source => (t.node source).borrows form

theorem incoming_iff {t : TypeTable} {edges : Edges} {form : Form} {id : TypeId} :
    t.incoming edges form id ↔
      ∃ source, t.Step edges form id source ∧ (t.node source).borrows form := by
  simp [incoming, mem_sources]

section Sweeps

variable {edges : Edges} {state : TypeTable × Bool}

theorem visit_borrows (edges : Edges) (state : TypeTable × Bool) (form : Form)
    (id other : TypeId) :
    ((visit edges state id).1.node other).borrows form =
      ((state.1.node other).borrows form ||
        decide (other = id ∧ id < state.1.size) && state.1.incoming edges form id) := by
  simp only [visit, node_update]
  split
  next inside => cases form <;> simp [Node.borrows, incoming, sources, inside]
  next outside => simp [outside]

theorem visit_changed (edges : Edges) (state : TypeTable × Bool) (id : TypeId) :
    (visit edges state id).2 ↔
      state.2 ∨ ∃ form, state.1.incoming edges form id ∧ ¬(state.1.node id).borrows form := by
  have flags : (visit edges state id).2 =
      (state.2 || (state.1.incoming edges .native id && !(state.1.node id).borrows .native) ||
        (state.1.incoming edges .idiomatic id && !(state.1.node id).borrows .idiomatic)) := rfl
  simp only [flags, Bool.or_eq_true, Bool.and_eq_true, Bool.not_eq_true', Bool.not_eq_true,
    or_assoc]
  refine or_congr_right ⟨fun raised => ?_, fun ⟨form, raised⟩ => ?_⟩
  · exact raised.elim (⟨.native, ·⟩) (⟨.idiomatic, ·⟩)
  · cases form
    · exact .inl raised
    · exact .inr raised

theorem visit_spreads (edges : Edges) (state : TypeTable × Bool) (id : TypeId) :
    Spreads edges state.1 (visit edges state id).1 where
  size := by simp [visit]
  frame other := by
    simp only [visit, node_update]
    split <;> rfl
  keep form other borrows := by simp [visit_borrows, borrows]
  sound form other borrows := by
    simp only [visit_borrows, Bool.or_eq_true, Bool.and_eq_true, decide_eq_true_eq] at borrows
    rcases borrows with before | ⟨⟨rfl, _⟩, raised⟩
    · exact ⟨other, .refl, before⟩
    · obtain ⟨source, step, atSource⟩ := incoming_iff.1 raised
      exact ⟨source, .single step, atSource⟩

def SettledAt (t : TypeTable) (edges : Edges) (id : TypeId) : Prop :=
  ∀ form, t.incoming edges form id → (t.node id).borrows form

theorem visit_quiet {id : TypeId} (quiet : (visit edges state id).2 = false) :
    state.1.SettledAt edges id ∧ visit edges state id = state := by
  have noChange := mt (visit_changed edges state id).2 (by simp [quiet])
  push Not at noChange
  obtain ⟨unchanged, settled⟩ := noChange
  have flag : state.2 = false := by simpa using unchanged
  refine ⟨settled, Prod.ext ?_ (quiet.trans flag.symm)⟩
  refine (visit_spreads edges state id).eq fun form other borrows => ?_
  simp only [visit_borrows, Bool.or_eq_true, Bool.and_eq_true, decide_eq_true_eq] at borrows
  rcases borrows with before | ⟨⟨rfl, _⟩, raised⟩
  · exact before
  · exact settled form raised

theorem visits_spread (edges : Edges) (ids : List TypeId) (state : TypeTable × Bool) :
    Spreads edges state.1 (ids.foldl (visit edges) state).1 := by
  induction ids generalizing state with
  | nil => exact .refl edges state.1
  | cons id ids ih => exact (visit_spreads edges state id).trans (ih _)

theorem visits_quiet {ids : List TypeId} (quiet : (ids.foldl (visit edges) state).2 = false) :
    (∀ id ∈ ids, state.1.SettledAt edges id) ∧ ids.foldl (visit edges) state = state := by
  induction ids generalizing state with
  | nil => exact ⟨by simp, rfl⟩
  | cons id ids ih =>
    have ⟨settled, rest⟩ := ih quiet
    have quietHere : (visit edges state id).2 = false := by rwa [List.foldl_cons, rest] at quiet
    have ⟨settledHere, same⟩ := visit_quiet quietHere
    rw [same] at settled rest
    refine ⟨fun other member => ?_, by rw [List.foldl_cons, same, rest]⟩
    rcases List.mem_cons.1 member with rfl | later
    · exact settledHere
    · exact settled other later

theorem visits_changed {ids : List TypeId} (start : state.2 = false)
    (changed : (ids.foldl (visit edges) state).2) (bound : ∀ id ∈ ids, id < state.1.size) :
    ∃ form id, id < state.1.size ∧ ¬(state.1.node id).borrows form ∧
      ((ids.foldl (visit edges) state).1.node id).borrows form := by
  induction ids with
  | nil => simp [start] at changed
  | cons id ids ih =>
    have inside := bound id (by simp)
    have later := visits_spread edges ids (visit edges state id)
    cases here : (visit edges state id).2 with
    | true =>
      obtain ⟨form, raised, free⟩ := ((visit_changed edges state id).1 here).resolve_left
        (by simp [start])
      refine ⟨form, id, inside, free, later.keep form id ?_⟩
      simp [visit_borrows, inside, raised]
    | false =>
      have same := (visit_quiet here).2
      rw [List.foldl_cons, same] at changed ⊢
      exact ih changed fun other member => bound other (List.mem_cons_of_mem _ member)

end Sweeps

def Settled (t : TypeTable) (edges : Edges) : Prop := t.sweep edges = (t, false)

theorem sweep_spreads (t : TypeTable) (edges : Edges) : Spreads edges t (t.sweep edges).1 :=
  visits_spread edges t.ids (t, false)

theorem settled_of_quiet {t : TypeTable} {edges : Edges} (quiet : (t.sweep edges).2 = false) :
    t.Settled edges := (visits_quiet quiet).2

theorem node_of_le {t : TypeTable} {id : TypeId} (outside : t.size ≤ id) : t.node id = default := by
  have beyond : t.nodes.size ≤ id := outside
  simp [node, Array.getD_eq_getD_getElem?, Array.getElem?_eq_none beyond]

theorem Settled.closed {t : TypeTable} {edges : Edges} (settled : t.Settled edges) (id : TypeId) :
    t.SettledAt edges id := by
  by_cases inside : id < t.size
  · have quiet : (t.sweep edges).2 = false := by rw [settled]
    exact (visits_quiet quiet).1 id (by simpa [ids] using inside)
  · intro form raised
    have outside : t.node id = default := node_of_le (not_lt.1 inside)
    cases form <;>
      simp [incoming, sources, rawSources, safeSources, outside, default] at raised

theorem sweep_changed {t : TypeTable} {edges : Edges} (changed : (t.sweep edges).2) :
    ∃ form id, id < t.size ∧ ¬(t.node id).borrows form ∧
      ((t.sweep edges).1.node id).borrows form :=
  visits_changed rfl changed (by simp [ids])

def unraised (t : TypeTable) (form : Form) : Finset TypeId :=
  (Finset.range t.size).filter fun id => ¬(t.node id).borrows form

def slack (t : TypeTable) : Nat := (t.unraised .native).card + (t.unraised .idiomatic).card

theorem card_unraised_le (t : TypeTable) (form : Form) : (t.unraised form).card ≤ t.size := by
  have fewer := Finset.card_filter_le (Finset.range t.size) fun id => ¬(t.node id).borrows form
  simpa [unraised] using fewer

theorem Spreads.unraised_subset {edges : Edges} {t t' : TypeTable} (spreads : Spreads edges t t')
    (form : Form) : t'.unraised form ⊆ t.unraised form := by
  intro id member
  simp only [unraised, spreads.size, Finset.mem_filter] at member ⊢
  exact ⟨member.1, fun before => member.2 (spreads.keep form id before)⟩

/-- Each sweep that is not the last raises a flag. -/
theorem slack_sweep_lt {t : TypeTable} {edges : Edges} (changed : (t.sweep edges).2) :
    (t.sweep edges).1.slack < t.slack := by
  obtain ⟨form, id, inside, free, raised⟩ := sweep_changed changed
  have spreads := t.sweep_spreads edges
  have fewer : ((t.sweep edges).1.unraised form).card < (t.unraised form).card := by
    refine Finset.card_lt_card ((Finset.ssubset_iff_of_subset (spreads.unraised_subset form)).2 ?_)
    exact ⟨id, by simp [unraised, inside, free], by simp [unraised, raised]⟩
  have native := Finset.card_le_card (spreads.unraised_subset .native)
  have idiomatic := Finset.card_le_card (spreads.unraised_subset .idiomatic)
  cases form <;> simp only [slack] <;> omega

theorem settle_settled {edges : Edges} {budget : Nat} {t : TypeTable} (enough : t.slack < budget) :
    (settle edges budget t).1.Settled edges := by
  induction budget generalizing t with
  | zero => omega
  | succ budget ih =>
    unfold settle
    split
    next t' quiet =>
      have same : t.sweep edges = (t, false) := settled_of_quiet (by rw [quiet])
      obtain rfl : t = t' := congrArg Prod.fst (same.symm.trans quiet)
      exact same
    next t' changed =>
      have raised : (t.sweep edges).2 := by rw [changed]
      have less : t'.slack < t.slack := by simpa only [changed] using slack_sweep_lt raised
      exact ih (by omega)

theorem settle_spreads (edges : Edges) (budget : Nat) (t : TypeTable) :
    Spreads edges t (settle edges budget t).1 := by
  induction budget generalizing t with
  | zero => exact .refl edges t
  | succ budget ih =>
    have first := t.sweep_spreads edges
    unfold settle
    split
    next t' quiet => rwa [quiet] at first
    next t' changed =>
      rw [changed] at first
      exact first.trans (ih t')

theorem propagate_settled (t : TypeTable) (edges : Edges) :
    (t.propagate edges).1.Settled edges := by
  refine settle_settled ?_
  have native := t.card_unraised_le .native
  have idiomatic := t.card_unraised_le .idiomatic
  simp only [slack]
  omega

theorem propagate_spreads (t : TypeTable) (edges : Edges) :
    Spreads edges t (t.propagate edges).1 := settle_spreads edges _ t

/-- Propagating through a settled table takes one sweep. -/
theorem Settled.propagate {t : TypeTable} {edges : Edges} (settled : t.Settled edges) :
    t.propagate edges = (t, 1) := by
  simp only [TypeTable.propagate, settle, show t.sweep edges = (t, false) from settled]

/-- No type lacks a flag of this form that it has a reason for. -/
def Done (t : TypeTable) (edges : Edges) (form : Form) : Prop :=
  ∀ id, t.incoming edges form id → (t.node id).borrows form

theorem Settled.done {t : TypeTable} {edges : Edges} (settled : t.Settled edges) (form : Form) :
    t.Done edges form := fun id => settled.closed id form

/-- A type then borrows with all that it is made of. -/
theorem Done.borrows_of_path {t : TypeTable} {edges : Edges} {form : Form}
    (done : t.Done edges form) {id source : TypeId}
    (path : Relation.ReflTransGen (t.Step edges form) id source)
    (atSource : (t.node source).borrows form) : (t.node id).borrows form := by
  induction path using Relation.ReflTransGen.head_induction_on with
  | refl => exact atSource
  | head step _ ih => exact done _ (incoming_iff.2 ⟨_, step, ih⟩)

/-- The flags after propagation are the least ones. -/
theorem propagate_borrows (t : TypeTable) (edges : Edges) (form : Form) (id : TypeId) :
    ((t.propagate edges).1.node id).borrows form ↔ t.Reaches edges form id := by
  have spreads := t.propagate_spreads edges
  refine ⟨spreads.sound form id, fun ⟨source, path, atSource⟩ => ?_⟩
  rw [← spreads.step] at path
  exact ((t.propagate_settled edges).done form).borrows_of_path path
    (spreads.keep form source atSource)

/-- Whatever flags the nodes of a table start with, propagation raises exactly those of the types
that are made of a flagged one, changes nothing else, and is done: another time it takes a single
sweep and changes nothing. -/
theorem propagate_least (t : TypeTable) (edges : Edges) :
    let settled := (t.propagate edges).1
    settled.size = t.size ∧
    (∀ id, settled.node id = { t.node id with
      borrowsRaw := (settled.node id).borrowsRaw
      borrowsSafe := (settled.node id).borrowsSafe }) ∧
    (∀ id, (settled.node id).borrowsRaw ↔ ∃ source,
      Relation.ReflTransGen (t.Step edges .native) id source ∧ (t.node source).borrowsRaw) ∧
    (∀ id, (settled.node id).borrowsSafe ↔ ∃ source,
      Relation.ReflTransGen (t.Step edges .idiomatic) id source ∧ (t.node source).borrowsSafe) ∧
    settled.propagate edges = (settled, 1) := by
  have spreads := t.propagate_spreads edges
  refine ⟨spreads.size, fun id => Node.eq_of_unflagged (spreads.frame id), ?_, ?_, ?_⟩
  · exact t.propagate_borrows edges .native
  · exact t.propagate_borrows edges .idiomatic
  · exact (t.propagate_settled edges).propagate

end TypeTable

end Bindery
