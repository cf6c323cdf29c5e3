import Bindery.Proofs.Borrowing
import Bindery.Proofs.Range

/-!
# Sweeps

How often a table is swept until its lifetimes settle. All but structs are made of earlier types, so
a flag crosses any chain of them within one sweep. After the first sweep only structs can lack a
flag, and each further one, up to the quiet one at the end, raises the flag of a form on a struct
that did not have it, as long as that form is not done.
-/
namespace Bindery

namespace TypeTable

variable {t t' : TypeTable} {edges : Edges} {form : Form} {id : TypeId} {state : TypeTable × Bool}

def swept (edges : Edges) (t : TypeTable) : TypeTable := (t.sweep edges).1

/-- Only structs may be made of later types. -/
def Layered (t : TypeTable) (edges : Edges) : Prop :=
  ∀ form id part, (t.node id).kind ≠ .struct → t.Step edges form id part → part < id

/-- Only structs may lack a flag that they have a reason for. -/
def Tidy (t : TypeTable) (edges : Edges) : Prop :=
  ∀ id, (t.node id).kind ≠ .struct → t.SettledAt edges id

def structs (t : TypeTable) : Finset TypeId :=
  (Finset.range t.size).filter fun id => (t.node id).kind = .struct

def freeStructs (t : TypeTable) (form : Form) : Finset TypeId :=
  t.structs.filter fun id => ¬(t.node id).borrows form

theorem mem_structs : id ∈ t.structs ↔ (t.node id).kind = .struct := by
  simp only [structs, Finset.mem_filter, Finset.mem_range, and_iff_right_iff_imp]
  intro kind
  by_contra outside
  rw [node_of_le (Nat.not_lt.1 outside)] at kind
  cases kind

theorem mem_freeStructs :
    id ∈ t.freeStructs form ↔ (t.node id).kind = .struct ∧ ¬(t.node id).borrows form := by
  rw [freeStructs, Finset.mem_filter, mem_structs]

theorem Ordered.layered (ordered : t.Ordered) (edges : Edges) : t.Layered edges := by
  intro form id part other step
  cases step with
  | wrapped _ link | result _ link => exact ordered.inner_lt link
  | param _ member => exact ordered.param_lt member
  | edge struct => exact absurd struct other

theorem Spreads.layered (spreads : Spreads edges t t') (layered : t.Layered edges) :
    t'.Layered edges := by
  intro form id part other step
  rw [spreads.kind] at other
  rw [spreads.step] at step
  exact layered form id part other step

theorem Spreads.incoming (spreads : Spreads edges t t') (raised : t.incoming edges form id) :
    t'.incoming edges form id := by
  obtain ⟨source, step, borrows⟩ := incoming_iff.1 raised
  rw [← spreads.step] at step
  exact incoming_iff.2 ⟨source, step, spreads.keep form source borrows⟩

/-! ### One sweep -/

/-- A visit raises no flag that an earlier type takes its flag from. -/
theorem incoming_of_visit {n : TypeId} (earlier : id ≤ n)
    (below : ∀ part, state.1.Step edges form id part → part < id)
    (raised : (visit edges state n).1.incoming edges form id) :
    state.1.incoming edges form id := by
  obtain ⟨part, step, borrows⟩ := incoming_iff.1 raised
  rw [(visit_spreads edges state n).step] at step
  have before : part ≠ n := Nat.ne_of_lt (Nat.lt_of_lt_of_le (below part step) earlier)
  rw [visit_borrows] at borrows
  simp only [before, false_and, decide_false, Bool.false_and, Bool.or_false] at borrows
  exact incoming_iff.2 ⟨part, step, borrows⟩

/-- Visiting the next type leaves it without a flag to raise, and the earlier ones as they are. -/
theorem visit_settledAt {n : TypeId} (layered : state.1.Layered edges) (inside : n < state.1.size)
    (before : ∀ id < n, (state.1.node id).kind ≠ .struct → state.1.SettledAt edges id) :
    ∀ id ≤ n, ((visit edges state n).1.node id).kind ≠ .struct →
      (visit edges state n).1.SettledAt edges id := by
  have spreads := visit_spreads edges state n
  intro id upTo other form raised
  rw [spreads.kind] at other
  have reason := incoming_of_visit upTo (fun part => layered form id part other) raised
  rcases Nat.lt_or_eq_of_le upTo with earlier | rfl
  · exact spreads.keep form id (before id earlier other form reason)
  · rw [visit_borrows]
    simp [inside, reason]

theorem visits_settledAt (layered : t.Layered edges) {n : Nat} (inside : n ≤ t.size) :
    ∀ id < n, (t.node id).kind ≠ .struct →
      ((List.range n).foldl (visit edges) (t, false)).1.SettledAt edges id := by
  induction n with
  | zero => exact fun id none => absurd none (Nat.not_lt_zero id)
  | succ n ih =>
    have spreads := visits_spread edges (List.range n) (t, false)
    rw [List.range_succ, List.foldl_append, List.foldl_cons, List.foldl_nil]
    intro id upTo other
    refine visit_settledAt (spreads.layered layered) ?_ ?_ id (Nat.le_of_lt_succ upTo) ?_
    · rw [spreads.size]
      exact inside
    · intro id earlier other
      rw [spreads.kind] at other
      exact ih (Nat.le_of_succ_le inside) id earlier other
    · rwa [(visit_spreads edges _ n).kind, spreads.kind]

theorem swept_spreads (t : TypeTable) (edges : Edges) : Spreads edges t (t.swept edges) :=
  t.sweep_spreads edges

theorem tidy_swept (layered : t.Layered edges) : (t.swept edges).Tidy edges := by
  have spreads := t.swept_spreads edges
  intro id other
  rw [spreads.kind] at other
  by_cases inside : id < t.size
  · exact visits_settledAt layered (Nat.le_refl t.size) id inside other
  · intro form raised
    obtain ⟨part, step, _⟩ := incoming_iff.1 raised
    have outside : t.node id = default := node_of_le (Nat.not_lt.1 inside)
    rw [spreads.step] at step
    cases step with
    | wrapped wrapper => simp [outside, default, Node.isWrapper, Node.isTransparent] at wrapper
    | result kind | param kind | edge kind => simp [outside, default] at kind

/-- Each flag that there is a reason for before a visit is raised by it. -/
theorem visits_raise {ids : List TypeId} (member : id ∈ ids) (inside : id < state.1.size)
    (raised : state.1.incoming edges form id) :
    ((ids.foldl (visit edges) state).1.node id).borrows form := by
  induction ids generalizing state with
  | nil => cases member
  | cons first rest ih =>
    have spreads := visit_spreads edges state first
    rcases List.mem_cons.1 member with rfl | later
    · refine (visits_spread edges rest _).keep form id ?_
      rw [visit_borrows]
      simp [inside, raised]
    · exact ih later (spreads.size ▸ inside) (spreads.incoming raised)

/-- A sweep over a table in which only structs lack flags raises one of a form on some struct, unless
the form is done. -/
theorem Tidy.done_or_raised (tidy : t.Tidy edges) (form : Form) :
    t.Done edges form ∨
      ∃ id ∈ t.freeStructs form, ((t.swept edges).node id).borrows form := by
  refine or_iff_not_imp_left.2 fun open' => ?_
  simp only [Done, not_forall] at open'
  obtain ⟨id, raised, free⟩ := open'
  have struct : (t.node id).kind = .struct := by
    by_contra other
    exact free (tidy id other form raised)
  refine ⟨id, mem_freeStructs.2 ⟨struct, free⟩, ?_⟩
  have inside : id < t.size := by
    have member := mem_structs.2 struct
    exact Finset.mem_range.1 (Finset.mem_filter.1 member).1
  exact visits_raise (List.mem_range.2 inside) inside raised

theorem Done.borrows_swept (done : t.Done edges form)
    (borrows : ((t.swept edges).node id).borrows form) : (t.node id).borrows form := by
  obtain ⟨source, path, atSource⟩ := (t.swept_spreads edges).sound form id borrows
  exact done.borrows_of_path path atSource

/-- A form that is done stays so. -/
theorem Done.swept (done : t.Done edges form) : (t.swept edges).Done edges form := by
  have spreads := t.swept_spreads edges
  intro id raised
  obtain ⟨part, step, borrows⟩ := incoming_iff.1 raised
  rw [spreads.step] at step
  exact spreads.keep form id (done id (incoming_iff.2 ⟨part, step, done.borrows_swept borrows⟩))

theorem settled_of_done (done : ∀ form, t.Done edges form) : t.Settled edges := by
  refine settled_of_quiet (Bool.eq_false_of_not_eq_true fun changed => ?_)
  obtain ⟨form, id, _, free, raised⟩ := sweep_changed changed
  exact free ((done form).borrows_swept raised)

/-! ### All sweeps -/

theorem Spreads.freeStructs_subset (spreads : Spreads edges t t') (form : Form) :
    t'.freeStructs form ⊆ t.freeStructs form := by
  intro id free
  rw [mem_freeStructs, spreads.kind] at free
  exact mem_freeStructs.2 ⟨free.1, fun before => free.2 (spreads.keep form id before)⟩

theorem Tidy.card_freeStructs_lt (tidy : t.Tidy edges) (form : Form) :
    t.Done edges form ∨ ((t.swept edges).freeStructs form).card < (t.freeStructs form).card := by
  refine (tidy.done_or_raised form).imp_right fun ⟨id, member, raised⟩ => ?_
  have fewer := (t.swept_spreads edges).freeStructs_subset form
  refine Finset.card_lt_card ((Finset.ssubset_iff_of_subset fewer).2 ⟨id, member, fun free => ?_⟩)
  exact (mem_freeStructs.1 free).2 raised

theorem Tidy.settled_sweeps {k : Nat} (tidy : t.Tidy edges) (layered : t.Layered edges)
    (few : ∀ form, t.Done edges form ∨ (t.freeStructs form).card ≤ k) :
    ((swept edges)^[k] t).Settled edges := by
  induction k generalizing t with
  | zero =>
    refine settled_of_done fun form => (few form).elim id fun none => ?_
    exact (tidy.card_freeStructs_lt form).resolve_right (by omega)
  | succ k ih =>
    rw [Function.iterate_succ_apply]
    refine ih (tidy_swept layered) ((t.swept_spreads edges).layered layered) fun form => ?_
    rcases few form with done | bound
    · exact .inl done.swept
    · rcases tidy.card_freeStructs_lt form with done | fewer
      · exact .inl done.swept
      · exact .inr (by omega)

/-- A table settles within as many sweeps as exceed the structs that lack the flag of a form which
is not done. -/
theorem settled_sweeps {k : Nat} (layered : t.Layered edges)
    (few : ∀ form, t.Done edges form ∨ (t.freeStructs form).card < k) :
    ((swept edges)^[k] t).Settled edges := by
  cases k with
  | zero => exact settled_of_done fun form => (few form).resolve_right (Nat.not_lt_zero _)
  | succ k =>
    -- The first sweep need not raise a flag on a struct: it may only tidy the table.
    have spreads := t.swept_spreads edges
    rw [Function.iterate_succ_apply]
    refine (tidy_swept layered).settled_sweeps (spreads.layered layered) fun form => ?_
    refine (few form).imp Done.swept fun bound => ?_
    calc
      _ ≤ (t.freeStructs form).card := Finset.card_le_card (spreads.freeStructs_subset form)
      _ ≤ k := Nat.le_of_lt_succ bound

theorem settle_count_le {k : Nat} (settled : ((swept edges)^[k] t).Settled edges) (budget : Nat) :
    (settle edges budget t).2 ≤ k + 1 := by
  induction k generalizing t budget with
  | zero =>
    cases budget with
    | zero => exact Nat.zero_le _
    | succ budget =>
      have quiet : t.sweep edges = (t, false) := settled
      simp [settle, quiet]
  | succ k ih =>
    cases budget with
    | zero => exact Nat.zero_le _
    | succ budget =>
      unfold settle
      split
      next => omega
      next t' changed =>
        have next' : t.swept edges = t' := congrArg Prod.fst changed
        rw [Function.iterate_succ_apply, next'] at settled
        exact Nat.succ_le_succ (ih settled budget)

def Rooted (t : TypeTable) : Prop := ∀ form id, (t.node id).borrows form → id ∈ t.structs

/-- Where only structs borrow, a form without any is done. -/
theorem Rooted.done_or_free_lt (rooted : t.Rooted) (edges : Edges) (form : Form) :
    t.Done edges form ∨ (t.freeStructs form).card < t.structs.card := by
  refine or_iff_not_imp_left.2 fun reason => ?_
  simp only [Done, not_forall] at reason
  obtain ⟨id, raised, _⟩ := reason
  obtain ⟨part, _, borrows⟩ := incoming_iff.1 raised
  refine Finset.card_lt_card ((Finset.ssubset_iff_of_subset (Finset.filter_subset _ _)).2 ?_)
  exact ⟨part, rooted form part borrows, fun free => (mem_freeStructs.1 free).2 borrows⟩

end TypeTable

namespace Library

variable {lib : Library} {t : TypeTable}

theorem Formed.seed_rooted (formed : lib.Formed t) (c : Config) : (t.seed c).Rooted := by
  intro form id borrows
  rw [TypeTable.mem_structs, (t.seed_reflagged c).kind]
  by_contra other
  rw [TypeTable.node_seed, if_neg other, formed.not_borrows] at borrows
  cases borrows

/-- A table that calls have left settles in one sweep a struct, however long the chains between its
structs are, and propagation takes one more to see it. -/
theorem sweeps_le_structs (lib : Library) (calls : List Call) (c : Config) (edges : Edges) :
    let t := lib.after calls
    ((TypeTable.swept edges)^[t.structs.card] (t.seed c)).Settled edges ∧
      ((t.seed c).propagate edges).2 ≤ t.structs.card + 1 := by
  have formed := (lib.built_after calls).toFormed
  have same := (lib.after calls).seed_reflagged c
  have structs : ((lib.after calls).seed c).structs = (lib.after calls).structs := by
    ext id
    rw [TypeTable.mem_structs, TypeTable.mem_structs, same.kind]
  have layered := (Flagged.ordered ⟨_, formed, same⟩).layered edges
  have settled := TypeTable.settled_sweeps layered ((formed.seed_rooted c).done_or_free_lt edges)
  rw [structs] at settled
  exact ⟨settled, TypeTable.settle_count_le settled _⟩

/-- The struct at 0 is made of a pointer to the one at 1, which borrows. It comes before that
pointer, so the flag reaches it in the second sweep only. -/
example :
    let t : TypeTable := ⟨#[{ key := "a", kind := .struct },
      { key := "b", kind := .struct, base := some "b" },
      { key := "b*", kind := .pointer, inner := some 1 }]⟩
    ((t.seed { link := "x", types := { rawLifetime := ["b"] } }).propagate
      { raw := [(0, 2)] }).2 = t.structs.card + 1 := by decide +kernel

end Library

end Bindery
