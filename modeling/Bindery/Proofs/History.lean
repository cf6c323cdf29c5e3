import Bindery.Proofs.Analysis
import Bindery.Proofs.Termination

/-!
# Tables and their histories

Whatever has been asked of a table before, and whether it was answered, a key resolves to the same
error or to the same type, and what the table had stays in its place.
-/
namespace Bindery

open Typing

theorem map_eq_of_forall₂ {α β γ δ : Type} {R : α → β → Prop} {S : α → γ → Prop} {f : β → δ}
    {g : γ → δ} {as : List α} {bs : List β} {cs : List γ} (first : List.Forall₂ R as bs)
    (second : List.Forall₂ S as cs) (same : ∀ a b c, R a b → S a c → f b = g c) :
    bs.map f = cs.map g := by
  induction first generalizing cs with
  | nil =>
    cases second
    rfl
  | cons left _ ih =>
    cases second with
    | cons right rest => rw [List.map_cons, List.map_cons, same _ _ _ left right, ih rest]

/-- A type with those that it refers to in the places of their positions. -/
inductive Expansion where
  | node (n : Node) (inner : Option Expansion) (params : List Expansion)
      (listItem : Option Expansion)
  /-- A reference that does not lead to an earlier node. -/
  | stray (id : TypeId)

def Node.bare (n : Node) : Node := { n with inner := none, params := [], listItem := none }

/-- A wrapper takes nothing else from its target than the target has without its references. -/
theorem Node.bare_wrapping (n target : Node) (id : TypeId) :
    (n.wrapping id target).bare = (n.wrapping 0 target.bare).bare := by
  unfold wrapping
  change Node.bare (if n.isTransparent then _ else _) = Node.bare (if n.isTransparent then _ else _)
  split <;> rfl

namespace TypeTable

def expand (t : TypeTable) (id : TypeId) : Expansion :=
  let part (ref : TypeId) := if ref < id then t.expand ref else .stray ref
  .node (t.node id).bare ((t.node id).inner.map part) ((t.node id).params.map part)
    ((t.node id).listItem.map part)
termination_by id

/-- A type as its node has it, whose references lead to earlier nodes. -/
theorem expand_of_earlier {t : TypeTable} {id : TypeId}
    (earlier : ∀ ref ∈ (t.node id).refs, ref < id) :
    t.expand id = .node (t.node id).bare ((t.node id).inner.map t.expand)
      ((t.node id).params.map t.expand) ((t.node id).listItem.map t.expand) := by
  have part (ref : TypeId) (member : ref ∈ (t.node id).refs) :
      (if ref < id then t.expand ref else .stray ref) = t.expand ref := if_pos (earlier ref member)
  rw [expand]
  congr 1
  · exact Option.map_congr fun ref link => part ref (by simp_all [Node.refs])
  · exact List.map_congr_left fun ref link => part ref (by simp_all [Node.refs])
  · exact Option.map_congr fun ref link => part ref (by simp_all [Node.refs])

end TypeTable

def Blueprint.node : Blueprint → Node
  | closed n | wrapper n _ | function n _ _ | list n _ _ => n

namespace Library

variable {lib : Library} {key inner data : String} {p : Blueprint} {t t' : TypeTable}
  {id id' ref ref' : TypeId}

/-- All references of a blueprint are keys. -/
theorem no_refs_of_draws (draws : lib.Draws key p) :
    p.node.inner = none ∧ p.node.params = [] ∧ p.node.listItem = none := by
  cases draws <;> simp [Blueprint.node, structNode, TypeDecl.plain]

theorem Built.expand (built : lib.Built t) (found : t.find? key = some id) :
    t.expand id = .node (t.node id).bare ((t.node id).inner.map t.expand)
      ((t.node id).params.map t.expand) ((t.node id).listItem.map t.expand) :=
  TypeTable.expand_of_earlier (built.earlier id (TypeTable.lt_size_of_find? found))

/-- Nodes of one key point to nodes of one key, or to none. -/
theorem Built.pointee_same (built : lib.Built t) (built' : lib.Built t')
    (found : t.find? key = some id) (found' : t'.find? key = some id') :
    t.pointee id = none ∧ t'.pointee id' = none ∨
      ∃ target ref ref', t.pointee id = some ref ∧ t'.pointee id' = some ref' ∧
        t.find? target = some ref ∧ t'.find? target = some ref' := by
  cases points : t.pointee id with
  | some ref =>
    obtain ⟨target, pointer, atTarget⟩ := built.pointerTo found points
    obtain ⟨ref', points', atTarget'⟩ := pointer.find? built' found'
    exact .inr ⟨target, ref, ref', rfl, points', atTarget, atTarget'⟩
  | none =>
    cases points' : t'.pointee id' with
    | none => exact .inl ⟨rfl, rfl⟩
    | some ref' =>
      obtain ⟨target, pointer, _⟩ := built'.pointerTo found' points'
      obtain ⟨ref, points', _⟩ := pointer.find? built found
      cases points.symm.trans points'

theorem Built.pointee_keys (built : lib.Built t) (built' : lib.Built t')
    (found : t.find? key = some id) (found' : t'.find? key = some id')
    (points : t.pointee id = some ref) (points' : t'.pointee id' = some ref') :
    ∃ target, t.find? target = some ref ∧ t'.find? target = some ref' := by
  obtain ⟨absent, _⟩ | ⟨target, _, _, this, this', atTarget⟩ :=
    built.pointee_same built' found found'
  · cases absent.symm.trans points
  · cases this.symm.trans points
    cases this'.symm.trans points'
    exact ⟨target, atTarget⟩

/-- Lists of what one key stands for have items of one key. -/
theorem Built.listNode_same (built : lib.Built t) (built' : lib.Built t') (n : Node)
    (found : t.find? key = some id) (found' : t'.find? key = some id') :
    (listNode n t id).bare = (listNode n t' id').bare ∧
      ∃ item item', (listNode n t id).listItem = some item ∧
        (listNode n t' id').listItem = some item' ∧
        ∃ target, t.find? target = some item ∧ t'.find? target = some item' := by
  obtain ⟨last, last'⟩ | ⟨target, item, item', points, points', there, there'⟩ :=
    built.pointee_same built' found found'
  · simp only [listNode, last, last']
    exact ⟨rfl, id, id', rfl, rfl, key, found, found'⟩
  · simp only [listNode, points, points']
    exact ⟨rfl, item, item', rfl, rfl, target, there, there'⟩

/-- Wrappers of the same type are the same type. -/
theorem Built.expand_wrapper {n : Node} (built : lib.Built t) (built' : lib.Built t')
    (found : t.find? key = some id) (found' : t'.find? key = some id')
    (there : t.find? inner = some ref) (there' : t'.find? inner = some ref')
    (made : t.node id = n.wrapping ref (t.node ref))
    (made' : t'.node id' = n.wrapping ref' (t'.node ref')) (noParams : n.params = [])
    (noItem : n.listItem = none) (same : t.expand ref = t'.expand ref') :
    t.expand id = t'.expand id' := by
  have whole := same
  rw [built.expand there, built'.expand there'] at whole
  obtain ⟨bare, -, -, item⟩ := Expansion.node.inj whole
  have wrapped : (n.wrapping ref (t.node ref)).bare = (n.wrapping ref' (t'.node ref')).bare := by
    rw [Node.bare_wrapping n (t.node ref), Node.bare_wrapping n (t'.node ref'), bare]
  rw [built.expand found, built'.expand found', made, made', wrapped]
  simp only [Node.wrapping_inner, Node.wrapping_params, Node.wrapping_listItem, noParams, noItem,
    Option.map_some, List.map_nil, same]
  split
  next => rw [item]
  next => rfl

/-- Lists with a data field of the same type are the same type. -/
theorem Built.expand_list {n : Node} {pointee pointee' : TypeId} (built : lib.Built t)
    (built' : lib.Built t') (found : t.find? key = some id) (found' : t'.find? key = some id')
    (there : t.find? data = some ref) (there' : t'.find? data = some ref') (earlier : ref < id)
    (points : t.pointee ref = some pointee) (points' : t'.pointee ref' = some pointee')
    (made : t.node id = listNode n t pointee) (made' : t'.node id' = listNode n t' pointee')
    (noInner : n.inner = none) (noParams : n.params = [])
    (same : ∀ item < id, ∀ {target item'}, t.find? target = some item →
      t'.find? target = some item' → t.expand item = t'.expand item') :
    t.expand id = t'.expand id' := by
  obtain ⟨_, atPointee, atPointee'⟩ := built.pointee_keys built' there there' points points'
  obtain ⟨bare, item, item', link, link', _, atItem, atItem'⟩ :=
    built.listNode_same built' n atPointee atPointee'
  have inside := TypeTable.lt_size_of_find? there
  have below := built.pointee_lt inside points
  have before : item < id := calc
    item ≤ pointee := listNode_listItem_le built.toFormed (Nat.lt_trans below inside) link
    _ < ref := below
    _ < id := earlier
  rw [built.expand found, built'.expand found', made, made', bare, link, link']
  simp only [listNode_inner, listNode_params, noInner, noParams, same item before atItem atItem',
    Option.map_none, List.map_nil, Option.map_some]

/-- Two tables that are built from one library have the same type under a key that both have. -/
theorem Built.expand_eq (built : lib.Built t) (built' : lib.Built t')
    (found : t.find? key = some id) (found' : t'.find? key = some id') :
    t.expand id = t'.expand id' := by
  -- By the position in the first table only: the second may have the same nodes in another order.
  induction id using Nat.strongRecOn generalizing key id' with
  | _ id ih =>
    obtain ⟨p, ids, drawn, refs, finished⟩ := built.drawn_of_find? found
    obtain ⟨p', ids', drawn', refs', finished'⟩ := built'.drawn_of_find? found'
    obtain rfl : p = p' := Except.ok.inj (drawn.symm.trans drawn')
    obtain ⟨noInner, noParams, noItem⟩ := no_refs_of_draws (draws_of_blueprint drawn)
    cases p with
    | closed n =>
      simp only [Blueprint.node] at noInner noParams noItem
      rw [built.expand found, built'.expand found', ← Except.ok.inj finished,
        ← Except.ok.inj finished']
      simp only [noInner, noParams, noItem, Option.map_none, List.map_nil]
    | function n result params =>
      have parts : ids.map t.expand = ids'.map t'.expand :=
        map_eq_of_forall₂ refs refs' fun _ _ _ ref ref' => ih _ ref.2 ref.1 ref'.1
      simp only [Blueprint.node] at noItem
      rw [built.expand found, built'.expand found', ← Except.ok.inj finished,
        ← Except.ok.inj finished']
      simp only [noItem, Option.map_none, ← List.head?_map, List.map_tail, parts]
      rfl
    | wrapper n inner =>
      obtain ⟨ref, _, ⟨there, earlier⟩, none, rfl⟩ := List.forall₂_cons_left_iff.1 refs
      obtain ⟨ref', _, ⟨there', _⟩, none', rfl⟩ := List.forall₂_cons_left_iff.1 refs'
      exact built.expand_wrapper built' found found' there there'
        (Blueprint.finish_wrapper finished) (Blueprint.finish_wrapper finished') noParams noItem
        (ih ref earlier there there')
    | list n name data =>
      obtain ⟨ref, _, ⟨there, earlier⟩, none, rfl⟩ := List.forall₂_cons_left_iff.1 refs
      obtain ⟨ref', _, ⟨there', _⟩, none', rfl⟩ := List.forall₂_cons_left_iff.1 refs'
      obtain ⟨pointee, points, made⟩ := Blueprint.finish_list finished
      obtain ⟨pointee', points', made'⟩ := Blueprint.finish_list finished'
      exact built.expand_list built' found found' there there' earlier points points' made made'
        noInner noParams ih

/-! ### Failures -/

/-- A key that has a node in one table resolves on every other, unless it comes back to a key that
waits, which has no node. -/
theorem Waiting.resolveIn_of_find? {active : List String} (waiting : lib.Waiting active t)
    (waiting' : lib.Waiting active t') (found : t'.find? key = some id) :
    ∃ id t'', on (lib.resolveIn active key) t = (.ok id, t'') := by
  have founded := waiting'.2.founded found
  refine lib.resolveIn_of_founded active waiting founded fun name waits path => ?_
  obtain ⟨ref, there⟩ := waiting'.2.reaches found path
  cases (waiting'.1.2 name waits).symm.trans there

/-- What fails on one table has no node in another: that would come with all that it takes. -/
theorem Waiting.absent {active : List String} {e : Error} (waiting : lib.Waiting active t)
    (waiting' : lib.Waiting active t') (failed : (on (lib.resolveIn active key) t).1 = .error e) :
    t'.find? key = none := by
  refine Option.eq_none_iff_forall_ne_some.2 fun id found => ?_
  obtain ⟨id, after, run⟩ := waiting.resolveIn_of_find? waiting' found
  rw [run] at failed
  cases failed

theorem finish_error_of_error {e : Error} {ids ids' : List TypeId} (built : lib.Built t)
    (built' : lib.Built t')
    (found : List.Forall₂ (fun name id => t.find? name = some id) p.refs ids)
    (found' : List.Forall₂ (fun name id => t'.find? name = some id) p.refs ids')
    (failed : p.finish t ids = .error e) : p.finish t' ids' = .error e := by
  cases p with
  | closed | function => cases failed
  | wrapper n inner =>
    simp only [Blueprint.finish] at failed ⊢
    split at failed
    next unsized => rw [if_pos unsized, failed]
    next => cases failed
  | list n name data =>
    obtain ⟨ref, _, there, _, rfl⟩ := List.forall₂_cons_left_iff.1 found
    obtain ⟨ref', _, there', _, rfl⟩ := List.forall₂_cons_left_iff.1 found'
    simp only [Blueprint.finish, List.headD_cons] at failed ⊢
    obtain ⟨none, none'⟩ | ⟨_, _, _, points, _⟩ := built.pointee_same built' there there'
    · rw [none] at failed
      rw [none', failed]
    · rw [points] at failed
      cases failed

theorem resolveIn_of_make_error {active : List String} {e : Error} (absent : t.find? key = none)
    (fresh : key ∉ active)
    (failed : (on (lib.make (lib.resolveIn (key :: active)) key) t).1 = .error e) :
    (on (lib.resolveIn active key) t).1 = .error e := by
  rw [on_resolveIn_make, absent]
  simp only [if_neg fresh]
  rcases run : on (lib.make (lib.resolveIn (key :: active)) key) t with ⟨_ | n, after⟩
  all_goals
    rw [run] at failed
    cases failed
  rfl

/-- While the same keys wait, a key fails alike on all tables. -/
theorem resolveIn_error_of_error (lib : Library) (active : List String) :
    ∀ {key t t' e}, lib.Waiting active t → lib.Waiting active t' →
      (on (lib.resolveIn active key) t).1 = .error e →
      (on (lib.resolveIn active key) t').1 = .error e := by
  induction active using waiting_induction lib with
  | _ active ih =>
    intro key t t' e waiting waiting' failed
    have absent' := waiting.absent waiting' failed
    obtain ⟨_, visit⟩ := lib.visit_of_error failed
    cases visit with
    | waits _ waits => simp only [on_resolveIn_make, absent', if_pos waits]
    | unfit _ fresh unfit =>
      exact resolveIn_of_make_error absent' fresh (congrArg Prod.fst (on_make_of_error unfit))
    | @stuck p _ _ absent fresh drawn refs =>
      have keeps name := ((lib.resolveIn_waiting (key :: active)).weaken name)
      have stuck := on_mapM_error_of_error keeps (ih key p fresh drawn) p.refs
        (waiting.wait absent) (waiting'.wait absent') (congrArg Prod.fst refs)
      refine resolveIn_of_make_error absent' fresh ?_
      rw [on_make drawn]
      exact on_bind_eq_error.2 (.inl stuck)
    | @unfinished p ids _ _ absent fresh drawn refs failed =>
      have resolves := lib.resolveIn_waiting (key :: active)
      have keeps name := resolves.weaken name
      rcases refs' : on (p.refs.mapM (lib.resolveIn (key :: active))) t' with ⟨e' | ids', after'⟩
      · have stuck := on_mapM_error_of_error keeps (ih key p fresh drawn) p.refs
          (waiting'.wait absent') (waiting.wait absent) (congrArg Prod.fst refs')
        rw [refs] at stuck
        cases stuck
      · obtain ⟨⟨_, built⟩, _, found⟩ := mapM_finds resolves id (waiting.wait absent) refs
        obtain ⟨⟨_, built'⟩, _, found'⟩ := mapM_finds resolves id (waiting'.wait absent') refs'
        have failed' := finish_error_of_error built built' found found' failed
        refine resolveIn_of_make_error absent' fresh ?_
        rw [on_make drawn]
        refine on_bind_eq_error.2 (.inr ⟨ids', after', refs', ?_⟩)
        rw [on_get_bind, on_liftOutcome]
        exact failed'

/-! ### Histories -/

inductive Call where
  | resolve (key : String)
  | layout (s : StructDecl)
  | roots
  | wrapper (owned : List Root) (f : FunctionDecl)

/-- The table that a call leaves, whether it succeeds or fails. -/
def Call.leaves (lib : Library) (t : TypeTable) : Call → TypeTable
  | resolve key => (on (lib.resolve key) t).2
  | layout s => (on (lib.layout s) t).2
  | roots => (on lib.roots t).2
  | wrapper owned f => (on (lib.wrapper owned f) t).2

def after (lib : Library) (calls : List Call) : TypeTable := calls.foldl (Call.leaves lib) {}

/-- A call leaves what resolving leaves. -/
theorem Call.leaves_keeps {R : TypeTable → TypeTable → Prop} [Std.Refl R] [IsTrans TypeTable R]
    (resolve : ∀ key, Keeps R (lib.resolve key)) (call : Call) (t : TypeTable) :
    R t (call.leaves lib t) := by
  cases call with
  | resolve key => exact resolve key t
  | layout s => exact layout_keeps resolve s t
  | roots => exact roots_keeps resolve t
  | wrapper owned f => exact wrapper_keeps resolve owned f t

theorem after_concat (lib : Library) (calls : List Call) (call : Call) :
    lib.after (calls ++ [call]) = call.leaves lib (lib.after calls) := by
  rw [after, List.foldl_append, List.foldl_cons, List.foldl_nil, after]

theorem resolve_built (lib : Library) (key : String) :
    Keeps (fun t t' => lib.Built t → lib.Built t' ∧ TypeTable.Extends t t') (lib.resolve key) := by
  intro t built
  have ⟨waiting, grows⟩ := (lib.resolveIn_waiting []).keeps key t built.waiting
  exact ⟨waiting.2, grows⟩

theorem built_after (lib : Library) (calls : List Call) : lib.Built (lib.after calls) := by
  induction calls using List.reverseRecOn with
  | nil => exact built_empty lib
  | append_singleton calls call ih =>
    rw [after_concat]
    exact (call.leaves_keeps lib.resolve_built _ ih).1

def outcome (lib : Library) (key : String) (t : TypeTable) : Outcome Expansion :=
  (on (lib.resolve key) t).1.map (on (lib.resolve key) t).2.expand

theorem outcome_eq_of_built (built : lib.Built t) (built' : lib.Built t') (key : String) :
    lib.outcome key t = lib.outcome key t' := by
  have ⟨after, _⟩ := lib.resolve_built key t built
  have ⟨after', _⟩ := lib.resolve_built key t' built'
  unfold outcome
  rcases run : on (lib.resolve key) t with ⟨e | id, u⟩
  · have failed := lib.resolveIn_error_of_error [] built.waiting built'.waiting
      (congrArg Prod.fst run)
    rw [resolve, failed]
    rfl
  · rcases run' : on (lib.resolve key) t' with ⟨e' | id', u'⟩
    · have failed := lib.resolveIn_error_of_error [] built'.waiting built.waiting
        (congrArg Prod.fst run')
      rw [← resolve, run] at failed
      cases failed
    · have resolves := lib.resolveIn_waiting []
      rw [run] at after
      rw [run'] at after'
      exact congrArg Except.ok (after.expand_eq after' (resolves.finds built.waiting run)
        (resolves.finds built'.waiting run'))

/-- What was asked of a table before, and how often it failed, does not show in what a key resolves
to. -/
theorem outcome_after (lib : Library) (calls : List Call) (key : String) :
    lib.outcome key (lib.after calls) = lib.outcome key {} ∧
    ∀ e, (on (lib.resolve key) (lib.after calls)).1 = .error e →
      (on (lib.resolve key) (lib.after (calls ++ [.resolve key]))).1 = .error e := by
  have built := lib.built_after calls
  refine ⟨outcome_eq_of_built built (built_empty lib) key, fun e failed => ?_⟩
  exact lib.resolveIn_error_of_error [] built.waiting (lib.built_after _).waiting failed

/-- The keys of a table are those of its nodes, one each, and its nodes refer to earlier ones. -/
structure Intact (t : TypeTable) : Prop where
  found : ∀ key id, t.find? key = some id ↔ id < t.size ∧ (t.node id).key = key
  distinct : ∀ id < t.size, ∀ id' < t.size, (t.node id).key = (t.node id').key → id = id'
  earlier : ∀ id < t.size, ∀ ref ∈ (t.node id).refs, ref < id

theorem Formed.intact (formed : lib.Formed t) : Intact t where
  found key id := by
    constructor
    · intro found
      have ⟨inside, same, _⟩ := TypeTable.find?_eq_some_iff.1 found
      exact ⟨inside, same⟩
    · rintro ⟨inside, rfl⟩
      exact formed.unique id inside
  distinct id inside id' inside' same := by
    have found := formed.unique id inside
    rw [same, formed.unique id' inside'] at found
    exact (Option.some.inj found).symm
  earlier := formed.earlier

/-- The second table is what the first becomes by resolving some keys with marks, none of which is
left. -/
def Unmarked (lib : Library) (t t' : TypeTable) : Prop :=
  ∃ keys : List String, ∀ (deeper : Marking) (n : Nat), lib.description.types.keys.length < n →
    keys.foldl (fun m key => (lib.markedResolve^[n] deeper key m).2) { table := t } =
      { table := t' }

instance : IsPreorder TypeTable lib.Unmarked where
  refl _ := ⟨[], fun _ _ _ => rfl⟩
  trans _ _ _ := fun ⟨keys, first⟩ ⟨keys', second⟩ => by
    refine ⟨keys ++ keys', fun deeper n enough => ?_⟩
    rw [List.foldl_append, first deeper n enough, second deeper n enough]

theorem resolve_unmarked (lib : Library) (key : String) : Keeps lib.Unmarked (lib.resolve key) := by
  intro t
  exact ⟨[key], fun deeper n enough => congrArg Prod.snd (lib.markedResolve_eq deeper enough key t)⟩

/-- After any calls, which may all fail, a table is intact, and a further call leaves its nodes in
their places and no mark. -/
theorem after_intact (lib : Library) (calls : List Call) :
    Intact (lib.after calls) ∧ ∀ call : Call,
      TypeTable.Extends (lib.after calls) (lib.after (calls ++ [call])) ∧
      lib.Unmarked (lib.after calls) (lib.after (calls ++ [call])) := by
  have built := lib.built_after calls
  refine ⟨built.intact, fun call => ?_⟩
  rw [after_concat]
  exact ⟨(call.leaves_keeps lib.resolve_built _ built).2, call.leaves_keeps lib.resolve_unmarked _⟩

end Library

end Bindery
