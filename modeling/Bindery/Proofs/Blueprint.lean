import Bindery.Proofs.Resolution

/-!
# Blueprints

A node is made in two steps: its blueprint says what it refers to by keys, and when those are
resolved it is finished with their positions. Every table is made of such nodes.
-/
namespace Bindery

open Typing

/-- A node without the types that it refers to, which are still keys. -/
inductive Blueprint where
  | closed (n : Node)
  | wrapper (n : Node) (inner : String)
  | function (n : Node) (result : String) (params : List String)
  /-- A list with the name of its struct and the type of its data field. -/
  | list (n : Node) (name data : String)

namespace Blueprint

def refs : Blueprint → List String
  | closed _ => []
  | wrapper _ inner => [inner]
  | function _ result params => result :: params
  | list _ _ data => [data]

def finish (t : TypeTable) (ids : List TypeId) : Blueprint → Outcome Node
  | closed n => .ok n
  | wrapper n _ =>
    if n.kind = .array ∧ n.arrayLength = none then .error (.noArrayLength n.key)
    else .ok (n.wrapping (ids.headD 0) (t.node (ids.headD 0)))
  | function n _ _ => .ok { n with inner := ids.head?, params := ids.tail, isFunction := true }
  | list n name _ =>
    match t.pointee (ids.headD 0) with
    | none => .error (.invalidStruct name .listDataNotPointer)
    | some pointee => .ok (Library.listNode n t pointee)

variable {t : TypeTable} {ids : List TypeId} {n m : Node}

theorem finish_wrapper {inner : String} (finished : (wrapper n inner).finish t ids = .ok m) :
    m = n.wrapping (ids.headD 0) (t.node (ids.headD 0)) := by
  simp only [finish] at finished
  split at finished
  next => cases finished
  next => exact (Except.ok.inj finished).symm

theorem finish_list {name data : String} (finished : (list n name data).finish t ids = .ok m) :
    ∃ pointee, t.pointee (ids.headD 0) = some pointee ∧ m = Library.listNode n t pointee := by
  simp only [finish] at finished
  split at finished
  next => cases finished
  next pointee points => exact ⟨pointee, points, (Except.ok.inj finished).symm⟩

end Blueprint

namespace Library

/-- The blueprint of a key, found without resolving any other. -/
def blueprint (lib : Library) (key : String) : Outcome Blueprint :=
  match lib.description.types.find? key with
  | none => .error (.unresolvedType key)
  | some ty =>
    let n := ty.plain key
    match lib.primitive? key with
    | some name => .ok <| .closed
        { n with kind := .primitive, isVoid := key = "void", name, safeName := name }
    | none =>
      match ty.kind with
      | .primitive => .error (.unknownPrimitive key)
      | .pointer | .array | .typedef | .const =>
        match ty.inner with
        | none => .error (.noInnerType key)
        | some inner => .ok (.wrapper n inner)
      | .function => .ok (.function n (ty.inner.getD "void") (ty.params.map (·.type)))
      | .struct =>
        let base := ty.baseName.getD key
        match lib.description.structs.find? base with
        | none => .error (.unknownStruct base)
        | some s =>
          match s.role with
          | .error e => .error e
          | .ok role =>
            let n := lib.structNode n s role
            if role ≠ .list then .ok (.closed n)
            else
              match s.fields with
              | [] => .error (.invalidStruct s.name .noListData)
              | first :: _ => .ok (.list n s.name first.type)
      | .enum =>
        let base := ty.baseName.getD key
        match lib.description.enums.find? base with
        | none => .error (.unknownEnum base)
        | some e =>
          let name := Ident.toPascal e.shortName
          .ok (.closed { n with base := some e.name, name, safeName := name })

def realize (resolve : String → Typing TypeId) (p : Blueprint) : Typing Node := do
  let ids ← p.refs.mapM resolve
  liftOutcome (p.finish (← get) ids)

section Realize

variable (resolve : String → Typing TypeId) (n : Node) (t : TypeTable)

theorem on_realize_wrapper (inner : String) : on (realize resolve (.wrapper n inner)) t =
    on (do
      let id ← resolve inner
      if n.kind = .array ∧ n.arrayLength = none then throw (.noArrayLength n.key)
      return n.wrapping id ((← get).node id)) t := by
  simp only [realize, Blueprint.refs, List.mapM_cons, List.mapM_nil, bind_assoc, pure_bind,
    on_bind (resolve inner)]
  rcases on (resolve inner) t with ⟨_ | id, t'⟩
  · rfl
  · simp only [Blueprint.finish, on_get_bind, on_liftOutcome]
    split
    next => rw [on_throw_bind]
    next => rfl

theorem on_realize_function (result : String) (params : List String) :
    on (realize resolve (.function n result params)) t =
      on (do
        let result ← resolve result
        let params ← params.mapM resolve
        return { n with inner := some result, params, isFunction := true }) t := by
  simp only [realize, Blueprint.refs, List.mapM_cons, on_bind]
  rcases on (resolve result) t with ⟨_ | result, t'⟩
  · rfl
  · dsimp only
    rcases on (params.mapM resolve) t' with ⟨_ | ids, t''⟩ <;> rfl

theorem on_realize_list (name data : String) : on (realize resolve (.list n name data)) t =
    on (do
      let data ← resolve data
      match (← get).pointee data with
      | none => throw (.invalidStruct name .listDataNotPointer)
      | some pointee => return listNode n (← get) pointee) t := by
  simp only [realize, Blueprint.refs, List.mapM_cons, List.mapM_nil, bind_assoc, pure_bind,
    on_bind (resolve data)]
  rcases on (resolve data) t with ⟨_ | data, t'⟩
  · rfl
  · simp only [Blueprint.finish, on_get_bind, on_liftOutcome, List.headD_cons]
    cases t'.pointee data <;> rfl

end Realize

def make (lib : Library) (resolve : String → Typing TypeId) (key : String) : Typing Node := do
  realize resolve (← liftOutcome (lib.blueprint key))

variable {lib : Library}

section Make

variable {resolve : String → Typing TypeId} {key : String} {t : TypeTable}

theorem on_make_of_error {e : Error} (unfit : lib.blueprint key = .error e) :
    on (lib.make resolve key) t = (.error e, t) := by
  rw [make, on_bind, on_liftOutcome, unfit]

theorem on_make {p : Blueprint} (drawn : lib.blueprint key = .ok p) :
    on (lib.make resolve key) t = on (realize resolve p) t := by
  rw [make, on_bind, on_liftOutcome, drawn]

end Make

/-- Every entry is built as its blueprint says. -/
theorem on_buildNode {key : String} {ty : TypeDecl}
    (known : lib.description.types.find? key = some ty) (resolve : String → Typing TypeId)
    (t : TypeTable) : on (lib.buildNode resolve key ty) t = on (lib.make resolve key) t := by
  obtain ⟨_, kind, _, _, inner, _, base, params⟩ := ty
  unfold buildNode make blueprint
  simp only [known]
  cases lib.primitive? key with
  | some name => rfl
  | none =>
    cases kind with
    | primitive => rfl
    | pointer | array | typedef | const =>
      cases inner with
      | none => rfl
      | some inner =>
        change _ = on (realize resolve (.wrapper _ inner)) t
        rw [on_realize_wrapper]
        rfl
    | function =>
      change _ = on (realize resolve (.function _ _ _)) t
      rw [on_realize_function, List.mapM_map]
      rfl
    | struct =>
      dsimp only
      cases lib.description.structs.find? (base.getD key) with
      | none => rfl
      | some s =>
        dsimp only
        cases s.role with
        | error => rfl
        | ok role =>
          simp only [on_bind, on_liftOutcome]
          by_cases list : role = .list
          · subst list
            cases s.fields with
            | nil => rfl
            | cons first _ =>
              change _ = on (realize resolve (.list _ s.name first.type)) t
              rw [on_realize_list]
              rfl
          · simp only [ne_eq, list, not_false_eq_true, if_true]
            rfl
    | enum =>
      dsimp only
      cases lib.description.enums.find? (base.getD key) <;> rfl

/-- Resolving a key by its blueprint. -/
theorem on_resolveIn_make (active : List String) (key : String) (t : TypeTable) :
    on (lib.resolveIn active key) t =
      match t.find? key with
      | some id => (.ok id, t)
      | none =>
        if key ∈ active then (.error (.cyclicType key), t)
        else
          match on (lib.make (lib.resolveIn (key :: active)) key) t with
          | (.ok n, t') => (.ok t'.size, t'.push n)
          | (.error e, t') => (.error e, t') := by
  rw [on_resolveIn]
  cases t.find? key with
  | some id => rfl
  | none =>
    cases known : lib.description.types.find? key with
    | none =>
      have unknown : lib.blueprint key = .error (.unresolvedType key) := by simp [blueprint, known]
      simp only [on_make_of_error unknown]
    | some ty =>
      have same := on_buildNode known (lib.resolveIn (key :: active)) t
      rcases run : on (lib.make (lib.resolveIn (key :: active)) key) t with ⟨_ | n, after⟩
      all_goals
        rw [run] at same
        simp only [same]

inductive Visit (lib : Library) (active : List String) (key : String) (t : TypeTable) :
    Outcome TypeId → TypeTable → Prop where
  | known {id} : t.find? key = some id → Visit lib active key t (.ok id) t
  | waits : t.find? key = none → key ∈ active → Visit lib active key t (.error (.cyclicType key)) t
  | unfit {e} : t.find? key = none → key ∉ active → lib.blueprint key = .error e →
      Visit lib active key t (.error e) t
  /-- A key that it refers to fails. -/
  | stuck {p e t'} : t.find? key = none → key ∉ active → lib.blueprint key = .ok p →
      on (p.refs.mapM (lib.resolveIn (key :: active))) t = (.error e, t') →
      Visit lib active key t (.error e) t'
  | unfinished {p ids e t'} : t.find? key = none → key ∉ active → lib.blueprint key = .ok p →
      on (p.refs.mapM (lib.resolveIn (key :: active))) t = (.ok ids, t') →
      p.finish t' ids = .error e → Visit lib active key t (.error e) t'
  | made {p ids n t'} : t.find? key = none → key ∉ active → lib.blueprint key = .ok p →
      on (p.refs.mapM (lib.resolveIn (key :: active))) t = (.ok ids, t') →
      p.finish t' ids = .ok n → Visit lib active key t (.ok t'.size) (t'.push n)

theorem visit (lib : Library) (active : List String) (key : String) (t : TypeTable) :
    lib.Visit active key t (on (lib.resolveIn active key) t).1
      (on (lib.resolveIn active key) t).2 := by
  rw [on_resolveIn_make]
  split
  next id found => exact .known found
  next absent =>
    split
    next waits => exact .waits absent waits
    next fresh =>
      cases drawn : lib.blueprint key with
      | error e =>
        rw [on_make_of_error drawn]
        exact .unfit absent fresh drawn
      | ok p =>
        simp only [on_make drawn, realize, on_bind]
        rcases refs : on (p.refs.mapM (lib.resolveIn (key :: active))) t with ⟨e | ids, t'⟩
        · exact .stuck absent fresh drawn refs
        · simp only [on_get, on_liftOutcome]
          cases finished : p.finish t' ids with
          | error e => exact .unfinished absent fresh drawn refs finished
          | ok n => exact .made absent fresh drawn refs finished

theorem visit_of_error (lib : Library) {active : List String} {key : String} {t : TypeTable}
    {e : Error} (failed : (on (lib.resolveIn active key) t).1 = .error e) :
    ∃ t', lib.Visit active key t (.error e) t' := by
  have visit := lib.visit active key t
  rw [failed] at visit
  exact ⟨_, visit⟩

/-- The entry of a key that is no primitive type. -/
def Composite (lib : Library) (key : String) (ty : TypeDecl) : Prop :=
  lib.description.types.find? key = some ty ∧ lib.primitive? key = none

inductive Draws (lib : Library) (key : String) : Blueprint → Prop where
  | primitive {ty name} : lib.description.types.find? key = some ty →
      lib.primitive? key = some name → Draws lib key (.closed { ty.plain key with
        kind := .primitive, isVoid := key = "void", name, safeName := name })
  | wrapper {ty inner} : lib.Composite key ty → ty.kind ∈ [.pointer, .array, .typedef, .const] →
      ty.inner = some inner → Draws lib key (.wrapper (ty.plain key) inner)
  | function {ty} : lib.Composite key ty → ty.kind = .function →
      Draws lib key (.function (ty.plain key) (ty.inner.getD "void") (ty.params.map (·.type)))
  | struct {ty s role} : lib.Composite key ty → ty.kind = .struct →
      lib.description.structs.find? (ty.baseName.getD key) = some s → s.role = .ok role →
      role ≠ .list → Draws lib key (.closed (lib.structNode (ty.plain key) s role))
  | list {ty s first rest} : lib.Composite key ty → ty.kind = .struct →
      lib.description.structs.find? (ty.baseName.getD key) = some s → s.role = .ok .list →
      s.fields = first :: rest →
      Draws lib key (.list (lib.structNode (ty.plain key) s .list) s.name first.type)
  | enum {ty e} : lib.Composite key ty → ty.kind = .enum →
      lib.description.enums.find? (ty.baseName.getD key) = some e →
      Draws lib key (.closed { ty.plain key with
        base := some e.name, name := Ident.toPascal e.shortName,
        safeName := Ident.toPascal e.shortName })

variable {key : String} {p : Blueprint}

theorem draws_of_blueprint (drawn : lib.blueprint key = .ok p) : lib.Draws key p := by
  unfold blueprint at drawn
  split at drawn
  next => cases drawn
  next ty known =>
    dsimp only at drawn
    split at drawn
    next name primitive =>
      cases drawn
      exact .primitive known primitive
    next composite =>
      split at drawn
      next => cases drawn
      iterate 4
        next kind =>
          split at drawn
          next => cases drawn
          next inner link =>
            cases drawn
            exact .wrapper ⟨known, composite⟩ (by simp [kind]) link
      next kind =>
        cases drawn
        exact .function ⟨known, composite⟩ kind
      next kind =>
        split at drawn
        next => cases drawn
        next s found =>
          split at drawn
          next => cases drawn
          next role legal =>
            split at drawn
            next other =>
              cases drawn
              exact .struct ⟨known, composite⟩ kind found legal other
            next list =>
              obtain rfl := not_ne_iff.1 list
              split at drawn
              next => cases drawn
              next first rest fields =>
                cases drawn
                exact .list ⟨known, composite⟩ kind found legal fields
      next kind =>
        split at drawn
        next => cases drawn
        next e found =>
          cases drawn
          exact .enum ⟨known, composite⟩ kind found

theorem blueprint_of_draws (draws : lib.Draws key p) : lib.blueprint key = .ok p := by
  unfold blueprint
  cases draws with
  | primitive known primitive => simp only [known, primitive]
  | wrapper composite kind link =>
    simp only [composite.1, composite.2]
    simp only [List.mem_cons, List.not_mem_nil, or_false] at kind
    rcases kind with kind | kind | kind | kind <;> simp only [kind, link]
  | function composite kind => simp only [composite.1, composite.2, kind]
  | struct composite kind found legal other =>
    simp only [composite.1, composite.2, kind, found, legal, if_pos other]
  | list composite kind found legal fields =>
    simp [composite.1, composite.2, kind, found, legal, fields]
  | enum composite kind found => simp only [composite.1, composite.2, kind, found]

theorem blueprint_eq_ok_iff : lib.blueprint key = .ok p ↔ lib.Draws key p :=
  ⟨draws_of_blueprint, blueprint_of_draws⟩

/-! ### Tables of finished blueprints -/

/-- Every node is made from the blueprint of its key, over earlier nodes. -/
structure Built (lib : Library) (t : TypeTable) : Prop extends lib.Formed t where
  drawn : ∀ id < t.size, ∃ p ids, lib.blueprint (t.node id).key = .ok p ∧
    List.Forall₂ (fun name ref => t.find? name = some ref ∧ ref < id) p.refs ids ∧
    p.finish t ids = .ok (t.node id)

theorem built_empty (lib : Library) : lib.Built {} where
  toFormed := formed_empty lib
  drawn _ inside := absurd inside (Nat.not_lt_zero _)

variable {t t' : TypeTable} {n : Node} {ids : List TypeId}

theorem finish_key (drawn : lib.blueprint key = .ok p) (finished : p.finish t ids = .ok n) :
    n.key = key := by
  cases draws_of_blueprint drawn with
  | primitive | struct | enum =>
    cases finished
    rfl
  | function =>
    cases finished
    rfl
  | wrapper =>
    rw [Blueprint.finish_wrapper finished]
    exact Node.wrapping_key ..
  | list =>
    obtain ⟨pointee, _, rfl⟩ := Blueprint.finish_list finished
    exact listNode_key ..

/-- A blueprint is finished alike on every larger table. -/
theorem finish_extend (formed : lib.Formed t) (grows : TypeTable.Extends t t')
    (found : List.Forall₂ (fun name id => t.find? name = some id) p.refs ids) :
    p.finish t' ids = p.finish t ids := by
  cases p with
  | closed | function => rfl
  | wrapper n inner =>
    obtain ⟨id, _, atInner, _, rfl⟩ := List.forall₂_cons_left_iff.1 found
    have inside := TypeTable.lt_size_of_find? atInner
    simp only [Blueprint.finish, List.headD_cons, grows.node id inside]
  | list n name data =>
    obtain ⟨id, _, atData, _, rfl⟩ := List.forall₂_cons_left_iff.1 found
    have inside := TypeTable.lt_size_of_find? atData
    simp only [Blueprint.finish, List.headD_cons, grows.pointee inside]
    cases points : t.pointee id with
    | none => rfl
    | some pointee =>
      have below := Nat.lt_trans (formed.pointee_lt inside points) inside
      simp only [listNode, grows.pointee below]

theorem Built.push (built : lib.Built t) (formed : lib.Formed (t.push n))
    (drawn : lib.blueprint key = .ok p)
    (found : List.Forall₂ (fun name id => t.find? name = some id) p.refs ids)
    (finished : p.finish t ids = .ok n) : lib.Built (t.push n) where
  toFormed := formed
  drawn id inside := by
    have grows := TypeTable.Extends.push t n
    rw [TypeTable.size_push] at inside
    rcases Nat.lt_succ_iff_lt_or_eq.1 inside with old | rfl
    · obtain ⟨p, ids, drawn, found, finished⟩ := built.drawn id old
      rw [grows.node id old]
      refine ⟨p, ids, drawn, found.imp fun _ _ ref => ⟨grows.find? ref.1, ref.2⟩, ?_⟩
      rw [finish_extend built.toFormed grows (found.imp fun _ _ ref => ref.1), finished]
    · rw [TypeTable.node_push_self, finish_key drawn finished]
      refine ⟨p, ids, drawn, found.imp fun _ _ ref => ?_, ?_⟩
      · exact ⟨grows.find? ref, TypeTable.lt_size_of_find? ref⟩
      · rw [finish_extend built.toFormed grows found, finished]

theorem known_of_blueprint (drawn : lib.blueprint key = .ok p) :
    key ∈ lib.description.types.keys := by
  cases found : lib.description.types.find? key with
  | none => simp [blueprint, found] at drawn
  | some ty => exact Table.mem_keys_of_find? found

/-- What resolving does while some keys wait may be shown from what it does while one more waits. -/
theorem waiting_induction (lib : Library) {motive : List String → Prop}
    (step : ∀ active, (∀ key p, key ∉ active → lib.blueprint key = .ok p → motive (key :: active)) →
      motive active) (active : List String) : motive active := by
  induction size : (lib.description.types.pending active).length using Nat.strongRecOn
    generalizing active with
  | _ size ih =>
    exact step active fun key p fresh drawn =>
      ih _ (size ▸ Table.pending_lt (known_of_blueprint drawn) fresh) _ rfl

def Waiting (lib : Library) (active : List String) (t : TypeTable) : Prop :=
  lib.Ready active t ∧ lib.Built t

theorem Waiting.wait {active : List String} (waiting : lib.Waiting active t)
    (absent : t.find? key = none) : lib.Waiting (key :: active) t :=
  ⟨waiting.1.wait absent, waiting.2⟩

theorem Built.waiting (built : lib.Built t) : lib.Waiting [] t :=
  ⟨ready_nil.2 built.toFormed, built⟩

/-- What holds of the tables that keys are resolved on still holds afterwards. -/
theorem Resolves.weaken {P : TypeTable → Prop} {resolve : String → Typing TypeId}
    (resolves : Resolves P resolve) (key : String) : Keeps (fun t t' => P t → P t') (resolve key) :=
  fun t holds => (resolves.keeps key t holds).1

theorem resolveIn_waiting (lib : Library) (active : List String) :
    Resolves (lib.Waiting active) (lib.resolveIn active) := by
  induction active using waiting_induction lib with
  | _ active ih =>
    have resolves := lib.resolveIn_resolves active
    refine ⟨fun key t waiting => ?_, fun waiting => resolves.finds waiting.1⟩
    have ⟨ready, grows⟩ := resolves.keeps key t waiting.1
    refine ⟨⟨ready, ?_⟩, grows⟩
    have visit := lib.visit active key t
    generalize (on (lib.resolveIn active key) t).1 = r,
      (on (lib.resolveIn active key) t).2 = after at *
    cases visit with
    | known | waits | unfit => exact waiting.2
    | @stuck p _ _ absent fresh drawn refs =>
      have kept := Keeps.mapM (ih key p fresh drawn).keeps p.refs t (waiting.wait absent)
      rw [refs] at kept
      exact kept.1.2
    | @unfinished p _ _ _ absent fresh drawn refs =>
      have kept := Keeps.mapM (ih key p fresh drawn).keeps p.refs t (waiting.wait absent)
      rw [refs] at kept
      exact kept.1.2
    | made absent fresh drawn refs finished =>
      obtain ⟨kept, _, found⟩ := mapM_finds (ih key _ fresh drawn) id (waiting.wait absent) refs
      exact kept.2.push ready.1 drawn found finished

end Library

end Bindery
