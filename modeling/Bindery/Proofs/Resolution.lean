import Bindery.Proofs.Growth
import Bindery.Proofs.Typing
import Mathlib.Data.List.Forall2

/-!
# Resolved tables

Resolving only adds nodes, one a key, each as its description says and behind all that it refers
to. It does so whether it succeeds or not.
-/
namespace Bindery

open Typing

theorem exists_left_of_forall₂ {α β : Type} {R : α → β → Prop} {as : List α} {bs : List β} {b : β}
    (related : List.Forall₂ R as bs) (member : b ∈ bs) : ∃ a ∈ as, R a b := by
  induction related with
  | nil => cases member
  | cons first _ ih =>
    rcases List.mem_cons.1 member with rfl | later
    · exact ⟨_, List.mem_cons_self, first⟩
    · obtain ⟨a, inside, holds⟩ := ih later
      exact ⟨a, List.mem_cons_of_mem _ inside, holds⟩

theorem exists_right_of_forall₂ {α β : Type} {R : α → β → Prop} {as : List α} {bs : List β} {a : α}
    (related : List.Forall₂ R as bs) (member : a ∈ as) : ∃ b ∈ bs, R a b :=
  exists_left_of_forall₂ related.flip member

theorem bind_eq_ok_iff {α β : Type} {x : Outcome α} {f : α → Outcome β} {b : β} :
    x >>= f = .ok b ↔ ∃ a, x = .ok a ∧ f a = .ok b := by
  cases x with
  | error e => simp [bind, Except.bind]
  | ok a => simp [bind, Except.bind]

theorem ok_of_any {α : Type} {x : Outcome α} {p : α → Bool} (holds : x.toOption.any p) :
    ∃ a, x = .ok a ∧ p a := by
  cases x with
  | error e => simp [Except.toOption] at holds
  | ok a => exact ⟨a, rfl, by simpa [Except.toOption] using holds⟩

theorem mapM_eq_ok_iff {α β : Type} {f : α → Outcome β} {as : List α} {bs : List β} :
    as.mapM f = .ok bs ↔ List.Forall₂ (fun a b => f a = .ok b) as bs := by
  induction as generalizing bs with
  | nil => cases bs <;> simp [pure, Except.pure]
  | cons a as ih =>
    rw [List.mapM_cons, List.forall₂_cons_left_iff, bind_eq_ok_iff]
    refine ⟨fun ⟨b, first, rest⟩ => ?_, fun ⟨b, later, first, rest, same⟩ => ?_⟩
    · obtain ⟨later, each, same⟩ := bind_eq_ok_iff.1 rest
      cases same
      exact ⟨b, later, first, ih.1 each, rfl⟩
    · subst same
      exact ⟨b, first, bind_eq_ok_iff.2 ⟨later, ih.2 rest, rfl⟩⟩

def TypeDecl.plain (ty : TypeDecl) (key : String) : Node :=
  { key, kind := ty.kind, isConst := ty.isConst, isNullable := ty.isNullable,
    arrayLength := ty.arrayLength }

namespace Library

variable {lib : Library}

/-- The node of a described type, where all that it refers to is in the table. -/
inductive Describes (lib : Library) (t : TypeTable) (key : String) (ty : TypeDecl) :
    Node → Prop where
  | primitive {name} : lib.primitive? key = some name →
      Describes lib t key ty { ty.plain key with
        kind := .primitive, isVoid := key = "void", name, safeName := name }
  | wrapper {innerKey inner} : (ty.plain key).isWrapper → ty.inner = some innerKey →
      t.find? innerKey = some inner → (ty.kind = .array → ty.arrayLength ≠ none) →
      Describes lib t key ty ((ty.plain key).wrapping inner (t.node inner))
  | function {result params} : ty.kind = .function →
      t.find? (ty.inner.getD "void") = some result →
      List.Forall₂ (fun p id => t.find? p.type = some id) ty.params params →
      Describes lib t key ty { ty.plain key with inner := some result, params, isFunction := true }
  | struct {s role} : ty.kind = .struct →
      lib.description.structs.find? (ty.baseName.getD key) = some s → s.role = .ok role →
      role ≠ .list → Describes lib t key ty (lib.structNode (ty.plain key) s role)
  | list {s first rest data pointee} : ty.kind = .struct →
      lib.description.structs.find? (ty.baseName.getD key) = some s → s.role = .ok .list →
      s.fields = first :: rest → t.find? first.type = some data → t.pointee data = some pointee →
      Describes lib t key ty (listNode (lib.structNode (ty.plain key) s .list) t pointee)
  | enum {e} : ty.kind = .enum → lib.description.enums.find? (ty.baseName.getD key) = some e →
      Describes lib t key ty { ty.plain key with
        base := some e.name, name := Ident.toPascal e.shortName,
        safeName := Ident.toPascal e.shortName }

structure Resolves (P : TypeTable → Prop) (resolve : String → Typing TypeId) : Prop where
  keeps : ∀ key, Keeps (fun t t' => P t → P t' ∧ TypeTable.Extends t t') (resolve key)
  finds : ∀ {key t id t'}, P t → on (resolve key) t = (.ok id, t') → t'.find? key = some id

section Build

variable {P : TypeTable → Prop} {resolve : String → Typing TypeId}

instance : IsPreorder TypeTable (fun t t' => P t → P t' ∧ TypeTable.Extends t t') where
  refl t holds := ⟨holds, refl t⟩
  trans _ _ _ first second holds :=
    have ⟨between, grows⟩ := first holds
    have ⟨after, grows'⟩ := second between
    ⟨after, IsTrans.trans _ _ _ grows grows'⟩

theorem buildNode_keeps (lib : Library) (resolves : Resolves P resolve) (key : String)
    (ty : TypeDecl) :
    Keeps (fun t t' => P t → P t' ∧ TypeTable.Extends t t') (lib.buildNode resolve key ty) := by
  unfold buildNode
  split
  next => exact keeps_pure _
  next =>
    split
    next => exact keeps_throw _
    iterate 4
      next =>
        split
        next => exact keeps_throw _
        next =>
          refine (resolves.keeps _).bind fun inner => .ite (fun _ => ?_) fun _ => ?_
          · exact (keeps_throw _).bind fun _ => keeps_get.bind fun _ => keeps_pure _
          · exact keeps_get.bind fun _ => keeps_pure _
    next =>
      exact (resolves.keeps _).bind fun result =>
        (Keeps.mapM (fun (p : ParamDecl) => resolves.keeps p.type) _).bind fun params =>
          keeps_pure _
    next =>
      dsimp only
      split
      next => exact keeps_throw _
      next =>
        refine (keeps_liftOutcome _).bind fun role => .ite (fun _ => ?_) fun _ => ?_
        · exact keeps_pure _
        · split
          next => exact keeps_throw _
          next =>
            refine (resolves.keeps _).bind fun data => keeps_get.bind fun t => ?_
            split
            next => exact keeps_throw _
            next => exact keeps_get.bind fun _ => keeps_pure _
    next =>
      dsimp only
      split
      next => exact keeps_throw _
      next => exact keeps_pure _

theorem mapM_finds {α : Type} (resolves : Resolves P resolve) (name : α → String) {xs : List α}
    {t t' : TypeTable} {ids : List TypeId} (holds : P t)
    (run : on (xs.mapM fun x => resolve (name x)) t = (.ok ids, t')) :
    P t' ∧ TypeTable.Extends t t' ∧
      List.Forall₂ (fun x id => t'.find? (name x) = some id) xs ids := by
  induction xs generalizing t ids with
  | nil =>
    cases run
    exact ⟨holds, Std.Refl.refl _, .nil⟩
  | cons x xs ih =>
    obtain ⟨id, between, rest, first, later, rfl⟩ := on_mapM_cons_eq_ok.1 run
    have ⟨after, grows⟩ := resolves.keeps (name x) t holds
    rw [first] at after grows
    have ⟨atEnd, grows', found⟩ := ih after later
    exact ⟨atEnd, IsTrans.trans _ _ _ grows grows',
      .cons (grows'.find? (resolves.finds holds first)) found⟩

theorem buildNode_describes (resolves : Resolves P resolve) {key : String} {ty : TypeDecl}
    {t t' : TypeTable} {n : Node} (holds : P t)
    (run : on (lib.buildNode resolve key ty) t = (.ok n, t')) : lib.Describes t' key ty n := by
  unfold buildNode at run
  split at run
  next name primitive =>
    cases run
    exact .primitive primitive
  next =>
    split at run
    next => cases run
    iterate 4
      next kind =>
        split at run
        next => cases run
        next innerKey link =>
          obtain ⟨inner, between, first, rest⟩ := on_bind_eq_ok.1 run
          dsimp only at rest
          split at rest
          next => simp at rest
          next sized =>
            cases rest
            exact .wrapper (by simp [TypeDecl.plain, Node.isWrapper, Node.isTransparent, kind]) link
              (resolves.finds holds first) fun array length => sized ⟨array, length⟩
    next kind =>
      obtain ⟨result, between, first, rest⟩ := on_bind_eq_ok.1 run
      obtain ⟨params, after, later, last⟩ := on_bind_eq_ok.1 rest
      have ⟨atResult, _⟩ := resolves.keeps (ty.inner.getD "void") t holds
      rw [first] at atResult
      have ⟨_, grows, found⟩ := mapM_finds resolves ParamDecl.type atResult later
      cases last
      exact .function kind (grows.find? (resolves.finds holds first)) found
    next kind =>
      dsimp only at run
      split at run
      next => cases run
      next s found =>
        obtain ⟨role, between, first, rest⟩ := on_bind_eq_ok.1 run
        rw [on_liftOutcome] at first
        obtain ⟨role, rfl⟩ : s.role = .ok role ∧ t = between := by simpa using first
        split at rest
        next other =>
          cases rest
          exact .struct kind found role other
        next list =>
          obtain rfl := not_ne_iff.1 list
          split at rest
          next => cases rest
          next first tail fields =>
            obtain ⟨data, after, atData, rest⟩ := on_bind_eq_ok.1 rest
            rw [on_get_bind] at rest
            split at rest
            next => cases rest
            next pointee points =>
              cases rest
              exact .list kind found role fields (resolves.finds holds atData) points
    next kind =>
      dsimp only at run
      split at run
      next => cases run
      next e found =>
        cases run
        exact .enum kind found

end Build

end Library

def Node.refs (n : Node) : List TypeId := n.inner.toList ++ n.params ++ n.listItem.toList

namespace Library

variable {lib : Library} {t t' : TypeTable} {key : String} {ty : TypeDecl} {n : Node}

/-- A table as resolving leaves it. -/
structure Formed (lib : Library) (t : TypeTable) : Prop where
  described : ∀ id < t.size, ∃ ty, lib.description.types.find? (t.node id).key = some ty ∧
    lib.Describes t (t.node id).key ty (t.node id)
  earlier : ∀ id < t.size, ∀ ref ∈ (t.node id).refs, ref < id
  unique : ∀ id < t.size, t.find? (t.node id).key = some id

theorem formed_empty (lib : Library) : lib.Formed {} where
  described _ inside := absurd inside (Nat.not_lt_zero _)
  earlier _ inside := absurd inside (Nat.not_lt_zero _)
  unique _ inside := absurd inside (Nat.not_lt_zero _)

theorem Formed.inner_lt (formed : lib.Formed t) {id inner : TypeId} (inside : id < t.size)
    (link : (t.node id).inner = some inner) : inner < id :=
  formed.earlier id inside inner (by simp [Node.refs, link])

theorem Formed.pointee_lt (formed : lib.Formed t) {id pointee : TypeId} (inside : id < t.size)
    (points : t.pointee id = some pointee) : pointee < id := by
  have below := t.strip_le id
  unfold TypeTable.pointee at points
  split at points
  next =>
    exact Nat.lt_of_lt_of_le (formed.inner_lt (Nat.lt_of_le_of_lt below inside) points) below
  next => cases points

/-- The items of a list come before what its data field points to, or are that. -/
theorem listNode_listItem_le (formed : lib.Formed t) {pointee item : TypeId}
    (inside : pointee < t.size) (link : (listNode n t pointee).listItem = some item) :
    item ≤ pointee := by
  unfold listNode at link
  split at link
  next points =>
    cases link
    exact Nat.le_of_lt (formed.pointee_lt inside points)
  next =>
    cases link
    exact Nat.le_refl _

theorem Describes.node_key {name : String} (describes : lib.Describes t name ty n) :
    n.key = name := by
  cases describes with
  | wrapper => exact Node.wrapping_key ..
  | list => exact listNode_key ..
  | _ => rfl

/-- Only wrappers and functions have an inner type. -/
theorem Describes.wraps {name : String} {inner : TypeId} (describes : lib.Describes t name ty n)
    (link : n.inner = some inner) : n.isWrapper ∨ n.kind = .function := by
  cases describes with
  | wrapper wrapper => exact .inl (by simpa [Node.isWrapper, Node.isTransparent] using wrapper)
  | function kind => exact .inr kind
  | _ => simp [structNode, TypeDecl.plain] at link

/-- Only functions have parameters. -/
theorem Describes.calls {name : String} {param : TypeId} (describes : lib.Describes t name ty n)
    (member : param ∈ n.params) : n.kind = .function := by
  cases describes with
  | function kind => exact kind
  | _ => simp [structNode, TypeDecl.plain] at member

/-- A wrapper leads to a function if what it wraps does. -/
theorem Describes.isFunction_inner {name : String} {inner : TypeId}
    (describes : lib.Describes t name ty n) (wrapper : n.isWrapper) (link : n.inner = some inner) :
    n.isFunction = (t.node inner).isFunction := by
  cases describes with
  | wrapper _ _ found =>
    rw [Node.wrapping_inner] at link
    cases link
    exact Node.wrapping_isFunction ..
  | function kind =>
    simp [TypeDecl.plain, Node.isWrapper, Node.isTransparent, kind] at wrapper
  | _ => simp [structNode, TypeDecl.plain] at link

/-- What a node refers to is in the table that it is described over. -/
theorem Describes.refs_lt {name : String} (describes : lib.Describes t name ty n)
    (formed : lib.Formed t) : ∀ ref ∈ n.refs, ref < t.size := by
  cases describes with
  | primitive => simp [Node.refs, TypeDecl.plain]
  | wrapper wrapper link found =>
    have inside := TypeTable.lt_size_of_find? found
    intro ref member
    simp only [Node.refs, Node.wrapping_inner, Node.wrapping_params, Node.wrapping_listItem,
      List.mem_append, Option.mem_toList, TypeDecl.plain] at member
    rcases member with (member | member) | member
    · cases member
      exact inside
    · cases member
    · split at member
      next => exact Nat.lt_trans (formed.earlier _ inside ref (by simp [Node.refs, member])) inside
      next => cases member
  | function kind found params =>
    intro ref member
    simp only [Node.refs, TypeDecl.plain, List.mem_append, Option.mem_toList] at member
    rcases member with (member | member) | member
    · cases member
      exact TypeTable.lt_size_of_find? found
    · obtain ⟨p, _, found⟩ := exists_left_of_forall₂ params member
      exact TypeTable.lt_size_of_find? found
    · cases member
  | struct => simp [Node.refs, structNode, TypeDecl.plain]
  | @list s first rest data pointee kind known role fields found points =>
    have inside := TypeTable.lt_size_of_find? found
    have below := formed.pointee_lt inside points
    intro ref member
    have item :
        (listNode (lib.structNode (ty.plain name) s .list) t pointee).listItem = some ref := by
      simpa [Node.refs, structNode, TypeDecl.plain] using member
    exact Nat.lt_of_le_of_lt
      (listNode_listItem_le formed (Nat.lt_trans below inside) item) (Nat.lt_trans below inside)
  | enum => simp [Node.refs, TypeDecl.plain]

/-- A node that is described over a table is so over every larger one. -/
theorem Describes.extend {name : String} (describes : lib.Describes t name ty n)
    (formed : lib.Formed t) (grows : TypeTable.Extends t t') : lib.Describes t' name ty n := by
  cases describes with
  | primitive known => exact .primitive known
  | wrapper wrapper link found sized =>
    rw [← grows.node _ (TypeTable.lt_size_of_find? found)]
    exact .wrapper wrapper link (grows.find? found) sized
  | function kind found params =>
    exact .function kind (grows.find? found) (params.imp fun _ _ => grows.find?)
  | struct kind known role other => exact .struct kind known role other
  | @list s first rest data pointee kind known role fields found points =>
    have inside := TypeTable.lt_size_of_find? found
    have below := Nat.lt_trans (formed.pointee_lt inside points) inside
    have same : listNode (lib.structNode (ty.plain name) s .list) t pointee =
        listNode (lib.structNode (ty.plain name) s .list) t' pointee := by
      simp only [listNode, grows.pointee below]
    rw [same]
    exact .list kind known role fields (grows.find? found) ((grows.pointee inside).trans points)
  | enum kind known => exact .enum kind known

theorem Formed.push (formed : lib.Formed t) (known : lib.description.types.find? key = some ty)
    (describes : lib.Describes t key ty n) (fresh : t.find? key = none) :
    lib.Formed (t.push n) := by
  have grows := TypeTable.Extends.push t n
  have split {id : TypeId} (inside : id < (t.push n).size) : id < t.size ∨ id = t.size := by
    rw [TypeTable.size_push] at inside
    exact Nat.lt_succ_iff_lt_or_eq.1 inside
  refine ⟨fun id inside => ?_, fun id inside => ?_, fun id inside => ?_⟩ <;>
    rcases split inside with old | rfl
  · rw [grows.node id old]
    obtain ⟨ty, known, describes⟩ := formed.described id old
    exact ⟨ty, known, describes.extend formed grows⟩
  · rw [TypeTable.node_push_self, describes.node_key]
    exact ⟨ty, known, describes.extend formed grows⟩
  · rw [grows.node id old]
    exact formed.earlier id old
  · rw [TypeTable.node_push_self]
    exact describes.refs_lt formed
  · rw [grows.node id old]
    exact grows.find? (formed.unique id old)
  · rw [TypeTable.node_push_self, describes.node_key]
    refine TypeTable.find?_eq_some_iff.2 ⟨by simp, ?_, fun before lt => ?_⟩
    · rw [TypeTable.node_push_self, describes.node_key]
    · rw [grows.node before lt]
      exact TypeTable.find?_eq_none_iff.1 fresh before lt

/-- A table on which keys can be resolved while others wait: those have no node yet. -/
def Ready (lib : Library) (active : List String) (t : TypeTable) : Prop :=
  lib.Formed t ∧ ∀ name ∈ active, t.find? name = none

theorem find?_push {name : String} (fresh : t.find? name = none) :
    (t.push n).find? name = if n.key = name then some t.size else none := by
  have absent := TypeTable.find?_eq_none_iff.1 fresh
  split
  next same =>
    refine TypeTable.find?_eq_some_iff.2 ⟨by simp, ?_, fun before lt => ?_⟩
    · rw [TypeTable.node_push_self, same]
    · rw [TypeTable.node_push_of_lt n lt]
      exact absent before lt
  next differs =>
    refine TypeTable.find?_eq_none_iff.2 fun id inside => ?_
    rw [TypeTable.size_push] at inside
    rcases Nat.lt_succ_iff_lt_or_eq.1 inside with old | rfl
    · rw [TypeTable.node_push_of_lt n old]
      exact absent id old
    · rwa [TypeTable.node_push_self]

/-- Resolving a key, case by case. -/
theorem on_resolveIn (active : List String) (key : String) (t : TypeTable) :
    on (lib.resolveIn active key) t =
      match t.find? key with
      | some id => (.ok id, t)
      | none =>
        if key ∈ active then (.error (.cyclicType key), t)
        else
          match lib.description.types.find? key with
          | none => (.error (.unresolvedType key), t)
          | some ty =>
            match on (lib.buildNode (lib.resolveIn (key :: active)) key ty) t with
            | (.ok n, t') => (.ok t'.size, t'.push n)
            | (.error e, t') => (.error e, t') := by
  rw [resolveIn, on_get_bind]
  cases t.find? key with
  | some id => rfl
  | none =>
    dsimp only
    by_cases waits : key ∈ active
    · rw [dif_pos waits, if_pos waits]
      rfl
    · rw [dif_neg waits, if_neg waits]
      split
      next unknown => simp [unknown]
      next ty known =>
        simp only [known, on_bind]
        rcases on (lib.buildNode (lib.resolveIn (key :: active)) key ty) t with ⟨_ | n, t'⟩ <;> rfl

section Waiting

variable {active : List String}

/-- While the node of a key is built, the key waits too. -/
theorem Ready.wait (ready : lib.Ready active t) (absent : t.find? key = none) :
    lib.Ready (key :: active) t :=
  ⟨ready.1, List.forall_mem_cons.2 ⟨absent, ready.2⟩⟩

theorem Ready.push (ready : lib.Ready (key :: active) t) (fresh : key ∉ active)
    (known : lib.description.types.find? key = some ty) (describes : lib.Describes t key ty n) :
    lib.Ready active (t.push n) := by
  have ⟨absent, others⟩ := List.forall_mem_cons.1 ready.2
  refine ⟨ready.1.push known describes absent, fun name waits => ?_⟩
  have differs : n.key ≠ name := by
    rw [describes.node_key]
    rintro rfl
    exact fresh waits
  rw [find?_push (others name waits), if_neg differs]

end Waiting

theorem resolveIn_resolves (lib : Library) (active : List String) :
    Resolves (lib.Ready active) (lib.resolveIn active) := by
  induction size : (lib.description.types.pending active).length using Nat.strongRecOn
    generalizing active with
  | _ size ih =>
    have build {key : String} {ty : TypeDecl} (known : lib.description.types.find? key = some ty)
        (fresh : key ∉ active) :
        Resolves (lib.Ready (key :: active)) (lib.resolveIn (key :: active)) :=
      ih _ (size ▸ Table.pending_lt (Table.mem_keys_of_find? known) fresh) _ rfl
    refine ⟨fun key t ready => ?_, fun {key t id t'} ready run => ?_⟩
    · rw [on_resolveIn]
      split
      next => exact ⟨ready, Std.Refl.refl t⟩
      next absent =>
        split
        next => exact ⟨ready, Std.Refl.refl t⟩
        next fresh =>
          split
          next => exact ⟨ready, Std.Refl.refl t⟩
          next ty known =>
            have resolves := build known fresh
            obtain ⟨built, grows⟩ := lib.buildNode_keeps resolves key ty t (ready.wait absent)
            split
            next n t' run =>
              rw [run] at built grows
              have describes := buildNode_describes resolves (ready.wait absent) run
              exact ⟨built.push fresh known describes, IsTrans.trans _ _ _ grows (.push t' n)⟩
            next e t' run =>
              rw [run] at built grows
              exact ⟨⟨built.1, (List.forall_mem_cons.1 built.2).2⟩, grows⟩
    · rw [on_resolveIn] at run
      split at run
      next found =>
        cases run
        exact found
      next absent =>
        split at run
        next => cases run
        next fresh =>
          split at run
          next => cases run
          next ty known =>
            have resolves := build known fresh
            obtain ⟨built, _⟩ := lib.buildNode_keeps resolves key ty t (ready.wait absent)
            split at run
            next n t' run' =>
              cases run
              rw [run'] at built
              have describes := buildNode_describes resolves (ready.wait absent) run'
              rw [find?_push (built.2 key List.mem_cons_self), if_pos describes.node_key]
            next => cases run

theorem ready_nil : lib.Ready [] t ↔ lib.Formed t := by simp [Ready]

/-- Resolving a key adds nodes to a table or none. -/
theorem resolve_keeps (lib : Library) (key : String) :
    Keeps (fun t t' => lib.Formed t → lib.Formed t' ∧ TypeTable.Extends t t')
      (lib.resolve key) := by
  intro t formed
  have ⟨ready, grows⟩ := (lib.resolveIn_resolves []).keeps key t (ready_nil.2 formed)
  exact ⟨ready_nil.1 ready, grows⟩

theorem find?_of_resolve {id : TypeId} (formed : lib.Formed t)
    (run : on (lib.resolve key) t = (.ok id, t')) : t'.find? key = some id :=
  (lib.resolveIn_resolves []).finds (ready_nil.2 formed) run

def Complete (lib : Library) (t : TypeTable) : Prop :=
  ∀ key ∈ lib.description.types.keys, (t.find? key).isSome

/-- On a complete table there is nothing left to resolve. -/
theorem resolve_of_complete (lib : Library) (key : String) :
    Keeps (fun t t' => lib.Complete t → t' = t) (lib.resolve key) := by
  intro t complete
  rw [resolve, on_resolveIn]
  split
  next => rfl
  next absent =>
    split
    next => rfl
    next =>
      split
      next => rfl
      next ty known =>
        have found := complete key (Table.mem_keys_of_find? known)
        simp [absent] at found

/-- So a key that is resolved there was found. -/
theorem Complete.resolve {id : TypeId} (complete : lib.Complete t)
    (run : on (lib.resolve key) t = (.ok id, t')) : t' = t ∧ t.find? key = some id := by
  have unmoved := lib.resolve_of_complete key t complete
  rw [run] at unmoved
  refine ⟨unmoved, ?_⟩
  rw [Library.resolve, on_resolveIn] at run
  split at run
  next found =>
    cases run
    exact found
  next absent =>
    split at run
    next => cases run
    next =>
      split at run
      next => cases run
      next ty known =>
        have found := complete key (Table.mem_keys_of_find? known)
        simp [absent] at found

end Library

end Bindery
