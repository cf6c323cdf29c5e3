import Bindery.Analysis
import Bindery.Proofs.Reflagging
import Bindery.Proofs.Resolution

/-!
# Analyses and their tables

All described types are resolved before anything else, so the rest of an analysis only reads the
table and raises its flags.
-/
namespace Bindery.Library

open Typing

section Keeps

variable {lib : Library} {R : TypeTable → TypeTable → Prop} [Std.Refl R] [IsTrans TypeTable R]

/-! What resolving a key keeps of a table, every step of an analysis that asks for types keeps. -/

theorem layoutField_keeps (resolve : ∀ key, Keeps R (lib.resolve key)) (s : StructDecl)
    (role : Role) (siblings : List FieldDecl) (field : FieldDecl) :
    Keeps R (lib.layoutField s role siblings field) :=
  (resolve field.type).bind fun _ => keeps_get.bind fun _ => (keeps_liftOutcome _).bind fun _ =>
    keeps_pure _

theorem layout_keeps (resolve : ∀ key, Keeps R (lib.resolve key)) (s : StructDecl) :
    Keeps R (lib.layout s) := by
  refine (resolve s.name).bind fun typeId => (keeps_liftOutcome _).bind fun role => ?_
  refine keeps_get.bind fun t => (keeps_liftOutcome _).bind fun members => ?_
  refine (Keeps.mapM (layoutField_keeps resolve s role members) _).bind fun fields => ?_
  refine (Keeps.optionMapM resolve s.indexType).bind fun indexType => .ite (fun _ => ?_) fun _ => ?_
  · exact keeps_get.bind fun _ => ((keeps_liftOutcome _).map some).bind fun _ =>
      keeps_get.bind fun _ => (keeps_liftOutcome _).bind fun _ => keeps_pure _
  · exact (keeps_pure none).bind fun _ =>
      keeps_get.bind fun _ => (keeps_liftOutcome _).bind fun _ => keeps_pure _

theorem declaredLayout_keeps (resolve : ∀ key, Keeps R (lib.resolve key)) (name : String) :
    Keeps R (lib.declaredLayout name) := by
  unfold declaredLayout
  split
  next => exact keeps_throw _
  next s known =>
    refine (keeps_liftOutcome _).bind fun role => .ite (fun _ => keeps_pure _) fun _ => ?_
    exact (layout_keeps resolve s).bind fun _ => keeps_pure _

theorem pointsTo_keeps (resolve : ∀ key, Keeps R (lib.resolve key)) (f : FunctionDecl)
    (native : String) : Keeps R (lib.pointsTo f native) := by
  unfold pointsTo
  split
  next => exact keeps_pure _
  next first _ _ => exact (resolve first.type).bind fun _ => keeps_get.bind fun _ => keeps_pure _

theorem firstPointingTo_keeps (resolve : ∀ key, Keeps R (lib.resolve key)) (native : String)
    (fs : List FunctionDecl) : Keeps R (lib.firstPointingTo native fs) := by
  induction fs with
  | nil => exact keeps_pure none
  | cons f fs ih =>
    exact (pointsTo_keeps resolve f native).bind fun _ => .ite (fun _ => keeps_pure _) fun _ => ih

theorem lifecycle_keeps (resolve : ∀ key, Keeps R (lib.resolve key)) (s : StructDecl)
    (kind : FunctionKind) (what : Lifecycle) : Keeps R (lib.lifecycle s kind what) := by
  refine (firstPointingTo_keeps resolve s.name _).bind fun found => ?_
  split
  next => exact keeps_pure _
  next => exact keeps_throw _

theorem root_keeps (resolve : ∀ key, Keeps R (lib.resolve key)) (s : StructDecl) :
    Keeps R (lib.root s) :=
  (lifecycle_keeps resolve s .retain .retain).bind fun _ =>
    (lifecycle_keeps resolve s .free .free).bind fun _ =>
      (resolve s.name).bind fun _ => keeps_pure _

theorem addRoot_keeps (resolve : ∀ key, Keeps R (lib.resolve key)) (roots : List Root)
    (f : FunctionDecl) : Keeps R (lib.addRoot roots f) := by
  unfold addRoot
  split
  next => exact keeps_pure _
  next =>
    split
    next => exact keeps_throw _
    next s _ =>
      exact .ite (fun _ => keeps_pure _) fun _ => (root_keeps resolve s).bind fun _ => keeps_pure _

theorem roots_keeps (resolve : ∀ key, Keeps R (lib.resolve key)) : Keeps R lib.roots :=
  Keeps.foldlM (addRoot_keeps resolve) _ []

theorem arguments_keeps (resolve : ∀ key, Keeps R (lib.resolve key)) (function : String)
    (index : Nat) (args : List ArgDecl) : Keeps R (lib.arguments function index args) := by
  fun_induction lib.arguments function index args with
  | case1 => exact keeps_pure []
  | case2 index a rest afterPair afterOne =>
    refine (resolve a.type).bind fun type => keeps_get.bind fun t => ?_
    dsimp only
    split
    next kind lengthTag _ =>
      split
      next => exact keeps_throw _
      next length rest =>
        refine .ite (fun _ => (keeps_throw _).bind fun _ => ?_) fun _ => ?_
        all_goals
          refine (resolve length.type).bind fun lengthType => keeps_get.bind fun t => ?_
          split
          next => exact keeps_throw _
          next => exact afterPair.bind fun _ => keeps_pure _
    next =>
      split
      iterate 2
        next =>
          refine .ite (fun _ => (keeps_throw _).bind fun _ => ?_) fun _ => ?_
          all_goals exact afterOne.bind fun _ => keeps_pure _
      next => exact keeps_get.bind fun _ => afterOne.bind fun _ => keeps_pure _
      next => exact keeps_throw _

theorem wrapper_keeps (resolve : ∀ key, Keeps R (lib.resolve key)) (roots : List Root)
    (f : FunctionDecl) : Keeps R (lib.wrapper roots f) := by
  refine (arguments_keeps resolve f.name 0 f.args).bind fun args => ?_
  refine (resolve f.returnType).bind fun result => keeps_get.bind fun t => ?_
  refine (keeps_liftOutcome _).bind fun shape => .ite (fun _ => ?_) fun _ => keeps_pure _
  exact (keeps_liftOutcome _).bind fun _ => keeps_pure _

theorem global_keeps (resolve : ∀ key, Keeps R (lib.resolve key)) (g : GlobalDecl) :
    Keeps R (lib.global g) :=
  (resolve g.type).bind fun _ => keeps_get.bind fun _ => keeps_pure _

end Keeps

variable {lib : Library} {t t' : TypeTable}

def resolveAll (lib : Library) (keys : List String) : Typing PUnit :=
  forIn keys PUnit.unit fun key _ => do
    discard <| lib.resolve key
    pure (.yield PUnit.unit)

theorem resolveAll_finds {keys : List String} {u : PUnit} (formed : lib.Formed t)
    (run : on (lib.resolveAll keys) t = (.ok u, t')) :
    lib.Formed t' ∧ TypeTable.Extends t t' ∧ ∀ key ∈ keys, (t'.find? key).isSome := by
  induction keys generalizing t with
  | nil =>
    cases run
    exact ⟨formed, Std.Refl.refl _, by simp⟩
  | cons key keys ih =>
    rw [resolveAll, List.forIn_cons, on_bind_eq_ok] at run
    obtain ⟨_, between, first, rest⟩ := run
    obtain ⟨_, after, found, yielded⟩ := on_bind_eq_ok.1 first
    obtain ⟨id, resolved⟩ := on_discard_eq_ok.1 found
    cases yielded
    have ⟨here, grows⟩ := lib.resolve_keeps key t formed
    rw [resolved] at here grows
    have ⟨atEnd, grows', others⟩ := ih here rest
    refine ⟨atEnd, IsTrans.trans _ _ _ grows grows', List.forall_mem_cons.2 ⟨?_, others⟩⟩
    rw [grows'.find? (find?_of_resolve formed resolved)]
    rfl

section Unmoved

def Unmoved (lib : Library) (t t' : TypeTable) : Prop := lib.Complete t → t' = t

instance : IsPreorder TypeTable lib.Unmoved where
  refl _ _ := rfl
  trans _ _ _ first second complete := by
    obtain rfl := first complete
    exact second complete

theorem resolve_unmoved (lib : Library) (key : String) : Keeps lib.Unmoved (lib.resolve key) :=
  lib.resolve_of_complete key

/-- A first step that succeeds leaves the table for the rest. -/
theorem on_bind_of_unmoved {α β : Type} {x : Typing α} {f : α → Typing β} {b : β}
    (unmoved : Keeps lib.Unmoved x) (complete : lib.Complete t)
    (run : on (x >>= f) t = (.ok b, t')) :
    ∃ a, on x t = (.ok a, t) ∧ on (f a) t = (.ok b, t') := by
  obtain ⟨a, between, first, rest⟩ := on_bind_eq_ok.1 run
  have same := unmoved t complete
  rw [first] at same
  obtain rfl : between = t := same
  exact ⟨a, first, rest⟩

/-- A successful list of steps is made of successful ones. -/
theorem forall₂_of_unmoved {α β : Type} {f : α → Typing β} {xs : List α} {ys : List β}
    (unmoved : ∀ x, Keeps lib.Unmoved (f x)) (complete : lib.Complete t)
    (run : on (xs.mapM f) t = (.ok ys, t')) :
    List.Forall₂ (fun x y => on (f x) t = (.ok y, t)) xs ys := by
  induction xs generalizing ys with
  | nil =>
    cases run
    exact .nil
  | cons x xs ih =>
    rw [List.mapM_cons] at run
    obtain ⟨y, first, rest⟩ := on_bind_of_unmoved (unmoved x) complete run
    obtain ⟨others, _, later, last⟩ := on_bind_eq_ok.1 rest
    cases last
    exact .cons first (ih later)

/-- Successful steps that leave the table make a successful list. -/
theorem on_mapM_of_forall₂ {α β : Type} {f : α → Typing β} {xs : List α} {ys : List β}
    (each : List.Forall₂ (fun x y => on (f x) t = (.ok y, t)) xs ys) :
    on (xs.mapM f) t = (.ok ys, t) := by
  induction each with
  | nil => rfl
  | cons first _ ih => exact on_mapM_cons_eq_ok.2 ⟨_, t, _, first, ih, rfl⟩

end Unmoved

/-- What an analysis is made of, where `t` has all described types and no flag that was raised. -/
structure Analyzed (lib : Library) (t : TypeTable) (a : Analysis) : Prop where
  library : a.library = lib
  sound : lib.fault? = none
  formed : lib.Formed t
  complete : lib.Complete t
  settles : (t.seed lib.config).propagate (Edges.ofLayouts t a.layouts) = (a.types, a.sweeps)
  layouts : ∃ declared, a.layouts = declared.filterMap id ∧
    List.Forall₂ (fun name m => on (lib.declaredLayout name) t = (.ok m, t))
      (lib.description.declared .struct) declared
  enums : (lib.description.declared .enum).mapM lib.declaredEnum = .ok a.enums
  roots : on lib.roots a.types = (.ok a.roots, a.types)
  wrappers : List.Forall₂ (fun f w => on (lib.wrapper a.roots f) a.types = (.ok w, a.types))
    ((lib.description.declared .function).filterMap lib.description.functions.find?) a.wrappers
  globals : List.Forall₂ (fun g global => on (lib.global g) a.types = (.ok global, a.types))
    ((lib.description.declared .global).filterMap lib.description.globals.find?) a.globals

variable {a : Analysis}

theorem Analyzed.spreads (analyzed : lib.Analyzed t a) :
    TypeTable.Spreads (Edges.ofLayouts t a.layouts) (t.seed lib.config) a.types := by
  have spreads := (t.seed lib.config).propagate_spreads (Edges.ofLayouts t a.layouts)
  rwa [analyzed.settles] at spreads

theorem Analyzed.settled (analyzed : lib.Analyzed t a) :
    a.types.Settled (Edges.ofLayouts t a.layouts) := by
  have settled := (t.seed lib.config).propagate_settled (Edges.ofLayouts t a.layouts)
  rwa [analyzed.settles] at settled

theorem Analyzed.reflagged (analyzed : lib.Analyzed t a) : TypeTable.Reflagged t a.types :=
  (t.seed_reflagged lib.config).trans analyzed.spreads.reflagged

theorem Analyzed.lt_size (analyzed : lib.Analyzed t a) {id inner : TypeId}
    (link : (a.types.node id).inner = some inner) : id < t.size := by
  by_contra outside
  rw [analyzed.reflagged.inner, TypeTable.node_of_le (Nat.not_lt.1 outside)] at link
  cases link

theorem Complete.reflag (complete : lib.Complete t) (same : TypeTable.Reflagged t t') :
    lib.Complete t' := fun key member => by
  rw [same.find?]
  exact complete key member

/-- An analysis resolves all types and goes on from there. -/
theorem analyze_eq_ok_iff : lib.analyze = .ok a ↔
    ∃ t, on (lib.resolveAll lib.description.types.keys) {} = (.ok ⟨⟩, t) ∧ lib.Analyzed t a := by
  constructor
  · intro success
    obtain ⟨last, run⟩ : ∃ last, on lib.analysis {} = (.ok a, last) := ⟨_, Prod.ext success rfl⟩
    unfold analysis at run
    dsimp only at run
    split at run
    next => simp at run
    next sound =>
      have unmoved := lib.resolve_unmoved
      obtain ⟨_, t, seen, run⟩ := on_bind_eq_ok.1 run
      have ⟨formed, _, found⟩ := resolveAll_finds lib.formed_empty seen
      have complete : lib.Complete t := found
      obtain ⟨declared, layouts, run⟩ :=
        on_bind_of_unmoved (.mapM (declaredLayout_keeps unmoved) _) complete run
      rw [on_get_bind, on_get_bind] at run
      obtain ⟨_, settled, set, run⟩ := on_bind_eq_ok.1 run
      rw [on_set] at set
      obtain ⟨-, rfl⟩ := Prod.mk.inj set
      have settledComplete := complete.reflag ((t.seed_reflagged lib.config).trans
        ((t.seed lib.config).propagate_spreads
          (Edges.ofLayouts t (declared.filterMap id))).reflagged)
      obtain ⟨enums, enumerated, run⟩ := on_liftOutcome_bind_eq_ok.1 run
      obtain ⟨roots, rooted, run⟩ :=
        on_bind_of_unmoved (roots_keeps unmoved) settledComplete run
      obtain ⟨wrappers, wrapped, run⟩ :=
        on_bind_of_unmoved (.mapM (wrapper_keeps unmoved roots) _) settledComplete run
      obtain ⟨globals, read, run⟩ :=
        on_bind_of_unmoved (.mapM (global_keeps unmoved) _) settledComplete run
      rw [on_get_bind, on_pure] at run
      obtain ⟨made, -⟩ := Prod.mk.inj run
      cases made
      refine ⟨t, seen, ?_⟩
      exact {
        library := rfl
        sound := Option.eq_none_iff_forall_not_mem.2 fun fault found => sound fault found
        formed
        complete
        settles := rfl
        layouts :=
          ⟨declared, rfl, forall₂_of_unmoved (declaredLayout_keeps unmoved) complete layouts⟩
        enums := enumerated
        roots := rooted
        wrappers := forall₂_of_unmoved (wrapper_keeps unmoved roots) settledComplete wrapped
        globals := forall₂_of_unmoved (global_keeps unmoved) settledComplete read }
  · rintro ⟨t, seen, analyzed⟩
    obtain ⟨declared, layouts, each⟩ := analyzed.layouts
    have settles := analyzed.settles
    have run : on lib.analysis {} = (.ok a, a.types) := by
      unfold analysis
      dsimp only
      rw [analyzed.sound]
      refine on_bind_eq_ok.2 ⟨⟨⟩, t, seen, ?_⟩
      refine on_bind_eq_ok.2 ⟨declared, t, on_mapM_of_forall₂ each, ?_⟩
      rw [on_get_bind, on_get_bind, ← layouts, settles]
      refine on_bind_eq_ok.2 ⟨⟨⟩, a.types, on_set t a.types, ?_⟩
      refine on_liftOutcome_bind_eq_ok.2 ⟨a.enums, analyzed.enums, ?_⟩
      refine on_bind_eq_ok.2 ⟨a.roots, a.types, analyzed.roots, ?_⟩
      refine on_bind_eq_ok.2 ⟨a.wrappers, a.types, on_mapM_of_forall₂ analyzed.wrappers, ?_⟩
      refine on_bind_eq_ok.2 ⟨a.globals, a.types, on_mapM_of_forall₂ analyzed.globals, ?_⟩
      rw [on_get_bind, on_pure, ← analyzed.library]
    exact congrArg Prod.fst run

theorem analyzed (success : lib.analyze = .ok a) : ∃ t, lib.Analyzed t a := by
  obtain ⟨t, _, analyzed⟩ := analyze_eq_ok_iff.1 success
  exact ⟨t, analyzed⟩

end Bindery.Library
