import Bindery.Proofs.Arguments
import Bindery.Proofs.Flagged

/-!
# Functions over raw shapes

A function has an entry point over raw shapes if its result is raw inside or one of its arguments
is. Only arguments that are passed without a length count: texts, slices and bytes never do,
whatever they are made of.
-/
namespace Bindery

open Typing

/-- A function type leads nowhere, nor does a type without values. -/
def Node.isHollow (n : Node) : Bool := n.isFunction || n.isVoid

namespace TypeTable

variable {t t' : TypeTable} {id inner : TypeId}

/-- The named type inside a type is the native form of a shape. -/
def leafIsRaw (t : TypeTable) (id : TypeId) : Bool := (t.node (t.leaf id)).isRaw

theorem leaf_inner (wrapper : (t.node id).isWrapper) (link : (t.node id).inner = some inner)
    (earlier : inner < id) : t.leaf id = t.leaf inner := by
  rw [leaf.eq_def t id, wrapper, link]
  simp [earlier]

theorem leaf_eq_self (last : ∀ inner, (t.node id).isWrapper →
    (t.node id).inner = some inner → ¬inner < id) : t.leaf id = id := by
  rw [leaf]
  split
  next inner wrapper link => exact if_neg (last inner wrapper link)
  next => rfl

theorem leaf_le (t : TypeTable) (id : TypeId) : t.leaf id ≤ id := by
  fun_induction t.leaf id with
  | case1 id inner _ _ earlier ih => exact Nat.le_trans ih (Nat.le_of_lt earlier)
  | case2 | case3 => exact Nat.le_refl _

theorem leaf_strip (t : TypeTable) (id : TypeId) : t.leaf (t.strip id) = t.leaf id := by
  fun_induction t.strip id with
  | case1 id inner link transparent earlier ih =>
    have wrapper : (t.node id).isWrapper := by simp [Node.isWrapper, transparent]
    rw [leaf_inner wrapper link earlier]
    exact ih
  | case2 | case3 => rfl

theorem Extends.leaf (grows : Extends t t') (inside : id < t.size) : t'.leaf id = t.leaf id := by
  fun_induction t.leaf id with
  | case1 id inner link wrapper earlier ih =>
    rw [← grows.node id inside] at link wrapper
    rw [leaf_inner wrapper link earlier]
    exact ih (Nat.lt_trans earlier inside)
  | case2 id inner link _ late =>
    refine leaf_eq_self fun other _ found => ?_
    rw [grows.node id inside, link] at found
    cases found
    exact late
  | case3 id other =>
    refine leaf_eq_self fun inner wrapper link => ?_
    rw [grows.node id inside] at wrapper link
    exact (other inner wrapper link).elim

theorem Extends.leafIsRaw (grows : Extends t t') (inside : id < t.size) :
    t'.leafIsRaw id = t.leafIsRaw id := by
  unfold TypeTable.leafIsRaw
  rw [grows.leaf inside, grows.node _ (Nat.lt_of_le_of_lt (t.leaf_le id) inside)]

namespace Reflagged

variable (same : Reflagged t t') (id : TypeId)

include same

theorem isRaw : (t'.node id).isRaw = (t.node id).isRaw :=
  (congrArg Node.isRaw (same.frame id) :)

theorem isShaped : (t'.node id).isShaped = (t.node id).isShaped :=
  (congrArg Node.isShaped (same.frame id) :)

theorem leaf : t'.leaf id = t.leaf id := by
  fun_induction t.leaf id with
  | case1 id inner link wrapper earlier ih =>
    rw [← same.inner] at link
    rw [← same.isWrapper] at wrapper
    rw [leaf_inner wrapper link earlier]
    exact ih
  | case2 id inner link _ late =>
    refine leaf_eq_self fun other _ found => ?_
    rw [same.inner, link] at found
    cases found
    exact late
  | case3 id other =>
    refine leaf_eq_self fun inner wrapper link => ?_
    rw [same.isWrapper] at wrapper
    rw [same.inner] at link
    exact (other inner wrapper link).elim

theorem leafIsRaw : t'.leafIsRaw id = t.leafIsRaw id := by
  unfold TypeTable.leafIsRaw
  rw [same.leaf, same.isRaw]

end Reflagged

end TypeTable

namespace Library

variable {lib : Library} {t t' : TypeTable} {id : TypeId}

/-! ### Raw types -/

section Describes

variable {name : String} {ty : TypeDecl} {n : Node}

theorem Describes.eq_wrapping (describes : lib.Describes t name ty n) (wrapper : n.isWrapper) :
    ∃ inner, n = (ty.plain name).wrapping inner (t.node inner) := by
  cases describes with
  | @wrapper _ inner => exact ⟨inner, rfl⟩
  | primitive => simp [Node.isWrapper, Node.isTransparent] at wrapper
  | function kind | struct kind | list kind | enum kind =>
    simp [Node.isWrapper, Node.isTransparent, structNode, TypeDecl.plain, kind] at wrapper

/-- What is no wrapper is raw if it is a struct that has a shape. -/
theorem Describes.isRaw_eq (describes : lib.Describes t name ty n) (solid : ¬n.isWrapper) :
    n.isRaw = n.isShaped := by
  cases describes with
  | wrapper wrapper =>
    simp only [Node.isWrapper, Node.isTransparent, Node.wrapping_kind] at solid wrapper
    exact absurd wrapper solid
  | list =>
    unfold listNode
    split <;> rfl
  | primitive | function | struct | enum => rfl

theorem Describes.isRaw_of_isHollow (describes : lib.Describes t name ty n) (solid : ¬n.isWrapper)
    (hollow : n.isHollow) : n.isRaw = false := by
  cases describes with
  | wrapper wrapper =>
    simp only [Node.isWrapper, Node.isTransparent, Node.wrapping_kind] at solid wrapper
    exact absurd wrapper solid
  | struct => simp [Node.isHollow, structNode, TypeDecl.plain] at hollow
  | list =>
    unfold listNode
    split <;> rfl
  | primitive | function | enum => rfl

end Describes

section Formed

variable (formed : lib.Formed t)

include formed

/-- Wrappers lead to an earlier node, from which they are made. -/
theorem Formed.wrapper (inside : id < t.size) (wrapper : (t.node id).isWrapper) :
    ∃ inner < id, t.leaf id = t.leaf inner ∧
      ((t.node id).isHollow → (t.node inner).isHollow) ∧
      ((t.node inner).isRaw = (t.node inner).isShaped →
        (t.node id).isRaw = (t.node id).isShaped) := by
  obtain ⟨ty, _, describes⟩ := formed.described id inside
  obtain ⟨inner, made⟩ := describes.eq_wrapping wrapper
  have link : (t.node id).inner = some inner := by rw [made, Node.wrapping_inner]
  have earlier := formed.inner_lt inside link
  have leaf := TypeTable.leaf_inner wrapper link earlier
  refine ⟨inner, earlier, leaf, fun hollow => ?_, fun same => ?_⟩
  · rw [made] at hollow
    simp only [Node.isHollow, Node.wrapping_isFunction, Node.wrapping_isVoid] at hollow ⊢
    split at hollow
    next => exact hollow
    next =>
      have function : (t.node inner).isFunction := by simpa [TypeDecl.plain] using hollow
      rw [function, Bool.true_or]
  · rw [made]
    simp only [Node.isShaped, Node.wrapping_isRaw, Node.wrapping_role]
    split
    next => exact same
    next => rfl

theorem Formed.isRaw_eq (inside : id < t.size) : (t.node id).isRaw = (t.node id).isShaped := by
  induction id using Nat.strongRecOn with
  | _ id ih =>
    by_cases wrapper : (t.node id).isWrapper
    · obtain ⟨inner, earlier, _, _, made⟩ := formed.wrapper inside wrapper
      exact made (ih inner earlier (Nat.lt_trans earlier inside))
    · obtain ⟨ty, _, describes⟩ := formed.described id inside
      exact describes.isRaw_eq wrapper

theorem Formed.leafIsRaw_of_isHollow (inside : id < t.size) (hollow : (t.node id).isHollow) :
    t.leafIsRaw id = false := by
  induction id using Nat.strongRecOn with
  | _ id ih =>
    by_cases wrapper : (t.node id).isWrapper
    · obtain ⟨inner, earlier, leaf, hollows, _⟩ := formed.wrapper inside wrapper
      unfold TypeTable.leafIsRaw
      rw [leaf]
      exact ih inner earlier (Nat.lt_trans earlier inside) (hollows hollow)
    · obtain ⟨ty, _, describes⟩ := formed.described id inside
      unfold TypeTable.leafIsRaw
      rw [TypeTable.leaf_eq_self fun _ wraps => absurd wraps wrapper]
      exact describes.isRaw_of_isHollow wrapper hollow

/-- What is passed through untouched has no raw type inside. -/
theorem Formed.leafIsRaw_of_isOpaquePointer (inside : id < t.size)
    (untouched : t.isOpaquePointer id) : t.leafIsRaw id = false := by
  have stripped : t.strip id < t.size := Nat.lt_of_le_of_lt (t.strip_le id) inside
  have through {ref : TypeId} (bound : ref < t.size) (hollow : (t.target ref).isHollow) :
      t.leafIsRaw ref = false := by
    have below := Nat.lt_of_le_of_lt (t.strip_le ref) bound
    unfold TypeTable.leafIsRaw
    rw [← t.leaf_strip ref]
    exact formed.leafIsRaw_of_isHollow below hollow
  unfold TypeTable.isOpaquePointer at untouched
  rcases Bool.or_eq_true _ _ ▸ untouched with function | void
  · exact through inside (by simp [Node.isHollow, function])
  · obtain ⟨p, points, void⟩ := (Option.any_eq_true _ _).1 void
    unfold TypeTable.pointee at points
    split at points
    next pointer =>
      have wrapper : (t.node (t.strip id)).isWrapper := by
        simp only [TypeTable.target] at pointer
        simp [Node.isWrapper, pointer]
      have earlier := formed.inner_lt stripped points
      unfold TypeTable.leafIsRaw
      rw [← t.leaf_strip id, TypeTable.leaf_inner wrapper points earlier]
      exact through (Nat.lt_trans earlier stripped) (by simp [Node.isHollow, void])
    next => cases points

end Formed

section Flagged

variable (flagged : lib.Flagged t)

include flagged

theorem Flagged.isRaw_eq (inside : id < t.size) : (t.node id).isRaw = (t.node id).isShaped := by
  obtain ⟨bare, formed, same⟩ := flagged
  rw [same.isRaw, same.isShaped]
  exact formed.isRaw_eq (same.size ▸ inside)

theorem Flagged.leafIsRaw_of_isOpaquePointer (inside : id < t.size)
    (untouched : t.isOpaquePointer id) : t.leafIsRaw id = false := by
  obtain ⟨bare, formed, same⟩ := flagged
  rw [same.isOpaquePointer] at untouched
  rw [same.leafIsRaw]
  exact formed.leafIsRaw_of_isOpaquePointer (same.size ▸ inside) untouched

end Flagged

/-! ### Raw arguments -/

/-- An argument is raw if it shows in the signature, comes without a length and is raw inside. -/
def Faithful (t : TypeTable) (arg : WrapperArg) : Prop :=
  arg.type < t.size ∧
    (arg.isRaw ↔ arg.kind.isVisible ∧ arg.kind.width = 1 ∧ t.leafIsRaw arg.type)

variable {index : Nat} {ds : List ArgDecl} {arg : WrapperArg} {args : List WrapperArg}

theorem Faithful.extend (faithful : Faithful t arg) (grows : TypeTable.Extends t t') :
    Faithful t' arg := by
  refine ⟨Nat.lt_of_lt_of_le faithful.1 grows.size, ?_⟩
  rw [grows.leafIsRaw faithful.1]
  exact faithful.2

theorem pairedArgument_isRaw {kind : ArgKind} {lengthType : TypeId} {arg' : WrapperArg}
    (made : pairedArgument t arg kind lengthType = some arg') :
    arg'.type = arg.type ∧ arg'.isRaw = arg.isRaw := by
  unfold pairedArgument at made
  dsimp only at made
  split at made
  next =>
    obtain ⟨item, _, rfl⟩ := Option.map_eq_some_iff.1 made
    exact ⟨rfl, rfl⟩
  next =>
    cases made
    exact ⟨rfl, rfl⟩

theorem normalArgument_faithful (flagged : lib.Flagged t) (inside : arg.type < t.size) :
    Faithful t (normalArgument t arg) := by
  have kind : (normalArgument t arg).kind.isVisible ∧ (normalArgument t arg).kind.width = 1 := by
    simp only [normalArgument]
    split
    next => exact ⟨rfl, rfl⟩
    next => split <;> exact ⟨rfl, rfl⟩
  refine ⟨inside, ?_⟩
  rw [and_iff_right kind.1, and_iff_right kind.2]
  change (t.leafIsRaw arg.type && !t.isOpaquePointer arg.type) = true ↔ t.leafIsRaw arg.type = true
  cases untouched : t.isOpaquePointer arg.type with
  | false => simp
  | true => simp [flagged.leafIsRaw_of_isOpaquePointer inside untouched]

theorem Takes.faithful (takes : lib.Takes index t t' ds arg) (flagged : lib.Flagged t) :
    lib.Flagged t' ∧ TypeTable.Extends t t' ∧ Faithful t' arg := by
  have width := takes.place.2.1
  cases takes with
  | paired _ _ resolved measured made =>
    obtain ⟨after, grows, inside⟩ := flagged.resolve resolved
    obtain ⟨last, grows', _⟩ := after.resolve measured
    obtain ⟨type, isRaw⟩ := pairedArgument_isRaw made
    refine ⟨last, IsTrans.trans _ _ _ grows grows', ?_, ?_⟩
    · rw [type]
      exact Nat.lt_of_lt_of_le inside grows'.size
    · simp [isRaw, argument, ← width]
  | error _ _ resolved | panic _ _ resolved =>
    obtain ⟨after, grows, inside⟩ := flagged.resolve resolved
    exact ⟨after, grows, inside, by simp [argument, ArgKind.isVisible]⟩
  | normal _ resolved =>
    obtain ⟨after, grows, inside⟩ := flagged.resolve resolved
    exact ⟨after, grows, normalArgument_faithful after inside⟩

theorem Reads.faithful (reads : lib.Reads index t t' ds args) (flagged : lib.Flagged t) :
    lib.Flagged t' ∧ TypeTable.Extends t t' ∧ ∀ arg ∈ args, Faithful t' arg := by
  induction reads with
  | nil => exact ⟨flagged, Std.Refl.refl _, by simp⟩
  | cons takes _ ih =>
    obtain ⟨after, grows, here⟩ := takes.faithful flagged
    obtain ⟨last, grows', others⟩ := ih after
    refine ⟨last, IsTrans.trans _ _ _ grows grows', List.forall_mem_cons.2 ⟨?_, others⟩⟩
    exact here.extend grows'

theorem any_isRaw_iff {w : Wrapper} (faithful : ∀ arg ∈ w.args, Faithful t arg) :
    w.args.any (·.isRaw) ↔
      ∃ arg ∈ w.visibleArgs, arg.kind.width = 1 ∧ t.leafIsRaw arg.type := by
  rw [List.any_eq_true]
  constructor
  · rintro ⟨arg, member, isRaw⟩
    obtain ⟨shows, single, leaf⟩ := (faithful arg member).2.1 isRaw
    exact ⟨arg, List.mem_filter.2 ⟨member, shows⟩, single, leaf⟩
  · rintro ⟨arg, visible, single, leaf⟩
    obtain ⟨member, shows⟩ := List.mem_filter.1 visible
    exact ⟨arg, member, (faithful arg member).2.2 ⟨shows, single, leaf⟩⟩

end Library

/-- An entry point that calls the native function and is safe belongs to a function without raw
shapes. -/
theorem Analysis.whole {a : Analysis} {records : Records} {w : Wrapper} {name : String}
    {signature : Signature} {call : NativeCall}
    (safe : .safe name signature call ∈ a.functionItems records w) :
    w.isRaw = false ∧ signature = a.signature w true := by
  unfold functionItems at safe
  split at safe
  next => cases safe
  next =>
    split at safe
    next =>
      rcases List.mem_cons.1 safe with same | beside
      · cases same
      · split at beside
        next => cases beside
        next => cases List.mem_singleton.1 beside
    next whole =>
      cases List.mem_singleton.1 safe
      exact ⟨Bool.eq_false_of_not_eq_true whole, rfl⟩

namespace Library

variable {lib : Library} {t t' : TypeTable} {roots : List Root} {f : FunctionDecl} {w : Wrapper}

/-- The split of a function into an unsafe entry point over raw shapes and a safe one. -/
structure Splits (lib : Library) (t : TypeTable) (f : FunctionDecl) (w : Wrapper) : Prop where
  /-- It is made for what the function is configured as, returns and takes without a length. -/
  isRaw : w.isRaw ↔ lib.config.isRawOnly f.name ∨ t.leafIsRaw w.result ∨
    ∃ arg ∈ w.visibleArgs, arg.kind.width = 1 ∧ t.leafIsRaw arg.type
  /-- A function that is not split takes no struct that has a shape, unless with a length. -/
  shielded : ∀ {a : Analysis} {records name signature call},
    .safe name signature call ∈ a.functionItems records w →
      signature.params.map (·.1) = w.visibleArgs.map (·.name) ∧
        ∀ arg ∈ w.visibleArgs, arg.kind.width = 1 → ¬(t.node (t.leaf arg.type)).isShaped

/-- Every function is split by this rule, whatever was asked of the table before. -/
theorem wrapper_splits (reached : lib.Reached t)
    (run : on (lib.wrapper roots f) t = (.ok w, t')) : lib.Splits t' f w := by
  obtain ⟨between, reads, resolved, made⟩ := parts_of_wrapper run
  obtain ⟨flagged, _, faithful⟩ := reads.faithful reached.flagged
  obtain ⟨last, grows, _⟩ := flagged.resolve resolved
  have atEnd (arg : WrapperArg) (member : arg ∈ w.args) : Faithful t' arg :=
    (faithful arg member).extend grows
  have isRaw : w.isRaw ↔ lib.config.isRawOnly f.name ∨ t'.leafIsRaw w.result ∨
      ∃ arg ∈ w.visibleArgs, arg.kind.width = 1 ∧ t'.leafIsRaw arg.type := by
    rw [made, Bool.or_eq_true, Bool.or_eq_true, any_isRaw_iff atEnd, or_comm]
    rfl
  refine ⟨isRaw, fun {a records name signature call} safe => ?_⟩
  obtain ⟨whole, rfl⟩ := Analysis.whole safe
  refine ⟨by simp [Analysis.signature], fun arg visible single shaped => ?_⟩
  have inside := (atEnd arg (List.mem_filter.1 visible).1).1
  have bound := Nat.lt_of_le_of_lt (t'.leaf_le arg.type) inside
  have leaf : t'.leafIsRaw arg.type := by
    rw [TypeTable.leafIsRaw, last.isRaw_eq bound]
    exact shaped
  have split := isRaw.2 (.inr (.inr ⟨arg, visible, single, leaf⟩))
  rw [whole] at split
  cases split

def loadAll : FunctionDecl where
  name := "load_all"
  shortName := "load_all"
  args := [
    { name := "opts", type := "opts*", tag := .arrayPointer },
    { name := "count", type := "size_t", tag := .arrayLength }]

/-- A slice of raw options is taken by a function that is not split. -/
theorem loadAll_splits : ∃ w t, on (loading.wrapper [] loadAll) {} = (.ok w, t) ∧
    loading.Splits t loadAll w ∧ w.isRaw = false ∧
    w.visibleArgs.any (fun arg => t.leafIsRaw arg.type) := by
  have checked : (match on (loading.wrapper [] loadAll) {} with
      | (.ok w, t) => decide (w.isRaw = false ∧
        w.visibleArgs.any (fun arg => t.leafIsRaw arg.type))
      | (.error _, _) => false) = true := by decide +kernel
  split at checked
  next w t run =>
    obtain ⟨whole, leaf⟩ := of_decide_eq_true checked
    exact ⟨w, t, run, wrapper_splits .new run, whole, leaf⟩
  next => cases checked

end Library

end Bindery
