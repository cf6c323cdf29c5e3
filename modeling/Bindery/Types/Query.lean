import Bindery.Types.Basic

/-!
# Questions about types

What is behind typedefs, pointers and arrays. The walks go down to earlier nodes only, so they end
on every table.
-/
namespace Bindery.TypeTable

/-- The node behind typedefs and consts. -/
def strip (t : TypeTable) (id : TypeId) : TypeId :=
  match (t.node id).isTransparent, (t.node id).inner with
  | true, some inner => if inner < id then t.strip inner else id
  | _, _ => id
termination_by id

def target (t : TypeTable) (id : TypeId) : Node := t.node (t.strip id)

def pointee (t : TypeTable) (id : TypeId) : Option TypeId :=
  if (t.target id).kind = .pointer then (t.target id).inner else none

/-- The named type inside pointers, arrays, typedefs and consts. -/
def leaf (t : TypeTable) (id : TypeId) : TypeId :=
  match (t.node id).isWrapper, (t.node id).inner with
  | true, some inner => if inner < id then t.leaf inner else id
  | _, _ => id
termination_by id

/-- The function type that a function pointer leads to. -/
def signature (t : TypeTable) (id : TypeId) : TypeId :=
  match decide ((t.node id).kind = .function), (t.node id).inner with
  | false, some inner => if inner < id then t.signature inner else id
  | _, _ => id
termination_by id

def isPointer (t : TypeTable) (id : TypeId) : Bool := (t.pointee id).isSome

/-- A pointer to nothing that is described, or to a function; it is passed through untouched. -/
def isOpaquePointer (t : TypeTable) (id : TypeId) : Bool :=
  (t.target id).isFunction || (t.pointee id).any fun p => (t.target p).isVoid

def structRole (t : TypeTable) (id : TypeId) : Option Role := (t.target id).role

/-- Whether a field of this type is lowered in an idiomatic shape, and not copied. -/
def isLowered (t : TypeTable) (id : TypeId) : Bool :=
  let n := t.target id
  n.kind = .struct && (n.isString || n.isBlob || n.isList || n.isShaped)

section Strip

variable {t : TypeTable} {id inner : TypeId}

theorem strip_le (t : TypeTable) (id : TypeId) : t.strip id ≤ id := by
  fun_induction t.strip id with
  | case1 id inner _ _ earlier ih => exact Nat.le_trans ih (Nat.le_of_lt earlier)
  | case2 | case3 => exact Nat.le_refl _

theorem strip_inner (transparent : (t.node id).isTransparent)
    (link : (t.node id).inner = some inner) (earlier : inner < id) :
    t.strip id = t.strip inner := by
  rw [strip.eq_def t id, transparent, link]
  simp [earlier]

theorem strip_eq_self (last : ∀ inner, (t.node id).isTransparent →
    (t.node id).inner = some inner → ¬inner < id) : t.strip id = id := by
  rw [strip]
  split
  next inner transparent link => exact if_neg (last inner transparent link)
  next => rfl

/-- Walking ends where there is nothing earlier to stand for. -/
theorem strip_stops (transparent : (t.target id).isTransparent)
    (link : (t.target id).inner = some inner) : ¬inner < t.strip id := by
  unfold target at transparent link
  fun_induction t.strip id with
  | case1 id before _ _ earlier ih => exact ih transparent link
  | case2 id before link' _ late =>
    obtain rfl := Option.some.inj (link'.symm.trans link)
    exact late
  | case3 id other => exact (other inner transparent link).elim

@[simp] theorem strip_strip (t : TypeTable) (id : TypeId) : t.strip (t.strip id) = t.strip id :=
  strip_eq_self fun _ transparent link => strip_stops transparent link

@[simp] theorem target_strip (t : TypeTable) (id : TypeId) :
    t.target (t.strip id) = t.target id := by
  simp [target]

@[simp] theorem isOpaquePointer_strip (t : TypeTable) (id : TypeId) :
    t.isOpaquePointer (t.strip id) = t.isOpaquePointer id := by
  simp [isOpaquePointer, pointee]

end Strip

end Bindery.TypeTable
