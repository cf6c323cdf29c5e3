import Bindery.Role

/-!
# Type tables

The types that are resolved so far, one node a key. A node refers to others by their position,
and only to earlier ones.
-/
namespace Bindery

abbrev TypeId := Nat

structure Node where
  key : String
  kind : TypeKind
  /-- How the native form is spelled. -/
  name : String := ""
  /-- How the idiomatic form is spelled, where there is one. -/
  safeName : String := ""
  inner : Option TypeId := none
  params : List TypeId := []
  isConst : Bool := false
  isNullable : Bool := false
  arrayLength : Option UInt64 := none
  /-- The native name of a struct or enum. -/
  base : Option String := none
  role : Option Role := none
  isVoid : Bool := false
  isFunction : Bool := false
  isString : Bool := false
  isBlob : Bool := false
  isList : Bool := false
  /-- The items of the list are pointers. -/
  isRefList : Bool := false
  listItem : Option TypeId := none
  /-- An idiomatic shape stands for this type and is lowered to it. -/
  isRaw : Bool := false
  /-- The native form borrows. -/
  borrowsRaw : Bool := false
  /-- The idiomatic form borrows. -/
  borrowsSafe : Bool := false
  deriving DecidableEq, Repr

instance : Inhabited Node := ⟨{ key := "", kind := .primitive }⟩

namespace Node

/-- A typedef or a const stands for what it wraps. -/
def isTransparent (n : Node) : Bool := n.kind = .typedef || n.kind = .const

def isWrapper (n : Node) : Bool := n.isTransparent || n.kind = .pointer || n.kind = .array

def isShaped (n : Node) : Bool := n.role.any Role.hasShape

/-- A wrapper of `target`: it takes its names, and a transparent one all that it stands for. -/
def wrapping (n : Node) (id : TypeId) (target : Node) : Node :=
  let n := { n with
    inner := some id
    name := target.name
    safeName := target.safeName
    isFunction := target.isFunction }
  if n.isTransparent then
    { n with
      isVoid := target.isVoid
      base := target.base
      role := target.role
      isString := target.isString
      isBlob := target.isBlob
      isList := target.isList
      isRefList := target.isRefList
      listItem := target.listItem
      isRaw := target.isRaw }
  else n

section Wrapping

variable (n target : Node) (id : TypeId)

@[simp] theorem wrapping_key : (n.wrapping id target).key = n.key := by
  simp only [wrapping]
  split <;> rfl

@[simp] theorem wrapping_kind : (n.wrapping id target).kind = n.kind := by
  simp only [wrapping]
  split <;> rfl

@[simp] theorem wrapping_inner : (n.wrapping id target).inner = some id := by
  simp only [wrapping]
  split <;> rfl

@[simp] theorem wrapping_params : (n.wrapping id target).params = n.params := by
  simp only [wrapping]
  split <;> rfl

@[simp] theorem wrapping_arrayLength :
    (n.wrapping id target).arrayLength = n.arrayLength := by
  simp only [wrapping]
  split <;> rfl

@[simp] theorem wrapping_isFunction : (n.wrapping id target).isFunction = target.isFunction := by
  simp only [wrapping]
  split <;> rfl

@[simp] theorem wrapping_isVoid : (n.wrapping id target).isVoid =
    if n.isTransparent then target.isVoid else n.isVoid := by
  simp only [wrapping]
  split
  next transparent => exact (if_pos transparent).symm
  next opaqueNode => exact (if_neg opaqueNode).symm

@[simp] theorem wrapping_role : (n.wrapping id target).role =
    if n.isTransparent then target.role else n.role := by
  simp only [wrapping]
  split
  next transparent => exact (if_pos transparent).symm
  next opaqueNode => exact (if_neg opaqueNode).symm

@[simp] theorem wrapping_isRaw : (n.wrapping id target).isRaw =
    if n.isTransparent then target.isRaw else n.isRaw := by
  simp only [wrapping]
  split
  next transparent => exact (if_pos transparent).symm
  next opaqueNode => exact (if_neg opaqueNode).symm

@[simp] theorem wrapping_listItem : (n.wrapping id target).listItem =
    if n.isTransparent then target.listItem else n.listItem := by
  simp only [wrapping]
  split
  next transparent => exact (if_pos transparent).symm
  next opaqueNode => exact (if_neg opaqueNode).symm

end Wrapping

end Node

structure TypeTable where
  nodes : Array Node := #[]
  deriving DecidableEq, Repr

namespace TypeTable

def size (t : TypeTable) : Nat := t.nodes.size

def ids (t : TypeTable) : List TypeId := List.range t.size

def node (t : TypeTable) (id : TypeId) : Node := t.nodes.getD id default

def find? (t : TypeTable) (key : String) : Option TypeId := t.nodes.findIdx? (·.key = key)

def push (t : TypeTable) (n : Node) : TypeTable := ⟨t.nodes.push n⟩

def update (t : TypeTable) (id : TypeId) (f : Node → Node) : TypeTable := ⟨t.nodes.modify id f⟩

@[simp] theorem size_push (t : TypeTable) (n : Node) : (t.push n).size = t.size + 1 := by
  simp [size, push]

@[simp] theorem size_update (t : TypeTable) (id : TypeId) (f : Node → Node) :
    (t.update id f).size = t.size := by
  simp [size, update]

theorem node_push_self (t : TypeTable) (n : Node) : (t.push n).node t.size = n := by
  simp [node, push, size]

theorem node_push_of_lt {t : TypeTable} {id : TypeId} (n : Node) (old : id < t.size) :
    (t.push n).node id = t.node id := by
  have old' : id < t.nodes.size := old
  simp [node, push, Array.getElem?_push_lt, old']

end TypeTable

end Bindery
