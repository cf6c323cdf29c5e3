import Bindery.Native.Arena

/-!
# Inputs

Values as callers write them, and their lowering into raw values. A lowering may change the value,
if it has the right to, and adds to the arena what the raw value points to.
-/
namespace Bindery

/-- An optional text or byte string: left out, lent or handed over. -/
inductive Given (α : Type) where
  | unset
  | lent (value : α)
  | owned (value : α)
  deriving DecidableEq, Repr

def Given.value? {α : Type} : Given α → Option α
  | unset => none
  | lent value | owned value => some value

inductive Hold where
  | shared
  | exclusive
  | owned
  deriving DecidableEq, Repr

inductive Access where
  | shared
  | exclusive
  deriving DecidableEq, Repr

/-- The access to what is held by something that is accessed itself. -/
def Access.through : Access → Hold → Access
  | .exclusive, .exclusive | .exclusive, .owned => .exclusive
  | _, _ => .shared

inductive Input where
  /-- A value that is copied as it stands. -/
  | int (n : Int64)
  | bool (b : Bool)
  | text (given : Given String)
  | bytes (given : Given (List UInt8))
  /-- A state that goes up by one with each lowering, which takes a box of its own. -/
  | counter (n : Int64)
  | unsetList
  | list (hold : Hold) (items : List Input)
  deriving Repr

inductive LoweringFault where
  | sharedState
  deriving DecidableEq, Repr

def LoweringFault.message : LoweringFault → String
  | sharedState => "type must be lowered through a mutable reference"

namespace Input

mutual

/-- The arena after a lowering, the value as it is left and its raw form. Also a lowering that fails
keeps what it did before. -/
def lower (access : Access) (a : Arena) : Input → Arena × Input × Except LoweringFault Raw
  | .int n => (a, .int n, .ok (.int n))
  | .bool b => (a, .bool b, .ok (.bool b))
  | .text given => (a, .text given, .ok (.text given.value?))
  | .bytes given => (a, .bytes given, .ok (.bytes given.value?))
  | .counter n =>
    match access with
    | .shared => (a, .counter n, .error .sharedState)
    | .exclusive => ((a.pushBox (.int (n + 1))).2, .counter (n + 1), .ok (.int (n + 1)))
  | .unsetList => (a, .unsetList, .ok (.list none 0))
  | .list hold items =>
    match lowerAll (access.through hold) a items with
    | (a, items, .error fault) => (a, .list hold items, .error fault)
    | (a, items, .ok raws) =>
      let (block, a) := a.pushList raws
      (a, .list hold items, .ok (.list block raws.length))

/-- Lowers items in turn and stops at the first that fails. -/
def lowerAll (access : Access) (a : Arena) :
    List Input → Arena × List Input × Except LoweringFault (List Raw)
  | [] => (a, [], .ok [])
  | item :: rest =>
    match lower access a item with
    | (a, item, .error fault) => (a, item :: rest, .error fault)
    | (a, item, .ok raw) =>
      let (a, rest, raws) := lowerAll access a rest
      (a, item :: rest, raws.map (raw :: ·))

end

mutual

/-- What a value means to the native library. A list that is left out is an empty one. -/
def content : Input → Content
  | .int n | .counter n => .int n
  | .bool b => .bool b
  | .text given => .text given.value?
  | .bytes given => .bytes given.value?
  | .unsetList => .list []
  | .list _ items => .list (contents items)

def contents : List Input → List Content
  | [] => []
  | item :: rest => item.content :: contents rest

end

end Input

/-- A raw value that a caller has built, to be handed over once. -/
structure Prepared (α : Type) where
  value : α
  deriving Repr

/-- Hands the value over and leaves the default in its place. -/
def Prepared.take {α : Type} [Inhabited α] (p : Prepared α) : α × Prepared α :=
  (p.value, ⟨default⟩)

end Bindery
