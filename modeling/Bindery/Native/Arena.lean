/-!
# Arenas

The memory that keeps lowered lists for one native call. Blocks are only added, so a position keeps
its meaning, and a list points to blocks older than the one it stands in.
-/
namespace Bindery

/-- A value in the form the native library takes. Text and bytes stay where the caller keeps them,
the items of a list stand in a block of an arena. -/
inductive Raw where
  | int (n : Int64)
  | bool (b : Bool)
  | text (data : Option String)
  | bytes (data : Option (List UInt8))
  | list (block : Option Nat) (count : Nat)
  deriving DecidableEq, Repr

structure Arena where
  /-- The newest block comes first. -/
  blocks : List (List Raw) := []
  deriving DecidableEq, Repr

namespace Arena

def size (a : Arena) : Nat := a.blocks.length

def isEmpty (a : Arena) : Bool := a.blocks.isEmpty

/-- The block at a position, counted from the oldest. -/
def block? (a : Arena) (position : Nat) : Option (List Raw) := a.blocks.reverse[position]?

/-- Stores a value of its own and answers where. -/
def pushBox (a : Arena) (value : Raw) : Nat × Arena := (a.size, ⟨[value] :: a.blocks⟩)

/-- Stores values in one block and answers where. No values take no block. -/
def pushList (a : Arena) (values : List Raw) : Option Nat × Arena :=
  if values.isEmpty then (none, a) else (some a.size, ⟨values :: a.blocks⟩)

@[simp] theorem pushList_nil (a : Arena) : a.pushList [] = (none, a) := rfl

@[simp] theorem pushList_cons (a : Arena) (value : Raw) (values : List Raw) :
    a.pushList (value :: values) = (some a.size, ⟨(value :: values) :: a.blocks⟩) := rfl

end Arena

inductive Content where
  | int (n : Int64)
  | bool (b : Bool)
  | text (data : Option String)
  | bytes (data : Option (List UInt8))
  | list (items : List Content)
  deriving Repr

/-- Follows a raw value into blocks, the newest first. -/
def Raw.content? : List (List Raw) → Raw → Option Content
  | _, .int n => some (.int n)
  | _, .bool b => some (.bool b)
  | _, .text data => some (.text data)
  | _, .bytes data => some (.bytes data)
  | _, .list none _ => some (.list [])
  | [], .list (some _) _ => none
  | block :: older, .list (some position) count =>
    if position = older.length then
      if block.length = count then (block.mapM (content? older)).map .list else none
    else content? older (.list (some position) count)

def Arena.read (a : Arena) (value : Raw) : Option Content := value.content? a.blocks

end Bindery
