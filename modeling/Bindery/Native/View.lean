import Bindery.Text.Quoted

/-!
# Views

Borrowed looks at memory of the native library. A null view is empty.
-/
namespace Bindery

structure View (α : Type) where
  /-- What the view points to, unless it is null. -/
  data : Option (List α) := none
  deriving DecidableEq, Repr

namespace View

variable {α : Type}

def ofList (items : List α) : View α := ⟨some items⟩

def items (v : View α) : List α := v.data.getD []

def count (v : View α) : Nat := v.items.length

def get? (v : View α) (index : Nat) : Option α := v.items[index]?

def sum (v : View Int64) : Int64 := v.items.foldl (· + ·) 0

end View

structure TextView where
  data : Option String := none
  deriving DecidableEq, Repr

namespace TextView

def ofString (text : String) : TextView := ⟨some text⟩

def text (v : TextView) : String := v.data.getD ""

def length (v : TextView) : Nat := v.text.utf8ByteSize

def quoted (v : TextView) : String := Text.quoted v.text

end TextView

end Bindery
