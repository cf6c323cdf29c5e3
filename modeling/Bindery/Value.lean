/-!
# Values

The data that the text formats carry: what a description, a configuration or a report looks like
before it is read into records.
-/
namespace Bindery

inductive Value where
  | null
  | bool (b : Bool)
  | int (i : Int)
  /-- A number that is not written as an integer, by its spelling. -/
  | real (spelling : String)
  /-- A text, or `none` where escapes leave a surrogate without its partner. -/
  | text (s : Option String)
  | list (items : List Value)
  /-- Entries in the order in which they are written; a key may occur twice. -/
  | table (entries : List (Option String × Value))
  deriving Inhabited, Repr

namespace Value

def ofString (s : String) : Value := .text (some s)

def ofNat (n : Nat) : Value := .int n

def ofWord (n : UInt64) : Value := .ofNat n.toNat

def ofOption (f : α → Value) : Option α → Value
  | none => .null
  | some a => f a

def record (fields : List (String × Value)) : Value :=
  .table (fields.map fun (key, v) => (some key, v))

def strings (items : List String) : Value := .list (items.map ofString)

end Value

end Bindery
