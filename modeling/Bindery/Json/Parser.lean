import Bindery.Json.Token

/-!
# Reading JSON

The reader is a machine over tokens. Its stack holds the containers that are open, the innermost
first, so any depth of nesting is read in constant space beside it.
-/
namespace Bindery.Json

/-- An open container: what it holds so far, the latest first, and for a table the key whose value
comes next. -/
inductive Frame where
  | list (items : List Value)
  | table (entries : List (Option String × Value)) (key : Option String)

inductive Expected where
  | value
  | valueOrClose
  | key (entries : List (Option String × Value))
  | keyOrClose
  | colon (entries : List (Option String × Value)) (key : Option String)
  /-- A value is complete; a separator or the end of its container follows. -/
  | rest (v : Value)

/-- One token; `none` where it cannot stand. -/
def step : Expected × List Frame → Token → Option (Expected × List Frame)
  | (.value, stack), t | (.valueOrClose, stack), t =>
    match t with
    | .scalar v => some (.rest v, stack)
    | .text s => some (.rest (.text s), stack)
    | .openList => some (.valueOrClose, .list [] :: stack)
    | .openTable => some (.keyOrClose, stack)
    | _ => none
  | (.key entries, stack), .text s => some (.colon entries s, stack)
  | (.keyOrClose, stack), .text s => some (.colon [] s, stack)
  | (.keyOrClose, stack), .closeTable => some (.rest (.table []), stack)
  | (.colon entries key, stack), .colon => some (.value, .table entries key :: stack)
  | (.rest v, .list items :: stack), .comma => some (.value, .list (v :: items) :: stack)
  | (.rest v, .list items :: stack), .closeList =>
    some (.rest (.list (v :: items).reverse), stack)
  | (.rest v, .table entries key :: stack), .comma => some (.key ((key, v) :: entries), stack)
  | (.rest v, .table entries key :: stack), .closeTable =>
    some (.rest (.table ((key, v) :: entries).reverse), stack)
  | _, _ => none

/-- A list that closes at once has no value on the stack to complete it. -/
def stepOrClose : Expected × List Frame → Token → Option (Expected × List Frame)
  | (.valueOrClose, .list [] :: stack), .closeList => some (.rest (.list []), stack)
  | state, t => step state t

/-- The one value of the characters of a text, which unlike the text can be evaluated. -/
def ofChars? (chars : List Char) : Option Value := do
  let tokens ← tokens? chars
  match ← tokens.foldlM stepOrClose (.value, []) with
  | (.rest v, []) => some v
  | _ => none

def parse? (s : String) : Option Value := ofChars? s.toList

theorem parse?_ofList (chars : List Char) : parse? (String.ofList chars) = ofChars? chars := by
  rw [parse?, String.toList_ofList]

end Bindery.Json
