import Bindery.Value

/-!
# Tables of a TOML text

A table is defined once: by a header, by dotted keys, or on the way to another one. The functions
here are `none` where a text defines something twice or puts an entry into what is no table.
-/
namespace Bindery.Toml

inductive Origin where
  | header
  /-- Named only on the way to another header. -/
  | path
  | dotted
  deriving DecidableEq

inductive Item where
  | value (v : Value)
  | table (origin : Origin) (entries : List (String × Item))
  /-- The rows of an array of tables, the latest first. -/
  | rows (rows : List (List (String × Item)))

abbrev Entries := List (String × Item)

def Entries.set (key : String) (item : Item) : Entries → Entries
  | [] => [(key, item)]
  | (k, i) :: rest => if k = key then (key, item) :: rest else (k, i) :: Entries.set key item rest

/-- Changes the table at the end of a path and says whether dotted keys made it. Tables that are
missing on the way are made with the given origin; dotted keys do not enter the table of a
header. -/
def Entries.change (made : Origin) (f : (isDotted : Bool) → Entries → Option Entries) :
    List String → (isDotted : Bool) → Entries → Option Entries
  | [], isDotted, entries => f isDotted entries
  | key :: path, _, entries =>
    match entries.lookup key with
    | none => do
      let inner ← Entries.change made f path (made = .dotted) []
      return entries.set key (.table made inner)
    | some (.table origin inner) =>
      if made = .dotted ∧ origin = .header then none
      else do
        let inner ← Entries.change made f path (origin = .dotted) inner
        return entries.set key (.table origin inner)
    | some (.rows (row :: older)) => do
      let row ← Entries.change made f path false row
      return entries.set key (.rows (row :: older))
    | some _ => none

/-- A path that leads nowhere ends the table; otherwise its last part is set apart. -/
def splitLast : List String → Option (List String × String)
  | [] => none
  | [key] => some ([], key)
  | key :: rest => (splitLast rest).map fun (path, last) => (key :: path, last)

/-- An entry under a dotted key, which ends in a table made by dotted keys. -/
def Entries.put (key : List String) (v : Value) (entries : Entries) : Option Entries := do
  let (path, last) ← splitLast key
  entries.change .dotted (fun isDotted entries =>
    if isDotted = path.isEmpty then none
    else if (entries.lookup last).isSome then none
    else some (entries.set last (.value v))) path false

def Entries.openTable (key : List String) (entries : Entries) : Option Entries := do
  let (path, last) ← splitLast key
  entries.change .path (fun _ entries =>
    match entries.lookup last with
    | none => some (entries.set last (.table .header []))
    | some (.table .path inner) => some (entries.set last (.table .header inner))
    | some _ => none) path false

def Entries.openRow (key : List String) (entries : Entries) : Option Entries := do
  let (path, last) ← splitLast key
  entries.change .path (fun _ entries =>
    match entries.lookup last with
    | none => some (entries.set last (.rows [[]]))
    | some (.rows rows) => some (entries.set last (.rows ([] :: rows)))
    | some _ => none) path false

mutual

def Item.toValue : Item → Value
  | .value v => v
  | .table _ entries => .table (entryValues entries)
  | .rows rows => .list (rowValues rows).reverse

def entryValues : List (String × Item) → List (Option String × Value)
  | [] => []
  | (key, item) :: rest => (some key, item.toValue) :: entryValues rest

def rowValues : List (List (String × Item)) → List Value
  | [] => []
  | row :: rest => .table (entryValues row) :: rowValues rest

end

end Bindery.Toml
