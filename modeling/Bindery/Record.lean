import Bindery.Table
import Bindery.Value

/-!
# Records

Values read as records, tables and lists. A record is written as a table or, by position, as a
list; names that it does not have are passed over.
-/
namespace Bindery

abbrev Decoder (α : Type) := Value → Option α

namespace Decoder

def bool : Decoder Bool
  | .bool b => some b
  | _ => none

def text : Decoder String
  | .text s => s
  | _ => none

/-- `null` stands for an absent value. -/
def optional (decode : Decoder α) : Decoder (Option α)
  | .null => some none
  | v => (decode v).map some

def list (decode : Decoder α) : Decoder (List α)
  | .list items => items.mapM decode
  | _ => none

/-- Every entry is read, also one that a later entry of the same name replaces. -/
def table (decode : Decoder α) : Decoder (Table α)
  | .table entries => do
    let entries ← entries.mapM fun (key, v) => do return (← key, ← decode v)
    return Table.ofList entries
  | _ => none

/-- One of `all`, as its label or as a table with the label as its one key, without a value. -/
def label (all : List α) (labelOf : α → String) : Decoder α
  | .text (some s) | .table [(some s, .null)] => all.find? (labelOf · == s)
  | _ => none

def uint64 : Decoder UInt64
  | .int i => if 0 ≤ i ∧ i < UInt64.size then some (UInt64.ofNat i.toNat) else none
  | _ => none

def int64 : Decoder Int64
  | .int i =>
    if Int64.minValue.toInt ≤ i ∧ i ≤ Int64.maxValue.toInt then some (Int64.ofInt i) else none
  | _ => none

end Decoder

structure Record where
  fields : List (String × Value)

namespace Record

/-- No field may be given twice. A list that is longer than the record is refused if `strict`. -/
def ofValue? (strict : Bool) (names : List String) : Value → Option Record
  | .table entries => do
    let entries ← entries.mapM fun (key, v) => key.map (·, v)
    let known := entries.filter fun e => names.contains e.1
    if (known.map (·.1)).Nodup then some ⟨known⟩ else none
  | .list items =>
    if strict && names.length < items.length then none else some ⟨names.zip items⟩
  | _ => none

def required (r : Record) (name : String) (decode : Decoder α) : Option α :=
  r.fields.lookup name >>= decode

def withDefault (r : Record) (name : String) (decode : Decoder α) (absent : α) : Option α :=
  match r.fields.lookup name with
  | none => some absent
  | some v => decode v

/-- A flag that is not given is off. -/
def flag (r : Record) (name : String) : Option Bool := r.withDefault name Decoder.bool false

/-- A text that is not given is empty. -/
def text (r : Record) (name : String) : Option String := r.withDefault name Decoder.text ""

def optional (r : Record) (name : String) (decode : Decoder α) : Option (Option α) :=
  r.withDefault name (Decoder.optional decode) none

def list (r : Record) (name : String) (decode : Decoder α) : Option (List α) :=
  r.withDefault name (Decoder.list decode) []

def table (r : Record) (name : String) (decode : Decoder α) : Option (Table α) :=
  r.withDefault name (Decoder.table decode) {}

end Record

def Decoder.record (strict : Bool) (names : List String) (build : Record → Option α) : Decoder α :=
  fun v => Record.ofValue? strict names v >>= build

end Bindery
