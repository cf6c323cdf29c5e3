import Bindery.Description.Encode
import Bindery.Description.Validate
import Mathlib.Control.Monad.Basic
import Mathlib.Data.List.Forall2

/-!
# Saved descriptions

A description is read back as it was written, field by field under the names of the format. So a
description that was loaded can be saved and loaded again: names that were filled in stay, and
references that were whole still are.
-/
namespace Bindery

variable {α : Type} {read : Decoder α} {write : α → Value}

/-! ### Tables -/

namespace Table

/-- An entry behind all others is put last. -/
theorem insertEntry_of_last {name : String} (a : α) {entries : List (String × α)}
    (behind : ∀ e ∈ entries, e.1 < name) : insertEntry name a entries = entries ++ [(name, a)] := by
  induction entries with
  | nil => rfl
  | cons entry rest ih =>
    have before := behind entry List.mem_cons_self
    rw [insertEntry, if_neg (String.lt_asymm before), if_pos before,
      ih fun e member => behind e (List.mem_cons_of_mem _ member)]
    rfl

theorem entries_foldl_insert (t : Table α) (entries : List (String × α))
    (ordered : (t.entries ++ entries).Pairwise (·.1 < ·.1)) :
    (entries.foldl (fun t e => t.insert e.1 e.2) t).entries = t.entries ++ entries := by
  induction entries generalizing t with
  | nil => simp
  | cons entry rest ih =>
    have behind : ∀ e ∈ t.entries, e.1 < entry.1 := fun e member =>
      (List.pairwise_append.1 ordered).2.2 e member entry List.mem_cons_self
    have inserted : (t.insert entry.1 entry.2).entries = t.entries ++ [entry] :=
      insertEntry_of_last entry.2 behind
    rw [List.foldl_cons, ih _ (by simpa [inserted] using ordered), inserted, List.append_assoc]
    rfl

/-- A table is made of its entries in their order. -/
theorem ofList_entries (t : Table α) : ofList t.entries = t := by
  have same := entries_foldl_insert {} t.entries (by simpa using t.ordered)
  exact Table.ext same

theorem map_map_self {f : String → α → α} (again : ∀ key a, f key (f key a) = f key a)
    (t : Table α) : (t.map f).map f = t.map f := by
  apply Table.ext
  simp [map, again]

end Table

/-! ### Values -/

namespace Decoder

theorem mapM_map {β : Type} {read : β → Option α} {write : α → β}
    (inverts : ∀ a, read (write a) = some a) (as : List α) :
    (as.map write).mapM read = some as := by
  induction as with
  | nil => rfl
  | cons a as ih => simp [inverts, ih]

@[simp] theorem bool_bool (b : Bool) : bool (.bool b) = some b := rfl

@[simp] theorem text_ofString (s : String) : text (.ofString s) = some s := rfl

@[simp] theorem uint64_ofWord (n : UInt64) : uint64 (.ofWord n) = some n := by
  have bound : (n.toNat : Int) < UInt64.size := Int.ofNat_lt.2 n.toNat_lt_size
  rw [Value.ofWord, Value.ofNat, uint64, if_pos ⟨Int.natCast_nonneg _, bound⟩, Int.toNat_natCast,
    UInt64.ofNat_toNat]

@[simp] theorem int64_toInt (n : Int64) : int64 (.int n.toInt) = some n := by
  rw [int64, if_pos ⟨n.minValue_le_toInt, n.toInt_le⟩, Int64.ofInt_toInt]

@[simp] theorem strings_strings (items : List String) :
    list text (.strings items) = some items := mapM_map text_ofString items

theorem list_map (inverts : ∀ a, read (write a) = some a) (as : List α) :
    list read (.list (as.map write)) = some as := mapM_map inverts as

theorem optional_ofOption (inverts : ∀ a, read (write a) = some a)
    (given : ∀ a, write a ≠ .null) (a : Option α) :
    optional read (.ofOption write a) = some a := by
  cases a with
  | none => rfl
  | some a =>
    have present := given a
    simp only [Value.ofOption]
    unfold optional
    split
    next absent => exact absurd absent present
    next => rw [inverts, Option.map_some]

@[simp] theorem optional_text (s : Option String) :
    optional text (.ofOption .ofString s) = some s := optional_ofOption text_ofString nofun s

@[simp] theorem optional_uint64 (n : Option UInt64) :
    optional uint64 (.ofOption .ofWord n) = some n := optional_ofOption uint64_ofWord nofun n

theorem table_encode (inverts : ∀ a, read (write a) = some a) (t : Table α) :
    table read (t.encode write) = some t := by
  have written : t.encode write = .table (t.entries.map fun e => (some e.1, write e.2)) := by
    simp [Table.encode, Value.record]
  rw [written, table, mapM_map fun e => by simp [inverts]]
  exact congrArg some t.ofList_entries

theorem label_ofString {all : List α} {labelOf : α → String}
    (found : ∀ a, all.find? (labelOf · == labelOf a) = some a) (a : α) :
    label all labelOf (.ofString (labelOf a)) = some a := found a

/-- A record is read from the fields that are written, if these are all that it has. -/
theorem record_record {names : List String} {build : Record → Option α}
    {fields : List (String × Value)} (all : fields.map (·.1) = names) (distinct : names.Nodup) :
    record true names build (.record fields) = build ⟨fields⟩ := by
  have known : fields.filter (fun e => names.contains e.1) = fields := by
    apply List.filter_eq_self.2
    intro e member
    rw [← all]
    simpa using ⟨e.2, member⟩
  have written : Value.record fields = .table (fields.map fun e => (some e.1, e.2)) := by
    simp [Value.record]
  rw [record, written, Record.ofValue?, mapM_map fun _ => by rfl]
  simp only [Option.bind_eq_bind, Option.bind_some, known]
  rw [if_pos (all ▸ distinct), Option.bind_some]

end Decoder

/-! ### Records -/

namespace Record

variable {key name : String} {v : Value} {rest : List (String × Value)}

attribute [simp] flag text optional list table

@[simp] theorem required_cons : (⟨(key, v) :: rest⟩ : Record).required name read =
    if name = key then read v else (⟨rest⟩ : Record).required name read := by
  by_cases same : name = key
  · simp [required, same]
  · rw [if_neg same, required, List.lookup_cons, beq_false_of_ne same]
    rfl

@[simp] theorem withDefault_cons (absent : α) :
    (⟨(key, v) :: rest⟩ : Record).withDefault name read absent =
      if name = key then read v else (⟨rest⟩ : Record).withDefault name read absent := by
  by_cases same : name = key
  · simp [withDefault, same]
  · rw [if_neg same, withDefault, List.lookup_cons, beq_false_of_ne same]
    rfl

end Record

theorem TypeKind.find?_label (k : TypeKind) : all.find? (label · == k.label) = some k := by
  cases k <;> rfl

theorem FunctionKind.find?_label (k : FunctionKind) :
    all.find? (label · == k.label) = some k := by
  cases k <;> rfl

theorem ArgTag.find?_label (tag : ArgTag) : all.find? (label · == tag.label) = some tag := by
  cases tag <;> rfl

theorem DeclKind.find?_label (k : DeclKind) : all.find? (label · == k.label) = some k := by
  cases k <;> rfl

theorem ParamDecl.decode_encode (p : ParamDecl) : decode p.encode = some p := by
  rw [decode, encode, Decoder.record_record (by rfl) (by decide)]
  simp

theorem TypeDecl.decode_encode (t : TypeDecl) : decode t.encode = some t := by
  have kind := Decoder.label_ofString TypeKind.find?_label t.kind
  have params := Decoder.list_map ParamDecl.decode_encode t.params
  rw [decode, encode, Decoder.record_record (by rfl) (by decide)]
  simp [kind, params]

theorem FieldDecl.decode_encode (f : FieldDecl) : decode f.encode = some f := by
  rw [decode, encode, Decoder.record_record (by rfl) (by decide)]
  simp

theorem StructDecl.decode_encode (s : StructDecl) : decode s.encode = some s := by
  have fields := Decoder.list_map FieldDecl.decode_encode s.fields
  rw [decode, encode, Decoder.record_record (by rfl) (by decide)]
  simp [fields]

theorem EnumDecl.decode_encode (e : EnumDecl) : decode e.encode = some e := by
  rw [decode, encode, Decoder.record_record (by rfl) (by decide)]
  simp

theorem ConstantDecl.decode_encode (c : ConstantDecl) : decode c.encode = some c := by
  rw [decode, encode, Decoder.record_record (by rfl) (by decide)]
  simp

theorem ArgDecl.decode_encode (a : ArgDecl) : decode a.encode = some a := by
  have tag := Decoder.label_ofString ArgTag.find?_label a.tag
  rw [decode, encode, Decoder.record_record (by rfl) (by decide)]
  simp [tag]

theorem FunctionDecl.decode_encode (f : FunctionDecl) : decode f.encode = some f := by
  have args := Decoder.list_map ArgDecl.decode_encode f.args
  have kind := Decoder.label_ofString FunctionKind.find?_label f.kind
  rw [decode, encode, Decoder.record_record (by rfl) (by decide)]
  simp [args, kind]

theorem GlobalDecl.decode_encode (g : GlobalDecl) : decode g.encode = some g := by
  rw [decode, encode, Decoder.record_record (by rfl) (by decide)]
  simp

theorem Declaration.decode_encode (d : Declaration) : decode d.encode = some d := by
  have kind := Decoder.label_ofString DeclKind.find?_label d.kind
  rw [decode, encode, Decoder.record_record (by rfl) (by decide)]
  simp [kind]

/-! ### Descriptions -/

/-- A text that was filled in is not filled in again. -/
@[simp] theorem orElseText_self (text other : String) :
    orElseText (orElseText text other) other = orElseText text other := by
  by_cases absent : text.isEmpty
  · simp [orElseText, absent]
  · simp [orElseText, absent]

namespace Description

/-- Every description is read as it was written. -/
theorem decode_encode (d : Description) : decode d.encode = some d := by
  have types := Decoder.table_encode TypeDecl.decode_encode d.types
  have structs := Decoder.table_encode StructDecl.decode_encode d.structs
  have enums := Decoder.table_encode EnumDecl.decode_encode d.enums
  have constants := Decoder.table_encode ConstantDecl.decode_encode d.constants
  have functions := Decoder.table_encode FunctionDecl.decode_encode d.functions
  have globals := Decoder.table_encode GlobalDecl.decode_encode d.globals
  have declarations := Decoder.list_map Declaration.decode_encode d.declarations
  rw [decode, encode, Decoder.record_record (by rfl) (by decide)]
  simp [types, structs, enums, constants, functions, globals, declarations]

theorem fillNames_fillNames (d : Description) : d.fillNames.fillNames = d.fillNames := by
  simp [fillNames, Table.map_map_self]

variable {text : String} {d : Description}

theorem validate_eq_ok_iff {d' : Description} :
    d.validate = .ok d' ↔ d.fault? = none ∧ d = d' := by
  unfold validate
  cases d.fault? <;> simp

theorem ofValue_eq_ok_iff {v : Value} :
    ofValue v = .ok d ↔ ∃ bare, decode v = some bare ∧ bare.fillNames = d ∧ d.fault? = none := by
  unfold ofValue
  cases decode v with
  | none => simp
  | some bare =>
    simp only [validate_eq_ok_iff, Option.some.injEq, exists_eq_left']
    constructor
    · rintro ⟨whole, rfl⟩
      exact ⟨rfl, whole⟩
    · rintro ⟨rfl, whole⟩
      exact ⟨whole, rfl⟩

theorem parse_eq_ok_iff :
    parse text = .ok d ↔ ∃ v, Json.parse? text = some v ∧ ofValue v = .ok d := by
  unfold parse
  cases Json.parse? text <;> simp

/-- A description that was loaded has all names and no broken references, and is loaded again from
every text that holds what is written of it. -/
theorem parse_saved (loaded : parse text = .ok d) :
    decode d.encode = some d ∧ d.fillNames = d ∧ d.validate = .ok d ∧ ofValue d.encode = .ok d ∧
      ∀ saved, Json.parse? saved = some d.encode → parse saved = .ok d := by
  obtain ⟨v, _, accepted⟩ := parse_eq_ok_iff.1 loaded
  obtain ⟨bare, _, filled, whole⟩ := ofValue_eq_ok_iff.1 accepted
  have named : d.fillNames = d := by
    rw [← filled, fillNames_fillNames]
  have again : ofValue d.encode = .ok d :=
    ofValue_eq_ok_iff.2 ⟨d, decode_encode d, named, whole⟩
  refine ⟨decode_encode d, named, validate_eq_ok_iff.2 ⟨whole, rfl⟩, again, ?_⟩
  intro saved held
  exact parse_eq_ok_iff.2 ⟨d.encode, held, again⟩

/-- A description is read off the characters of its lines, which unlike their text can be
evaluated. -/
theorem parse_join {lines : List String} {chars : List (List Char)}
    (spelled : List.Forall₂ (fun line cs => line = String.ofList cs) lines chars)
    (read : (Json.ofChars? chars.flatten).elim (.error .malformedDescription) ofValue = .ok d) :
    parse (String.join lines) = .ok d := by
  have joined : String.join lines = String.ofList chars.flatten := by
    clear read
    apply String.toList_injective
    rw [String.toList_ofList, String.toList_join]
    induction spelled with
    | nil => rfl
    | cons line _ ih => rw [List.flatMap_cons, List.flatten_cons, line, String.toList_ofList, ih]
  rw [parse, joined, Json.parse?_ofList, ← read]
  cases Json.ofChars? chars.flatten <;> rfl

def unitsText : String :=
  String.join [
    "\x7b\"types\": \x7b",
    "\"unit\": \x7b\"kind\": \"enum\"\x7d,",
    "\"unit[3]\": \x7b\"kind\": \"array\", \"inner\": \"unit\", \"array_length\": 3\x7d\x7d,",
    "\"enums\": \x7b\"unit\": \x7b\"values\": [\"UNIT_METER\"], \"flag\": true\x7d\x7d,",
    "\"enum_values\": \x7b\"UNIT_METER\": \x7b\"short_name\": \"METER\", \"value\": -1\x7d\x7d,",
    "\"declarations\": [\x7b\"kind\": \"enum\", \"name\": \"unit\"\x7d]\x7d"]

def units : Description where
  types := ⟨[("unit", { key := "unit", kind := .enum }),
    ("unit[3]", { key := "unit[3]", kind := .array, inner := some "unit", arrayLength := some 3 })],
    by decide⟩
  enums := ⟨[("unit",
    { name := "unit", shortName := "unit", values := ["UNIT_METER"], isFlag := true })], by decide⟩
  constants := ⟨[("UNIT_METER",
    { name := "UNIT_METER", shortName := "METER", value := -1 })], by decide⟩
  declarations := [{ kind := .enum, name := "unit" }]

theorem parse_unitsText : parse unitsText = .ok units := by
  apply parse_join (by repeat constructor)
  decide +kernel

theorem units_saved : parse unitsText = .ok units ∧ decode units.encode = some units ∧
    units.fillNames = units ∧ ofValue units.encode = .ok units := by
  obtain ⟨read, named, _, again, _⟩ := parse_saved parse_unitsText
  exact ⟨parse_unitsText, read, named, again⟩

end Description

end Bindery
