import Bindery.Value

/-!
# Writing JSON

Values on one line without blanks, or with one entry a line and two spaces a level.
-/
namespace Bindery.Json

def hexDigit (n : Nat) : Char := if n < 10 then Char.ofNat (48 + n) else Char.ofNat (87 + n)

/-- Quotes, backslashes and control characters are escaped; all else stands as it is. -/
def escapeChar (c : Char) : List Char :=
  match c with
  | '"' => ['\\', '"']
  | '\\' => ['\\', '\\']
  | '\x08' => ['\\', 'b']
  | '\x0c' => ['\\', 'f']
  | '\n' => ['\\', 'n']
  | '\r' => ['\\', 'r']
  | '\t' => ['\\', 't']
  | c =>
    if c.toNat < 0x20 then ['\\', 'u', '0', '0', hexDigit (c.toNat / 16), hexDigit (c.toNat % 16)]
    else [c]

/-- An unpaired surrogate is written as one. -/
def quote : Option String → String
  | none => "\"\\ud800\""
  | some s => String.ofList ('"' :: s.toList.flatMap escapeChar ++ ['"'])

mutual

def compact : Value → String
  | .null => "null"
  | .bool b => if b then "true" else "false"
  | .int i => toString i
  | .real spelling => spelling
  | .text s => quote s
  | .list items => "[" ++ ",".intercalate (compactItems items) ++ "]"
  | .table entries => "\x7b" ++ ",".intercalate (compactEntries entries) ++ "\x7d"

def compactItems : List Value → List String
  | [] => []
  | v :: rest => compact v :: compactItems rest

def compactEntries : List (Option String × Value) → List String
  | [] => []
  | (key, v) :: rest => (quote key ++ ":" ++ compact v) :: compactEntries rest

end

/-- Items between brackets, one a line; none at all leaves the brackets together. -/
def bracketed (opening closing : String) (level : Nat) : List String → String
  | [] => opening ++ closing
  | items =>
    let margin (level : Nat) := "\n" ++ String.ofList (List.replicate (2 * level) ' ')
    opening ++ margin (level + 1) ++ ("," ++ margin (level + 1)).intercalate items ++
      margin level ++ closing

mutual

def pretty (level : Nat) : Value → String
  | .list items => bracketed "[" "]" level (prettyItems (level + 1) items)
  | .table entries => bracketed "\x7b" "\x7d" level (prettyEntries (level + 1) entries)
  | .null => "null"
  | .bool b => if b then "true" else "false"
  | .int i => toString i
  | .real spelling => spelling
  | .text s => quote s

def prettyItems (level : Nat) : List Value → List String
  | [] => []
  | v :: rest => pretty level v :: prettyItems level rest

def prettyEntries (level : Nat) : List (Option String × Value) → List String
  | [] => []
  | (key, v) :: rest => (quote key ++ ": " ++ pretty level v) :: prettyEntries level rest

end

end Bindery.Json
