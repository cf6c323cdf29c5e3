import Bindery.Toml.Scalar
import Bindery.Toml.Tables
import Bindery.Toml.Text

/-!
# Reading TOML

A text is a list of lines: headers, and keys with their values. Keys have fewer than eighty parts,
and fewer than eighty arrays and inline tables stand in each other.
-/
namespace Bindery.Toml

def limit : Nat := 79

/-- Blanks, line ends and comments; `comment` holds inside one. -/
def skipTrivia (comment : Bool) : List Char → List Char
  | [] => []
  | '\n' :: rest => skipTrivia false rest
  | '\r' :: '\n' :: rest => skipTrivia false rest
  | c :: rest =>
    if comment then if isPlain c then skipTrivia true rest else c :: rest
    else if isSpace c then skipTrivia false rest
    else if c = '#' then skipTrivia true rest
    else c :: rest

mutual

/-- The value at the start of `s`, with at most `depth` containers in each other. -/
def value : (fuel : Nat) → (depth : Nat) → List Char → Option (Value × List Char)
  | 0, _, _ => none
  | fuel + 1, depth, s =>
    match s, depth with
    | '[' :: rest, depth + 1 => items fuel depth [] (skipTrivia false rest)
    | '\x7b' :: rest, depth + 1 =>
      match rest.dropWhile isSpace with
      | '\x7d' :: rest => some (.table [], rest)
      | rest => pairs fuel depth [] rest
    | '"' :: _, _ | '\'' :: _, _ =>
      (scanText s).map fun (text, rest) => (.ofString (String.ofList text), rest)
    | s, _ => scanScalar s

/-- The items of an array up to its end, after those in `read`. -/
def items : (fuel : Nat) → (depth : Nat) → List Value → List Char → Option (Value × List Char)
  | 0, _, _, _ => none
  | _ + 1, _, read, ']' :: rest => some (.list read.reverse, rest)
  | fuel + 1, depth, read, s => do
    let (v, rest) ← value fuel depth s
    match skipTrivia false rest with
    | ',' :: rest => items fuel depth (v :: read) (skipTrivia false rest)
    | ']' :: rest => some (.list (v :: read).reverse, rest)
    | _ => none

/-- The entries of an inline table up to its end, of which at least one is left. -/
def pairs : (fuel : Nat) → (depth : Nat) → Entries → List Char → Option (Value × List Char)
  | 0, _, _, _ => none
  | fuel + 1, depth, read, s => do
    let (key, rest) ← key? limit s
    let rest ← mark? '=' rest
    let (v, rest) ← value fuel depth (rest.dropWhile isSpace)
    let read ← read.put key v
    match rest.dropWhile isSpace with
    | ',' :: rest => pairs fuel depth read rest
    | '\x7d' :: rest => some (.table (entryValues read), rest)
    | _ => none

end

/-- The end of a line, behind blanks and a comment. -/
def endLine? (s : List Char) : Option (List Char) :=
  let s := s.dropWhile isSpace
  let s := if s.head? = some '#' then s.dropWhile isPlain else s
  match s with
  | [] => some []
  | '\n' :: rest => some rest
  | '\r' :: '\n' :: rest => some rest
  | _ => none

structure State where
  header : List String := []
  entries : Entries := []

def State.put (state : State) (key : List String) (v : Value) : Option State := do
  let entries ← state.entries.change .path (fun _ entries => entries.put key v) state.header false
  return { state with entries }

def line? (state : State) (s : List Char) : Option (State × List Char) :=
  match s with
  | '#' :: _ => (endLine? s).map (state, ·)
  | '[' :: '[' :: rest => do
    let (header, rest) ← key? limit rest
    let rest ← mark? ']' (← mark? ']' rest)
    return ({ header, entries := ← state.entries.openRow header }, ← endLine? rest)
  | '[' :: rest => do
    let (header, rest) ← key? limit rest
    let rest ← mark? ']' rest
    return ({ header, entries := ← state.entries.openTable header }, ← endLine? rest)
  | s => do
    let (key, rest) ← key? limit s
    let rest ← mark? '=' rest
    let (v, rest) ← value (2 * s.length + 2) limit (rest.dropWhile isSpace)
    return (← state.put key v, ← endLine? rest)

/-- All lines; each takes at least one of the `fuel` characters left. -/
def lines? : (fuel : Nat) → State → List Char → Option State
  | 0, state, s => if s.isEmpty then some state else none
  | fuel + 1, state, s =>
    match s.dropWhile isSpace with
    | [] => some state
    | '\n' :: rest => lines? fuel state rest
    | '\r' :: '\n' :: rest => lines? fuel state rest
    | s => do
      let (state, rest) ← line? state s
      lines? fuel state rest

/-- The table that a text holds. A byte order mark may stand before it. -/
def parse? (text : String) : Option Value := do
  let s := match text.toList with
    | '\ufeff' :: rest => rest
    | s => s
  let state ← lines? s.length {} s
  return .table (entryValues state.entries)

end Bindery.Toml
