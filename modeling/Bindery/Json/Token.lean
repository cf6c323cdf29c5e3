import Bindery.Value

/-!
# Lexical elements of JSON

A text is a list of tokens with blanks between them; `tokens?` is `none` for any other text.
-/
namespace Bindery.Json

inductive Token where
  | openList
  | closeList
  | openTable
  | closeTable
  | comma
  | colon
  | text (s : Option String)
  /-- A literal or a number. -/
  | scalar (v : Value)

inductive CodeUnit where
  | char (c : Char)
  | surrogate (unit : Nat)

def hexValue? (c : Char) : Option Nat :=
  if '0' ≤ c ∧ c ≤ '9' then some (c.toNat - 48)
  else if 'a' ≤ c ∧ c ≤ 'f' then some (c.toNat - 87)
  else if 'A' ≤ c ∧ c ≤ 'F' then some (c.toNat - 55)
  else none

def hexNumber? (digits : List Char) : Option Nat :=
  digits.foldlM (fun n c => (hexValue? c).map (16 * n + ·)) 0

def CodeUnit.ofNat (n : Nat) : CodeUnit :=
  if 0xd800 ≤ n ∧ n < 0xe000 then .surrogate n else .char (Char.ofNat n)

def simpleEscape? : Char → Option Char
  | '"' => some '"'
  | '\\' => some '\\'
  | '/' => some '/'
  | 'b' => some '\x08'
  | 'f' => some '\x0c'
  | 'n' => some '\n'
  | 'r' => some '\r'
  | 't' => some '\t'
  | _ => none

/-- The units of a text up to its closing quote, and what follows it. -/
def scanText (read : List CodeUnit) : List Char → Option (List CodeUnit × List Char)
  | [] => none
  | '"' :: rest => some (read.reverse, rest)
  | '\\' :: 'u' :: a :: b :: c :: d :: rest => do
    let n ← hexNumber? [a, b, c, d]
    scanText (CodeUnit.ofNat n :: read) rest
  | '\\' :: c :: rest => do
    let e ← simpleEscape? c
    scanText (.char e :: read) rest
  | c :: rest => if c.toNat < 0x20 ∨ c = '\\' then none else scanText (.char c :: read) rest

/-- A leading surrogate joins with the trailing one behind it; any other is without partner. -/
def joinUnits (read : List Char) : List CodeUnit → Option (List Char)
  | [] => some read.reverse
  | .char c :: rest => joinUnits (c :: read) rest
  | .surrogate high :: .surrogate low :: rest =>
    if high < 0xdc00 ∧ 0xdc00 ≤ low then
      joinUnits (Char.ofNat (0x10000 + (high - 0xd800) * 0x400 + (low - 0xdc00)) :: read) rest
    else none
  | .surrogate _ :: _ => none

def number (digits : List Char) : Nat := digits.foldl (fun n c => 10 * n + (c.toNat - 48)) 0

/-- The digits after a point or an exponent mark, of which there is at least one. -/
def digits? (s : List Char) : Option (List Char × List Char) :=
  let ds := s.takeWhile Char.isDigit
  if ds.isEmpty then none else some (ds, s.dropWhile Char.isDigit)

def fraction? : List Char → Option (List Char × List Char)
  | '.' :: rest => (digits? rest).map fun (ds, rest) => ('.' :: ds, rest)
  | s => some ([], s)

def exponent? : List Char → Option (List Char × List Char)
  | c :: rest =>
    if c = 'e' ∨ c = 'E' then
      match rest with
      | '+' :: rest => (digits? rest).map fun (ds, rest) => (c :: '+' :: ds, rest)
      | '-' :: rest => (digits? rest).map fun (ds, rest) => (c :: '-' :: ds, rest)
      | rest => (digits? rest).map fun (ds, rest) => (c :: ds, rest)
    else some ([], c :: rest)
  | [] => some ([], [])

/-- The number at the start of `s`, less its sign. No digit precedes another but from 1 to 9. -/
def scanNumber (negative : Bool) (s : List Char) : Option (Value × List Char) := do
  let (whole, rest) ← match s with
    | '0' :: rest => some (['0'], rest)
    | s => digits? s
  let (fraction, rest) ← fraction? rest
  let (exponent, rest) ← exponent? rest
  let spelling := (if negative then ['-'] else []) ++ whole ++ fraction ++ exponent
  if fraction.isEmpty && exponent.isEmpty && !(negative && whole = ['0']) then
    return (.int (if negative then -(number whole : Int) else number whole), rest)
  else return (.real (String.ofList spelling), rest)

def isBlank (c : Char) : Bool := c = ' ' || c = '\t' || c = '\n' || c = '\r'

/-- The first token of a text that does not start with a blank. -/
def token? : List Char → Option (Token × List Char)
  | '[' :: rest => some (.openList, rest)
  | ']' :: rest => some (.closeList, rest)
  | '\x7b' :: rest => some (.openTable, rest)
  | '\x7d' :: rest => some (.closeTable, rest)
  | ',' :: rest => some (.comma, rest)
  | ':' :: rest => some (.colon, rest)
  | '"' :: rest => (scanText [] rest).map fun (units, rest) =>
    (.text ((joinUnits [] units).map String.ofList), rest)
  | 'n' :: 'u' :: 'l' :: 'l' :: rest => some (.scalar .null, rest)
  | 't' :: 'r' :: 'u' :: 'e' :: rest => some (.scalar (.bool true), rest)
  | 'f' :: 'a' :: 'l' :: 's' :: 'e' :: rest => some (.scalar (.bool false), rest)
  | '-' :: rest => (scanNumber true rest).map fun (v, rest) => (.scalar v, rest)
  | s => (scanNumber false s).map fun (v, rest) => (.scalar v, rest)

/-- The tokens of a text; every token takes at least one of the `fuel` characters left. -/
def tokensFrom (read : List Token) : Nat → List Char → Option (List Token)
  | 0, s => if (s.dropWhile isBlank).isEmpty then some read.reverse else none
  | fuel + 1, s =>
    match s.dropWhile isBlank with
    | [] => some read.reverse
    | s => do
      let (t, rest) ← token? s
      tokensFrom (t :: read) fuel rest

def tokens? (s : List Char) : Option (List Token) := tokensFrom [] s.length s

end Bindery.Json
