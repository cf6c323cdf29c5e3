import Bindery.Json.Token

/-!
# Texts and keys in TOML

Texts between double quotes have escapes, texts between single quotes have none; three quotes open
a text of several lines.
-/
namespace Bindery.Toml

/-- What may stand in a comment or a text: no control character but the tab. -/
def isPlain (c : Char) : Bool := c = '\t' || (0x20 ≤ c.toNat && c.toNat ≠ 0x7f)

def isSpace (c : Char) : Bool := c = ' ' || c = '\t'

def scalarChar? (digits : List Char) : Option Char := do
  let n ← Json.hexNumber? digits
  if n < 0xd800 ∨ (0xe000 ≤ n ∧ n < 0x110000) then some (Char.ofNat n) else none

def simpleEscape? : Char → Option Char
  | 'b' => some '\x08'
  | 't' => some '\t'
  | 'n' => some '\n'
  | 'f' => some '\x0c'
  | 'r' => some '\r'
  | '"' => some '"'
  | '\\' => some '\\'
  | _ => none

/-- The text up to the closing double quote, and what follows it. -/
def basicText (read : List Char) : List Char → Option (List Char × List Char)
  | [] => none
  | '"' :: rest => some (read.reverse, rest)
  | '\\' :: 'u' :: a :: b :: c :: d :: rest => do
    basicText ((← scalarChar? [a, b, c, d]) :: read) rest
  | '\\' :: 'U' :: a :: b :: c :: d :: e :: f :: g :: h :: rest => do
    basicText ((← scalarChar? [a, b, c, d, e, f, g, h]) :: read) rest
  | '\\' :: c :: rest => do basicText ((← simpleEscape? c) :: read) rest
  | c :: rest => if isPlain c && c ≠ '\\' then basicText (c :: read) rest else none

/-- The text up to the closing single quote, and what follows it. -/
def literalText (read : List Char) : List Char → Option (List Char × List Char)
  | [] => none
  | c :: rest =>
    if c = '\'' then some (read.reverse, rest)
    else if isPlain c then literalText (c :: read) rest
    else none

/-- Whether nothing but blanks stands before the end of the line. -/
def endsLine : List Char → Bool
  | '\n' :: _ => true
  | '\r' :: '\n' :: _ => true
  | c :: rest => isSpace c && endsLine rest
  | [] => false

/-- Three quotes or more in a row close a text of several lines; up to two of them belong to it. -/
def closing? (quote : Char) (s : List Char) : Option (List Char × List Char) :=
  let run := (s.takeWhile (· = quote)).length
  if run < 3 then none
  else
    let extra := min run 5 - 3
    some (List.replicate extra quote, s.drop (extra + 3))

/-- A backslash at the end of a line drops the blanks up to the next text; while it does so,
`skipping` holds. -/
def basicLines (skipping : Bool) (read : List Char) : List Char → Option (List Char × List Char)
  | [] => none
  | '\\' :: 'u' :: a :: b :: c :: d :: rest => do
    basicLines false ((← scalarChar? [a, b, c, d]) :: read) rest
  | '\\' :: 'U' :: a :: b :: c :: d :: e :: f :: g :: h :: rest => do
    basicLines false ((← scalarChar? [a, b, c, d, e, f, g, h]) :: read) rest
  | '\\' :: c :: rest =>
    if endsLine (c :: rest) then basicLines true read (c :: rest)
    else do basicLines false ((← simpleEscape? c) :: read) rest
  | '\r' :: '\n' :: rest => basicLines skipping (if skipping then read else '\n' :: read) rest
  | c :: rest =>
    if c = '"' then
      match closing? '"' (c :: rest) with
      | some (extra, after) => some (read.reverse ++ extra, after)
      | none => basicLines false (c :: read) rest
    else if skipping && (isSpace c || c = '\n') then basicLines true read rest
    else if (isPlain c && c ≠ '\\') || c = '\n' then basicLines false (c :: read) rest
    else none

def literalLines (read : List Char) : List Char → Option (List Char × List Char)
  | [] => none
  | '\r' :: '\n' :: rest => literalLines ('\n' :: read) rest
  | c :: rest =>
    if c = '\'' then
      match closing? '\'' (c :: rest) with
      | some (extra, after) => some (read.reverse ++ extra, after)
      | none => literalLines (c :: read) rest
    else if isPlain c || c = '\n' then literalLines (c :: read) rest
    else none

/-- A line feed right behind the opening quotes does not belong to the text. -/
def dropLineFeed : List Char → List Char
  | '\n' :: rest => rest
  | '\r' :: '\n' :: rest => rest
  | s => s

def scanText : List Char → Option (List Char × List Char)
  | '"' :: '"' :: '"' :: rest => basicLines false [] (dropLineFeed rest)
  | '"' :: rest => basicText [] rest
  | '\'' :: '\'' :: '\'' :: rest => literalLines [] (dropLineFeed rest)
  | '\'' :: rest => literalText [] rest
  | _ => none

def isKeyChar (c : Char) : Bool := c.isAlphanum || c = '_' || c = '-'

def simpleKey? : List Char → Option (String × List Char)
  | '"' :: rest => (basicText [] rest).map fun (s, rest) => (String.ofList s, rest)
  | '\'' :: rest => (literalText [] rest).map fun (s, rest) => (String.ofList s, rest)
  | s =>
    let key := s.takeWhile isKeyChar
    if key.isEmpty then none else some (String.ofList key, s.dropWhile isKeyChar)

/-- A key of at most `limit` parts between points, with blanks around each. -/
def key? : (limit : Nat) → List Char → Option (List String × List Char)
  | 0, _ => none
  | limit + 1, s => do
    let (part, rest) ← simpleKey? (s.dropWhile isSpace)
    match rest.dropWhile isSpace with
    | '.' :: rest => do
      let (parts, rest) ← key? limit rest
      return (part :: parts, rest)
    | rest => return ([part], rest)

end Bindery.Toml
