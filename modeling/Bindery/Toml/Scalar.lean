import Bindery.Json.Token
import Bindery.Text

/-!
# Numbers, dates and times in TOML

A scalar is read from the whole run of characters that it is written with.
-/
namespace Bindery.Toml

/-- Digits in groups, with one underscore between each two; the underscores are dropped. -/
def ungroup? (isDigit : Char → Bool) (s : List Char) : Option (List Char) :=
  let groups := Text.splitOn '_' s
  if groups.all (fun g => !g.isEmpty && g.all isDigit) then some groups.flatten else none

def sign : List Char → Bool × List Char
  | '+' :: rest => (false, rest)
  | '-' :: rest => (true, rest)
  | s => (false, s)

/-- Decimal digits of which only a lone one may be a leading zero. -/
def whole? (s : List Char) : Option (List Char) :=
  (ungroup? Char.isDigit s).filter fun ds => ds.length = 1 || ds.head? ≠ some '0'

def digitValue (c : Char) : Nat := (Json.hexValue? c).getD 0

def number (base : Nat) (digits : List Char) : Nat :=
  digits.foldl (fun n c => base * n + digitValue c) 0

def inRange (i : Int) : Option Value :=
  if Int64.minValue.toInt ≤ i ∧ i ≤ Int64.maxValue.toInt then some (.int i) else none

def based? (base : Nat) (s : List Char) : Option Value := do
  let digits ← ungroup? (fun c => (Json.hexValue? c).any (· < base)) s
  inRange (number base digits)

def integer? : List Char → Option Value
  | '0' :: 'x' :: rest => based? 16 rest
  | '0' :: 'o' :: rest => based? 8 rest
  | '0' :: 'b' :: rest => based? 2 rest
  | s => do
    let (negative, rest) := sign s
    let digits ← whole? rest
    let n := number 10 digits
    inRange (if negative then -(n : Int) else n)

/-- Whether `m * 10 ^ e` is nearer to the power of two that double precision cannot hold any more
than to the largest number that it can. -/
def overflows (m : Nat) (e : Int) : Bool :=
  let limit := Nat.pow 2 1024 - Nat.pow 2 970
  let size := (Nat.toDigits 10 m).length + e
  if m = 0 ∨ size < 300 then false
  else if 320 < size then true
  else if 0 ≤ e then limit ≤ m * Nat.pow 10 e.toNat
  else limit * Nat.pow 10 (-e).toNat ≤ m

/-- A number with a fraction, an exponent or both; a positive one has to be finite. -/
def float? (s : List Char) : Option Value := do
  let (negative, body) := sign s
  let isMark (c : Char) := c = 'e' || c = 'E'
  let mantissa := body.takeWhile (!isMark ·)
  let power := (body.dropWhile (!isMark ·)).drop 1
  let whole ← whole? (mantissa.takeWhile (· ≠ '.'))
  let fraction ←
    if mantissa.contains '.' then
      ungroup? Char.isDigit ((mantissa.dropWhile (· ≠ '.')).drop 1)
    else some []
  let exponent ←
    if body.any isMark then do
      let (negative, digits) := sign power
      let n := number 10 (← ungroup? Char.isDigit digits)
      some (if negative then -(n : Int) else n)
    else some 0
  if !(mantissa.contains '.' || body.any isMark) then none
  else if !negative && overflows (number 10 (whole ++ fraction)) (exponent - fraction.length) then
    none
  else some (.real (String.ofList s))

def special? (s : List Char) : Option Value :=
  let (_, name) := sign s
  if name = ['i', 'n', 'f'] ∨ name = ['n', 'a', 'n'] then some (.real (String.ofList s)) else none

def boolean? (s : List Char) : Option Value :=
  if s = ['t', 'r', 'u', 'e'] then some (.bool true)
  else if s = ['f', 'a', 'l', 's', 'e'] then some (.bool false)
  else none

/-- Two digits for a number from `low` to `high`, and the rest. -/
def twoDigits? (low high : Nat) : List Char → Option (List Char × List Char)
  | a :: b :: rest =>
    let n := number 10 [a, b]
    if a.isDigit && b.isDigit && decide (low ≤ n ∧ n ≤ high) then some ([a, b], rest) else none
  | _ => none

def mark? (c : Char) : List Char → Option (List Char)
  | d :: rest => if c = d then some rest else none
  | [] => none

def monthLength (year month : Nat) : Nat :=
  if month = 2 then
    if year % 4 = 0 ∧ (year % 100 ≠ 0 ∨ year % 400 = 0) then 29 else 28
  else if month = 4 ∨ month = 6 ∨ month = 9 ∨ month = 11 then 30
  else 31

def date? (s : List Char) : Option (List Char × List Char) := do
  let (century, rest) ← twoDigits? 0 99 s
  let (year, rest) ← twoDigits? 0 99 rest
  let (month, rest) ← twoDigits? 1 12 (← mark? '-' rest)
  let longest := monthLength (number 10 (century ++ year)) (number 10 month)
  let (day, rest) ← twoDigits? 1 longest (← mark? '-' rest)
  return (century ++ year ++ '-' :: month ++ '-' :: day, rest)

/-- A fraction of a second to nine places, without zeros at its end. -/
def secondFraction? : List Char → Option (List Char × List Char)
  | '.' :: rest =>
    let digits := rest.takeWhile Char.isDigit
    let kept := ((digits.take 9).reverse.dropWhile (· = '0')).reverse
    if digits.isEmpty then none
    else some (if kept.isEmpty then [] else '.' :: kept, rest.dropWhile Char.isDigit)
  | s => some ([], s)

def time? (s : List Char) : Option (List Char × List Char) := do
  let (hour, rest) ← twoDigits? 0 23 s
  let (minute, rest) ← twoDigits? 0 59 (← mark? ':' rest)
  let (second, rest) ← twoDigits? 0 60 (← mark? ':' rest)
  let (fraction, rest) ← secondFraction? rest
  return (hour ++ ':' :: minute ++ ':' :: second ++ fraction, rest)

/-- An offset from universal time, or none at all. No offset is negative zero. -/
def offset? : List Char → Option (List Char × List Char)
  | [] => some ([], [])
  | c :: rest =>
    if c = 'Z' ∨ c = 'z' then some (['Z'], rest)
    else if c = '+' ∨ c = '-' then do
      let (hour, rest) ← twoDigits? 0 23 rest
      let (minute, rest) ← twoDigits? 0 59 (← mark? ':' rest)
      let zero := number 10 (hour ++ minute) = 0
      return ((if zero then '+' else c) :: hour ++ ':' :: minute, rest)
    else none

def offsetTime? (s : List Char) : Option (List Char) := do
  let (time, rest) ← time? s
  match ← offset? rest with
  | (offset, []) => some (time ++ offset)
  | _ => none

/-- A date, a time or both, in their one normal spelling. -/
def dateTime? (s : List Char) : Option (List Char) :=
  match date? s with
  | some (date, []) => some date
  | some (date, c :: rest) =>
    if c = 'T' ∨ c = 't' then (offsetTime? rest).map fun time => date ++ 'T' :: time else none
  | none =>
    match time? s with
    | some (time, []) => some time
    | _ => none

/-- A point in time is a table with one entry. -/
def moment (spelling : List Char) : Value :=
  .record [("$__toml_private_datetime", .ofString (String.ofList spelling))]

def isScalarChar (c : Char) : Bool :=
  c.isAlphanum || c = '_' || c = '-' || c = '+' || c = '.' || c = ':'

def scalar? (s : List Char) : Option Value :=
  boolean? s <|> special? s <|> (dateTime? s).map moment <|> integer? s <|> float? s

/-- The scalar at the start of `s`. A blank may stand between a date and its time. -/
def scanScalar (s : List Char) : Option (Value × List Char) := do
  let first := s.takeWhile isScalarChar
  let rest := s.dropWhile isScalarChar
  match date? first, rest with
  | some (date, []), ' ' :: later =>
    match offsetTime? (later.takeWhile isScalarChar) with
    | some time => some (moment (date ++ 'T' :: time), later.dropWhile isScalarChar)
    | none => some (moment date, rest)
  | _, _ => return (← scalar? first, rest)

end Bindery.Toml
