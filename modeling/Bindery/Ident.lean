import Bindery.Text

/-!
# Identifiers

Casing conversions and keyword escaping. All case rules are those of ASCII; other characters
stay as they are.
-/
namespace Bindery.Ident

/-- Reserved words, strict and future ones, that cannot stand as plain identifiers. -/
def keywords : List String :=
  ["as", "async", "await", "box", "break", "const", "continue", "crate", "dyn", "else", "enum",
   "extern", "false", "final", "fn", "for", "if", "impl", "in", "let", "loop", "macro", "match",
   "mod", "move", "mut", "override", "priv", "pub", "ref", "return", "self", "Self", "static",
   "struct", "super", "trait", "true", "try", "type", "typeof", "unsafe", "unsized", "use",
   "virtual", "where", "while", "yield", "abstract", "become", "do", "gen"]

def isKeyword (name : String) : Bool := keywords.contains name

/-- The non-empty runs between underscores. -/
def words (name : List Char) : List (List Char) :=
  (Text.splitOn '_' name).filter (!·.isEmpty)

/-- A word without a lower-case letter is folded; any other keeps its inner casing. -/
def capitalize : List Char → List Char
  | [] => []
  | c :: rest =>
    c.toUpper :: if (c :: rest).any Char.isLower then rest else rest.map Char.toLower

def pascalChars (name : List Char) : List Char := (words name).flatMap capitalize

/-- `snake_case` and `UPPER_SNAKE` to `PascalCase`. -/
def toPascal (name : String) : String := String.ofList (pascalChars name.toList)

/-- `fresh` holds while nothing but underscores was written since the last boundary, `hump` after
a lower-case letter or a digit. -/
def upperSnakeChars (fresh hump : Bool) : List Char → List Char
  | [] => []
  | c :: rest =>
    if c = '_' then
      if fresh then upperSnakeChars true false rest else '_' :: upperSnakeChars true false rest
    else if c.isUpper && hump then
      '_' :: c :: upperSnakeChars false false rest
    else
      c.toUpper :: upperSnakeChars false (c.isLower || c.isDigit) rest

/-- `UPPER_SNAKE_CASE`, split at camel humps. -/
def toUpperSnake (name : String) : String := String.ofList (upperSnakeChars true false name.toList)

/-- A keyword gets an underscore behind it, a name that starts with a digit one before it. -/
def escape (name : String) : String :=
  if isKeyword name then name ++ "_"
  else if name.toList.head?.any Char.isDigit then "_" ++ name
  else name

end Bindery.Ident
