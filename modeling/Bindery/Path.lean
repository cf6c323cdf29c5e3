import Bindery.Text

/-!
# Paths

File paths as text, and the directories above a path. The empty path is where a program runs.
-/
namespace Bindery.Path

def pieces (path : String) : List (List Char) := Text.splitOn '/' path.toList

/-- A piece that leads nowhere else. -/
def isIdle (piece : List Char) : Bool := piece = [] || piece = ['.']

/-- Drops idle pieces; the last one, with which the path starts, stays. -/
def dropIdle : List (List Char) → List (List Char)
  | [] => []
  | [first] => [first]
  | piece :: next :: rest =>
    if isIdle piece then dropIdle (next :: rest) else piece :: next :: rest

def ofReversed (reversed : List (List Char)) : String :=
  match dropIdle reversed with
  | [[]] => "/"
  | kept => String.ofList (List.intercalate ['/'] kept.reverse)

def parentsReversed : List (List Char) → List String
  | [] => []
  | [first] => if first = [] then [] else [""]
  | piece :: next :: rest =>
    let parents := parentsReversed (next :: rest)
    if isIdle piece then parents else ofReversed (next :: rest) :: parents

/-- The directories above a path, the nearest first. -/
def parents (path : String) : List String := parentsReversed (pieces path).reverse

def join (directory name : String) : String :=
  if directory.isEmpty || directory.toList.getLast? = some '/' then directory ++ name
  else directory ++ "/" ++ name

end Bindery.Path
