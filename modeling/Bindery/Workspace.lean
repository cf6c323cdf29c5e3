import Bindery.Error
import Bindery.Path

/-!
# Workspaces

A directory of files as a value. Paths are looked up from its top; nothing outside can be reached.
-/
namespace Bindery

/-- Names from the top of a workspace down. -/
abbrev Location := List String

inductive Entry where
  | file (bytes : List UInt8)
  | directory
  deriving DecidableEq

structure Workspace where
  /-- What has been stored; the directories that lead to an entry are there without one. -/
  entries : List (Location × Entry) := []

namespace Workspace

def entry? (w : Workspace) (l : Location) : Option Entry :=
  match w.entries.lookup l with
  | some entry => some entry
  | none =>
    if l = [] || w.entries.any (fun (stored, _) => l.isPrefixOf stored) then some .directory
    else none

def store (w : Workspace) (location : Location) (entry : Entry) : Workspace :=
  ⟨w.entries.filter (·.1 ≠ location) ++ [(location, entry)]⟩

def location (path : String) : Location := (Path.pieces path).map String.ofList

/-- Follows names from a place that exists. -/
def walk (w : Workspace) : Location → List String → Except FileFault Location
  | here, [] => .ok here
  | here, name :: rest =>
    if w.entry? here ≠ some .directory then .error .notDirectory
    else if name = "" || name = "." then w.walk here rest
    else if name = ".." then
      if here = [] then .error .notFound else w.walk here.dropLast rest
    else if 255 < name.utf8ByteSize then .error .nameTooLong
    else if (w.entry? (here ++ [name])).isNone then .error .notFound
    else w.walk (here ++ [name]) rest

/-- What no look-up gets to. -/
def pathFault? (path : String) : Option FileFault :=
  if path.contains '\x00' then some .nulInName
  else if 4096 ≤ path.utf8ByteSize then some .nameTooLong
  else if path.isEmpty || path.startsWith "/" then some .notFound
  else none

def find (w : Workspace) (path : String) : Except FileFault Location :=
  match pathFault? path with
  | some fault => .error fault
  | none => w.walk [] (location path)

def isFile (w : Workspace) (path : String) : Bool :=
  match w.find path with
  | .ok location =>
    match w.entry? location with
    | some (.file _) => true
    | _ => false
  | .error _ => false

def read (w : Workspace) (path : String) : Except FileFault String := do
  match w.entry? (← w.find path) with
  | some (.file bytes) =>
    match String.fromUTF8? (ByteArray.mk bytes.toArray) with
    | some text => return text
    | none => throw .notText
  | some .directory => throw .isDirectory
  | none => throw .notFound

/-- Replaces a file or makes a new one in a directory that is there. -/
def write (w : Workspace) (path text : String) : Except FileFault Workspace := do
  match pathFault? path with
  | some fault => throw fault
  | none =>
    let names := location path
    let last := names.getLastD ""
    let named := (names.reverse.dropWhile (· = "")).reverse
    let place ← w.walk [] named.dropLast
    if w.entry? place ≠ some .directory then throw .notDirectory
    let name := named.getLastD ""
    if last = "" || name = "." || name = ".." then throw .isDirectory
    if 255 < name.utf8ByteSize then throw .nameTooLong
    if w.entry? (place ++ [name]) = some .directory then throw .isDirectory
    return w.store (place ++ [name]) (.file text.toUTF8.toList)

def changes (w earlier : Workspace) : List (String × List UInt8) :=
  w.entries.filterMap fun (location, entry) =>
    match entry with
    | .directory => none
    | .file bytes =>
      if earlier.entry? location = some (.file bytes) then none
      else some ("/".intercalate location, bytes)

end Workspace

end Bindery
