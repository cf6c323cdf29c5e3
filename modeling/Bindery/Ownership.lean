import Bindery.Types.Resolve

/-!
# Ownership

The structs that functions hand out to be owned, with the functions that retain and free them.
-/
namespace Bindery

structure Root where
  native : String
  typeId : TypeId
  name : String
  /-- The name of the owning handle. -/
  handle : String
  retain : String
  free : String
  deriving DecidableEq, Repr

/-- A struct is named by its native name, or by its short name in any casing. -/
def namesStruct (native pascal name : String) : Bool :=
  native = name || pascal = Ident.toPascal name

def Root.isAllocatedAs (r : Root) (name : String) : Bool := namesStruct r.native r.name name

/-- The struct that is allocated under a name: the one with this key comes first. -/
def Description.allocated? (d : Description) (name : String) : Option StructDecl :=
  d.structs.find? name <|>
    d.structs.values.find? fun s => namesStruct s.name (Ident.toPascal s.shortName) name

namespace Library

def pointsTo (lib : Library) (f : FunctionDecl) (native : String) : Typing Bool :=
  match f.args with
  | [] => return false
  | first :: _ => do
    let type ← lib.resolve first.type
    let t ← get
    return (t.pointee type).any fun p => (t.target p).base = some native

def firstPointingTo (lib : Library) (native : String) : List FunctionDecl → Typing (Option String)
  | [] => return none
  | f :: rest => do
    if ← lib.pointsTo f native then return some f.name
    else lib.firstPointingTo native rest

def lifecycle (lib : Library) (s : StructDecl) (kind : FunctionKind) (what : Lifecycle) :
    Typing String := do
  let functions := lib.description.functions.values.filter (·.kind = kind)
  match ← lib.firstPointingTo s.name functions with
  | some name => return name
  | none => throw (.missingLifecycle s.name what)

def root (lib : Library) (s : StructDecl) : Typing Root := do
  let retain ← lib.lifecycle s .retain .retain
  let free ← lib.lifecycle s .free .free
  let typeId ← lib.resolve s.name
  let name := Ident.toPascal s.shortName
  return { native := s.name, typeId, name, handle := name ++ "Root", retain, free }

/-- The roots with the one that a function allocates, if it allocates any. -/
def addRoot (lib : Library) (roots : List Root) (f : FunctionDecl) : Typing (List Root) :=
  match f.allocType with
  | none => return roots
  | some name =>
    match lib.description.allocated? name with
    | none => throw (.unknownStruct name)
    | some s =>
      if roots.any (·.native = s.name) then return roots
      else return roots ++ [← lib.root s]

/-- All structs that declared functions allocate, in the order of their first such function. -/
def roots (lib : Library) : Typing (List Root) :=
  let functions := (lib.description.declared .function).filterMap lib.description.functions.find?
  functions.foldlM lib.addRoot []

end Library

end Bindery
