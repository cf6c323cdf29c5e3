import Bindery.Table

/-!
# Interface descriptions

A native library as tables of named records: its types, structs, enums, functions and globals,
with an ordered list of what is declared.
-/
namespace Bindery

inductive TypeKind where
  | primitive
  | pointer
  | array
  | struct
  | enum
  | function
  | typedef
  | const
  deriving DecidableEq, Repr

namespace TypeKind

def label : TypeKind → String
  | primitive => "primitive"
  | pointer => "pointer"
  | array => "array"
  | struct => "struct"
  | enum => "enum"
  | function => "function"
  | typedef => "typedef"
  | const => "const"

def all : List TypeKind := [primitive, pointer, array, struct, enum, function, typedef, const]

end TypeKind

structure ParamDecl where
  name : String := ""
  type : String
  deriving DecidableEq, Repr

/-- A type under its key, which is how it is spelled. -/
structure TypeDecl where
  key : String := ""
  kind : TypeKind
  isConst : Bool := false
  isNullable : Bool := false
  /-- The key of what a pointer, array, typedef or const wraps, and of what a function returns. -/
  inner : Option String := none
  arrayLength : Option UInt64 := none
  /-- The name of the struct or enum that the type refers to. -/
  baseName : Option String := none
  params : List ParamDecl := []
  deriving DecidableEq, Repr

/-- An anonymous member has the empty name. -/
structure FieldDecl where
  name : String := ""
  type : String
  isPrivate : Bool := false
  /-- The alternative that fixes the size of its union. -/
  unionSized : Bool := false
  unionPreferred : Bool := false
  /-- The sibling that holds the used length of this inline buffer. -/
  inlineLength : Option String := none
  deriving DecidableEq, Repr

structure StructDecl where
  name : String := ""
  shortName : String := ""
  fields : List FieldDecl := []
  isInput : Bool := false
  isCallback : Bool := false
  isInterface : Bool := false
  isList : Bool := false
  /-- Plain data, safe to copy and to compare. -/
  isPod : Bool := false
  isUnion : Bool := false
  /-- What a struct of values and indices yields for an index. -/
  indexType : Option String := none
  deriving DecidableEq, Repr

structure EnumDecl where
  name : String := ""
  shortName : String := ""
  /-- Keys of the constants, in order. -/
  values : List String := []
  /-- A set of flags and not a closed list of cases. -/
  isFlag : Bool := false
  deriving DecidableEq, Repr

structure ConstantDecl where
  name : String := ""
  shortName : String := ""
  value : Int64
  /-- An alias that is kept for compatibility only. -/
  auxiliary : Bool := false
  deriving DecidableEq, Repr

inductive FunctionKind where
  | normal
  | retain
  | free
  deriving DecidableEq, Repr

namespace FunctionKind

def label : FunctionKind → String
  | normal => "normal"
  | retain => "retain"
  | free => "free"

def all : List FunctionKind := [normal, retain, free]

end FunctionKind

/-- How an argument is marshalled. -/
inductive ArgTag where
  | normal
  | stringPointer
  | stringLength
  | arrayPointer
  | arrayLength
  | blobPointer
  | blobSize
  | error
  | panic
  deriving DecidableEq, Repr

namespace ArgTag

def label : ArgTag → String
  | normal => "normal"
  | stringPointer => "stringPointer"
  | stringLength => "stringLength"
  | arrayPointer => "arrayPointer"
  | arrayLength => "arrayLength"
  | blobPointer => "blobPointer"
  | blobSize => "blobSize"
  | error => "error"
  | panic => "panic"

def all : List ArgTag :=
  [normal, stringPointer, stringLength, arrayPointer, arrayLength, blobPointer, blobSize, error,
   panic]

end ArgTag

structure ArgDecl where
  name : String
  type : String
  tag : ArgTag := .normal
  /-- The result borrows from this argument. -/
  returnRef : Bool := false
  deriving DecidableEq, Repr

structure FunctionDecl where
  name : String := ""
  shortName : String := ""
  args : List ArgDecl := []
  returnType : String := "void"
  /-- The struct whose ownership goes to the caller with the result. -/
  allocType : Option String := none
  kind : FunctionKind := .normal
  /-- A helper without a symbol to link. -/
  isInline : Bool := false
  /-- A helper that exists for other bindings only. -/
  isFfi : Bool := false
  /-- The position of the receiver. -/
  selfIndex : Option UInt64 := none
  methodName : Option String := none
  deriving DecidableEq, Repr

namespace FunctionDecl

def hasError (f : FunctionDecl) : Bool := f.args.any (·.tag = .error)

def hasPanic (f : FunctionDecl) : Bool := f.args.any (·.tag = .panic)

end FunctionDecl

structure GlobalDecl where
  name : String := ""
  shortName : String := ""
  type : String
  deriving DecidableEq, Repr

inductive DeclKind where
  | struct
  | enum
  | function
  | global
  deriving DecidableEq, Repr

namespace DeclKind

def label : DeclKind → String
  | struct => "struct"
  | enum => "enum"
  | function => "function"
  | global => "global"

def all : List DeclKind := [struct, enum, function, global]

end DeclKind

structure Declaration where
  kind : DeclKind
  name : String
  deriving DecidableEq, Repr

structure Description where
  types : Table TypeDecl := {}
  structs : Table StructDecl := {}
  enums : Table EnumDecl := {}
  constants : Table ConstantDecl := {}
  functions : Table FunctionDecl := {}
  globals : Table GlobalDecl := {}
  /-- What is emitted, in this order. -/
  declarations : List Declaration := []
  /-- The structs with discriminated access, in the order of their discriminants. -/
  elementTypes : List String := []
  deriving DecidableEq, Repr

namespace Description

def declared (d : Description) (kind : DeclKind) : List String :=
  (d.declarations.filter (·.kind = kind)).map (·.name)

end Description

end Bindery
