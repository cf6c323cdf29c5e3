import Bindery.Role

/-!
# Errors

Why a description, a configuration or a file is refused, and the wording of each cause.
-/
namespace Bindery

inductive FileFault where
  | notFound
  | isDirectory
  | notDirectory
  | nameTooLong
  | nulInName
  /-- The bytes are not the UTF-8 form of a text. -/
  | notText
  /-- Any other fault of the system, in its words. -/
  | other (message : String)
  deriving DecidableEq, Repr

inductive ConfigFault where
  | noLink
  | noSignature (callback : String)
  | noField (struct field : String)
  | flagKinds (enum : String)
  | noVariant (enum variant : String)
  deriving DecidableEq, Repr

/-- A part of the configuration that a declaration cannot do without. -/
inductive Override where
  | signature
  | errors
  | panics
  | prelude
  deriving DecidableEq, Repr

inductive Lifecycle where
  | retain
  | free
  | both
  deriving DecidableEq, Repr

inductive CallbackFault where
  | noFunction
  | noUserData
  deriving DecidableEq, Repr

inductive StructFault where
  | noListData
  | listDataNotPointer
  | bufferNotArray (field : String)
  | noBufferLength (field length : String)
  deriving DecidableEq, Repr

inductive MethodFault where
  | noReceiver
  | notPointer
  | notPassable
  | notStruct
  deriving DecidableEq, Repr

inductive Error where
  | malformedDescription
  | malformedConfig
  | unreadable (fault : FileFault)
  | notElement (name : String)
  | danglingDeclaration (kind : DeclKind) (name : String)
  | missingConstant (enum constant : String)
  | unresolvedType (key : String)
  | noInnerType (key : String)
  | noArrayLength (key : String)
  | unknownStruct (name : String)
  | unknownEnum (name : String)
  | unknownPrimitive (key : String)
  | cyclicType (key : String)
  | ambiguousUnion (owner union : String)
  | missingOverride (what : Override) (name : String)
  | conflictingRoles (name : String) (roles : List Role)
  | unpairedArgument (function argument : String)
  | missingLifecycle (name : String) (what : Lifecycle)
  | emptyEnum (name : String)
  | invalidCallback (name : String) (fault : CallbackFault)
  | invalidStruct (name : String) (fault : StructFault)
  | invalidMethod (function : String) (fault : MethodFault)
  | missingDefault (name field : String)
  | invalidConfig (fault : ConfigFault)
  /-- The anonymous members of a struct lead back to a struct that is being expanded. That is no
  refusal: the expansion never comes to an end. -/
  | endless (name : String)
  deriving DecidableEq, Repr

abbrev Outcome (α : Type) := Except Error α

def FileFault.message : FileFault → String
  | notFound => "No such file or directory (os error 2)"
  | isDirectory => "Is a directory (os error 21)"
  | notDirectory => "Not a directory (os error 20)"
  | nameTooLong => "File name too long (os error 36)"
  | nulInName => "file name contained an unexpected NUL byte"
  | notText => "stream did not contain valid UTF-8"
  | other message => message

def ConfigFault.message : ConfigFault → String
  | noLink => "library.link is required"
  | noSignature callback => s!"callbacks.{callback}.signature is empty"
  | noField struct field => s!"'{struct}' has no field '{field}'"
  | flagKinds enum => s!"'{enum}' is a flag set, element kinds need a closed enum"
  | noVariant enum variant => s!"'{enum}' has no variant named '{variant}'"

def Override.text : Override → String
  | signature => "callback signature"
  | errors => "errors record"
  | panics => "panics record"
  | prelude => "prelude module"

def Lifecycle.text : Lifecycle → String
  | retain => "retain"
  | free => "free"
  | both => "retain and free"

def CallbackFault.message : CallbackFault → String
  | noFunction => "no function pointer field"
  | noUserData => "no user data pointer field"

def StructFault.message : StructFault → String
  | noListData => "list has no data field"
  | listDataNotPointer => "list data field is not a pointer"
  | bufferNotArray field => s!"inline buffer '{field}' is not an array"
  | noBufferLength field length => s!"inline buffer '{field}' has no length field '{length}'"

def MethodFault.message : MethodFault → String
  | noReceiver => "self_index does not name an argument"
  | notPointer => "receiver is not a pointer"
  | notPassable => "receiver must be a pointer or a value"
  | notStruct => "receiver is not a struct"

namespace Error

def message : Error → String
  | malformedDescription => "JSON parse error"
  | malformedConfig => "TOML parse error"
  | unreadable fault => s!"I/O error: {fault.message}"
  | notElement name => s!"invalid interface description: element type '{name}' is not a struct"
  | danglingDeclaration kind name => s!"declaration '{name}' refers to a missing {kind.label}"
  | missingConstant enum constant => s!"enum '{enum}' lists unknown value '{constant}'"
  | unresolvedType key => s!"unresolved type '{key}'"
  | noInnerType key => s!"unresolved type '{key} (no inner type)'"
  | noArrayLength key => s!"unresolved type '{key} (array without length)'"
  | unknownStruct name => s!"unknown struct '{name}'"
  | unknownEnum name => s!"unknown enum '{name}'"
  | unknownPrimitive key => s!"no mapping for primitive type '{key}'"
  | cyclicType key => s!"type '{key}' is defined in terms of itself"
  | ambiguousUnion owner union => s!"cannot choose an alternative for union '{union}' in '{owner}'"
  | missingOverride what name => s!"missing configuration for {what.text} '{name}'"
  | conflictingRoles name roles =>
    s!"struct '{name}' has conflicting roles: " ++ " + ".intercalate (roles.map Role.label)
  | unpairedArgument function argument =>
    s!"argument '{argument}' of '{function}' is not paired with a length"
  | missingLifecycle name what => s!"'{name}' is allocated but has no {what.text} function"
  | emptyEnum name => s!"enum '{name}' has no variants"
  | invalidCallback name fault => s!"callback struct '{name}' is malformed: {fault.message}"
  | invalidStruct name fault => s!"struct '{name}' is malformed: {fault.message}"
  | invalidMethod function fault => s!"function '{function}' cannot be a method: {fault.message}"
  | missingDefault name field => s!"field '{field}' of '{name}' has no default value"
  | invalidConfig fault => s!"invalid configuration: {fault.message}"
  | endless name => s!"the members of '{name}' have no end"

end Error

/-- At most one flag may name a role; a struct without one is plain. -/
def StructDecl.role (s : StructDecl) : Outcome Role :=
  match s.roles with
  | [] => .ok .plain
  | [role] => .ok role
  | roles => .error (.conflictingRoles s.name roles)

end Bindery
