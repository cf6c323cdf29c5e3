import Bindery.Error
import Bindery.Text

/-!
# Configurations

What a description cannot say: the name to link, overrides of types and functions, signatures of
callbacks, and the fields of the error, panic and element records.
-/
namespace Bindery

structure CallbackConfig where
  /-- The signature of a closure, without the name of its trait. -/
  signature : String
  /-- The function behind the native pointer; by default it is named after the struct. -/
  trampoline : Option String := none
  deriving DecidableEq, Repr

structure ErrorsConfig where
  record : String
  /-- An expression over the fields of the record that holds on failure. -/
  failure : String
  deriving DecidableEq, Repr

structure PanicsConfig where
  record : String
  flag : String := "did_panic"
  message : String := "message"
  deriving DecidableEq, Repr

structure ElementsConfig where
  /-- The struct that every element starts with. -/
  base : String
  /-- The field of the base struct that holds the kind. -/
  discriminant : String := "type"
  kindEnum : String
  deriving DecidableEq, Repr

structure TypesConfig where
  /-- Type names for keys of primitive types, beside those that are built in. -/
  primitives : Table String := {}
  string : Option String := none
  blob : Option String := none
  ignore : List String := []
  defaultDerive : List String := []
  rawLifetime : List String := []
  deriving DecidableEq, Repr

structure Config where
  link : String
  preludeModule : Option String := none
  preludeImports : List String := []
  types : TypesConfig := {}
  rawOnly : List String := []
  callbacks : Table CallbackConfig := {}
  errors : Option ErrorsConfig := none
  panics : Option PanicsConfig := none
  elements : Option ElementsConfig := none
  deriving DecidableEq, Repr

namespace Config

def isIgnored (c : Config) (name : String) : Bool := c.types.ignore.contains name

def isRawOnly (c : Config) (function : String) : Bool := c.rawOnly.contains function

def wantsDefault (c : Config) (name : String) : Bool := c.types.defaultDerive.contains name

def hasRawLifetime (c : Config) (name : String) : Bool := c.types.rawLifetime.contains name

def isString (c : Config) (name : String) : Bool := c.types.string = some name

def isBlob (c : Config) (name : String) : Bool := c.types.blob = some name

/-- The link name has to be given, and so has every signature. -/
def fault? (c : Config) : Option ConfigFault :=
  if c.link.isEmpty then some .noLink
  else
    (c.callbacks.entries.find? fun e => (Text.trim e.2.signature.toList).isEmpty).map
      fun e => .noSignature e.1

def validate (c : Config) : Outcome Config :=
  match c.fault? with
  | none => .ok c
  | some fault => .error (.invalidConfig fault)

end Config

end Bindery
