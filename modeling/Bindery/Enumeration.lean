import Bindery.Config.Basic
import Bindery.Ident

/-!
# Enumerations

The constants of an enum as they are emitted: aliases that are kept for compatibility are left
out, and of several constants with one value the first gives its name.
-/
namespace Bindery

structure EnumValue where
  name : String
  nativeName : String
  value : Int64
  deriving DecidableEq, Repr

structure Enumeration where
  native : String
  name : String
  isFlag : Bool
  values : List EnumValue
  ignored : Bool
  deriving DecidableEq, Repr

namespace Enumeration

/-- The first constant of each value, other than those that `seen` holds. -/
def distinct (seen : List Int64) : List ConstantDecl → List ConstantDecl
  | [] => []
  | c :: rest =>
    if seen.contains c.value then distinct seen rest
    else c :: distinct (c.value :: seen) rest

/-- A negative value makes the representation a signed one. -/
def isSigned (e : Enumeration) : Bool := e.values.any (·.value < 0)

def representation (e : Enumeration) : String := if e.isSigned then "i32" else "u32"

def valueName (isFlag : Bool) (shortName : String) : String :=
  Ident.escape (if isFlag then Ident.toUpperSnake shortName else Ident.toPascal shortName)

/-- A set of flags has a constant `NONE` of its own, so none is taken from the description. -/
def select (isFlag : Bool) (constants : List ConstantDecl) : List EnumValue :=
  ((distinct [] (constants.filter (!·.auxiliary))).map fun c =>
    { name := valueName isFlag c.shortName, nativeName := c.name, value := c.value }).filter
    fun v => !(isFlag && v.name = "NONE")

end Enumeration

def Description.constantsOf (d : Description) (e : EnumDecl) : Outcome (List ConstantDecl) :=
  e.values.mapM fun name =>
    match d.constants.find? name with
    | some c => .ok c
    | none => .error (.missingConstant e.name name)

/-- A closed enum needs a constant that is left. -/
def Description.enumeration (d : Description) (config : Config) (e : EnumDecl) :
    Outcome Enumeration := do
  let values := Enumeration.select e.isFlag (← d.constantsOf e)
  if !e.isFlag && values.isEmpty then throw (.emptyEnum e.name)
  return { native := e.name, name := Ident.toPascal e.shortName, isFlag := e.isFlag, values,
           ignored := config.isIgnored e.name }

end Bindery
