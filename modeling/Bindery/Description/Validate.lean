import Bindery.Description.Decode
import Bindery.Error
import Bindery.Json.Parser

/-!
# Loading descriptions

A description is read, its records are named after their keys where they have no name of their
own, and its references from lists to tables are checked.
-/
namespace Bindery

def orElseText (text other : String) : String := if text.isEmpty then other else text

namespace Description

/-- A record without a name takes its key, one without a short name takes its name. -/
def fillNames (d : Description) : Description :=
  { d with
    types := d.types.map fun key t => { t with key := orElseText t.key key }
    structs := d.structs.map fun key s =>
      let name := orElseText s.name key
      { s with name, shortName := orElseText s.shortName name }
    enums := d.enums.map fun key e =>
      let name := orElseText e.name key
      { e with name, shortName := orElseText e.shortName name }
    constants := d.constants.map fun key c =>
      let name := orElseText c.name key
      { c with name, shortName := orElseText c.shortName name }
    functions := d.functions.map fun key f =>
      let name := orElseText f.name key
      { f with name, shortName := orElseText f.shortName name }
    globals := d.globals.map fun key g =>
      let name := orElseText g.name key
      { g with name, shortName := orElseText g.shortName name } }

def isDeclared (d : Description) (declaration : Declaration) : Bool :=
  match declaration.kind with
  | .struct => d.structs.contains declaration.name
  | .enum => d.enums.contains declaration.name
  | .function => d.functions.contains declaration.name
  | .global => d.globals.contains declaration.name

/-- The first broken reference: of the declarations, then of the enums, then of the elements. -/
def fault? (d : Description) : Option Error :=
  let dangling := d.declarations.find? (!d.isDeclared ·)
  let missing := d.enums.values.findSome? fun e =>
    (e.values.find? (!d.constants.contains ·)).map (Error.missingConstant e.name)
  let element := d.elementTypes.find? (!d.structs.contains ·)
  (dangling.map fun x => Error.danglingDeclaration x.kind x.name) <|> missing <|>
    element.map Error.notElement

def validate (d : Description) : Outcome Description :=
  match d.fault? with
  | none => .ok d
  | some e => .error e

def read (text : String) : Outcome Description :=
  match Json.parse? text >>= decode with
  | none => .error .malformedDescription
  | some d => .ok d

def ofValue (v : Value) : Outcome Description :=
  match decode v with
  | none => .error .malformedDescription
  | some d => d.fillNames.validate

def parse (text : String) : Outcome Description :=
  match Json.parse? text with
  | none => .error .malformedDescription
  | some v => ofValue v

def ofBytes (bytes : List UInt8) : Outcome Description :=
  match String.fromUTF8? (ByteArray.mk bytes.toArray) with
  | none => .error (.unreadable .notText)
  | some text => parse text

end Description

end Bindery
