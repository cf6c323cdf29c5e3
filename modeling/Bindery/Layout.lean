import Bindery.Members
import Bindery.Types.Resolve

/-!
# Layouts

A native struct as the generated code declares it: its fields, its default value and, for a
callback, the slots that a closure fills.
-/
namespace Bindery

structure LayoutField where
  name : String
  nativeName : String
  type : TypeId
  isPublic : Bool
  isPrivate : Bool
  /-- The field that holds the used length of this inline buffer. -/
  inlineLength : Option String
  deriving DecidableEq, Repr

inductive Initializer where
  | absent
  | null
  | nullMut
  | standard
  | zeroed
  deriving DecidableEq, Repr

def Initializer.text : Initializer → String
  | absent => "None"
  | null => "ptr::null()"
  | nullMut => "ptr::null_mut()"
  | standard => "Default::default()"
  | zeroed => "unsafe \x7b mem::zeroed() \x7d"

inductive DefaultImpl where
  | none
  | derive
  /-- One initializer a field. -/
  | manual (initializers : List Initializer)
  deriving DecidableEq, Repr

structure CallbackSlots where
  functionField : String
  functionType : TypeId
  userField : String
  signature : String
  trampoline : String
  deriving DecidableEq, Repr

structure Layout where
  native : String
  name : String
  safeName : String
  role : Role
  typeId : TypeId
  fields : List LayoutField
  isPod : Bool
  ignored : Bool
  default : DefaultImpl
  indexType : Option TypeId
  callback : Option CallbackSlots
  deriving DecidableEq, Repr

namespace Layout

def field? (m : Layout) (nativeName : String) : Option LayoutField :=
  m.fields.find? (·.nativeName = nativeName)

/-- Arrays that are longer have no default value. -/
def longestDefaultArray : Nat := 32

end Layout

namespace Library

def hasDefault (lib : Library) (n : Node) : Bool :=
  n.isList || n.isString || n.isBlob || n.isShaped ||
    n.base.any fun base =>
      lib.config.wantsDefault base || (lib.description.structs.find? base).any (·.isPod)

/-- How a field is initialized in a struct of a role, if it can be. -/
def initializer? (lib : Library) (t : TypeTable) (role : Role) (id : TypeId) :
    Option Initializer :=
  let n := t.target id
  if n.isFunction then some .absent
  else
    match n.kind with
    | .pointer =>
      if t.isOpaquePointer id then some (if n.isConst then .null else .nullMut)
      else if role.hasShape || n.isNullable then some .standard
      else none
    | .array =>
      match n.inner with
      | none => none
      | some inner =>
        if inner < id then
          match lib.initializer? t role inner with
          | none => none
          | some item =>
            if Layout.longestDefaultArray < (n.arrayLength.getD 0).toNat ∨ item ≠ .standard then
              some .zeroed
            else some .standard
        else none
    | .struct => some (if lib.hasDefault n then .standard else .zeroed)
    | _ => some .standard
termination_by id

/-- Callbacks and interfaces always get a written default; other structs get one if it is wanted,
derived where every field has the standard one. -/
def defaultImpl (lib : Library) (t : TypeTable) (s : StructDecl) (role : Role)
    (fields : List LayoutField) : Outcome DefaultImpl :=
  let always := role = .callback || role = .interface
  let wanted := s.isPod || role = .input || lib.config.wantsDefault s.name
  if !always && !wanted then .ok .none
  else do
    let initializers ← fields.mapM fun f =>
      match lib.initializer? t role f.type with
      | some i => .ok i
      | none => .error (.missingDefault s.name f.nativeName)
    return if !always && initializers.all (· = .standard) then .derive else .manual initializers

/-- The first function pointer and the first pointer to nothing that is described. -/
def callbackSlots (lib : Library) (t : TypeTable) (s : StructDecl) (fields : List LayoutField) :
    Outcome CallbackSlots :=
  match fields.find? fun f => (t.node f.type).isFunction with
  | none => .error (.invalidCallback s.name .noFunction)
  | some slot =>
    match fields.find? fun f => !(t.node f.type).isFunction && t.isOpaquePointer f.type with
    | none => .error (.invalidCallback s.name .noUserData)
    | some user =>
      match lib.config.callbacks.find? s.name with
      | none => .error (.missingOverride .signature s.name)
      | some c => .ok {
          functionField := slot.name
          functionType := slot.type
          userField := user.name
          signature := c.signature
          trampoline := c.trampoline.getD ("call_" ++ s.shortName) }

/-- An inline buffer is an array with a named sibling for its length. -/
def checkInline (t : TypeTable) (s : StructDecl) (siblings : List FieldDecl) (field : FieldDecl)
    (type : TypeId) : Outcome Unit :=
  match field.inlineLength with
  | none => .ok ()
  | some length =>
    if (t.target type).kind ≠ .array then
      .error (.invalidStruct s.name (.bufferNotArray field.name))
    else if siblings.any (·.name = length) then .ok ()
    else .error (.invalidStruct s.name (.noBufferLength field.name length))

def layoutField (lib : Library) (s : StructDecl) (role : Role) (siblings : List FieldDecl)
    (field : FieldDecl) : Typing LayoutField := do
  let type ← lib.resolve field.type
  liftOutcome (checkInline (← get) s siblings field type)
  return {
    name := Ident.escape field.name
    nativeName := field.name
    type
    isPublic := field.inlineLength.isNone && (!field.isPrivate || role.hasShape)
    isPrivate := field.isPrivate
    inlineLength := field.inlineLength.map Ident.escape }

def layout (lib : Library) (s : StructDecl) : Typing Layout := do
  let typeId ← lib.resolve s.name
  let role ← liftOutcome s.role
  let n := (← get).node typeId
  let members ← liftOutcome (lib.description.flatten s s.fields)
  let fields ← members.mapM (lib.layoutField s role members)
  let indexType ← s.indexType.mapM lib.resolve
  let callback ←
    if role = .callback then some <$> liftOutcome (lib.callbackSlots (← get) s fields)
    else pure none
  let default ← liftOutcome (lib.defaultImpl (← get) s role fields)
  return { native := s.name, name := n.name, safeName := n.safeName, role, typeId, fields,
           isPod := s.isPod, ignored := lib.config.isIgnored s.name, default, indexType, callback }

end Library

end Bindery
