import Bindery.Config.Basic
import Bindery.Ident
import Bindery.Types.Query

/-!
# Resolving types

A key is resolved once, after all that it refers to. Fields of a struct are no references of its
type, so structs may hold pointers to themselves; any other way back to a key is an error.
-/
namespace Bindery

/-- A description with the configuration that it is bound under. -/
structure Library where
  description : Description
  config : Config

/-- Steps on a type table. Nodes that are made before an error stay in it. -/
abbrev Typing := ExceptT Error (StateM TypeTable)

def liftOutcome (r : Outcome α) : Typing α := liftExcept r

def builtinPrimitives : List (String × String) :=
  [("void", "c_void"), ("char", "u8"), ("bool", "bool"), ("_Bool", "bool"), ("int8_t", "i8"),
   ("uint8_t", "u8"), ("int16_t", "i16"), ("uint16_t", "u16"), ("int32_t", "i32"),
   ("uint32_t", "u32"), ("int64_t", "i64"), ("uint64_t", "u64"), ("int", "i32"),
   ("unsigned", "u32"), ("float", "f32"), ("double", "f64"), ("size_t", "usize"),
   ("ptrdiff_t", "isize"), ("intptr_t", "isize"), ("uintptr_t", "usize")]

namespace Library

/-- The spelling of a primitive type; the configuration comes before what is built in. -/
def primitive? (lib : Library) (key : String) : Option String :=
  lib.config.types.primitives.find? key <|> builtinPrimitives.lookup key

def structNode (lib : Library) (n : Node) (s : StructDecl) (role : Role) : Node :=
  let pascal := Ident.toPascal s.shortName
  { n with
    base := some s.name
    role := some role
    name := if role.hasShape then "Raw" ++ pascal else pascal
    safeName := pascal
    isRaw := role.hasShape
    isString := lib.config.isString s.name
    isBlob := lib.config.isBlob s.name }

/-- The items of a list are what its data field points to, or what those point to in turn. -/
def listNode (n : Node) (t : TypeTable) (pointee : TypeId) : Node :=
  match t.pointee pointee with
  | some item => { n with isList := true, isRefList := true, listItem := some item }
  | none => { n with isList := true, listItem := some pointee }

section ListNode

variable (n : Node) (t : TypeTable) (pointee : TypeId)

@[simp] theorem listNode_key : (listNode n t pointee).key = n.key := by
  simp only [listNode]
  split <;> rfl

@[simp] theorem listNode_kind : (listNode n t pointee).kind = n.kind := by
  simp only [listNode]
  split <;> rfl

@[simp] theorem listNode_inner : (listNode n t pointee).inner = n.inner := by
  simp only [listNode]
  split <;> rfl

@[simp] theorem listNode_params : (listNode n t pointee).params = n.params := by
  simp only [listNode]
  split <;> rfl

end ListNode

/-- The node of a described type; `resolve` yields the types that it refers to. -/
def buildNode (lib : Library) (resolve : String → Typing TypeId) (key : String)
    (ty : TypeDecl) : Typing Node := do
  let n : Node :=
    { key, kind := ty.kind, isConst := ty.isConst, isNullable := ty.isNullable,
      arrayLength := ty.arrayLength }
  match lib.primitive? key with
  | some name =>
    return { n with kind := .primitive, isVoid := key = "void", name, safeName := name }
  | none =>
    match ty.kind with
    | .primitive => throw (.unknownPrimitive key)
    | .pointer | .array | .typedef | .const =>
      match ty.inner with
      | none => throw (.noInnerType key)
      | some innerKey =>
        let inner ← resolve innerKey
        if ty.kind = .array ∧ ty.arrayLength = none then throw (.noArrayLength key)
        return n.wrapping inner ((← get).node inner)
    | .function =>
      let result ← resolve (ty.inner.getD "void")
      let params ← ty.params.mapM fun p => resolve p.type
      return { n with inner := some result, params, isFunction := true }
    | .struct =>
      let base := ty.baseName.getD key
      match lib.description.structs.find? base with
      | none => throw (.unknownStruct base)
      | some s =>
        let role ← liftOutcome s.role
        let n := lib.structNode n s role
        if role ≠ .list then return n
        match s.fields with
        | [] => throw (.invalidStruct s.name .noListData)
        | first :: _ =>
          let data ← resolve first.type
          match (← get).pointee data with
          | none => throw (.invalidStruct s.name .listDataNotPointer)
          | some pointee => return listNode n (← get) pointee
    | .enum =>
      let base := ty.baseName.getD key
      match lib.description.enums.find? base with
      | none => throw (.unknownEnum base)
      | some e =>
        let name := Ident.toPascal e.shortName
        return { n with base := some e.name, name, safeName := name }

/-- Resolves a key while the keys in `active` wait for it. -/
def resolveIn (lib : Library) (active : List String) (key : String) : Typing TypeId := do
  match (← get).find? key with
  | some id => return id
  | none =>
    if _fresh : key ∈ active then throw (.cyclicType key)
    else
      match _found : lib.description.types.find? key with
      | none => throw (.unresolvedType key)
      | some ty =>
        let n ← lib.buildNode (fun k => lib.resolveIn (key :: active) k) key ty
        modifyGet fun t => (t.size, t.push n)
termination_by (lib.description.types.pending active).length
decreasing_by exact Table.pending_lt (Table.mem_keys_of_find? _found) _fresh

/-- The position of the node of a key, which is made on its first use. -/
def resolve (lib : Library) (key : String) : Typing TypeId := lib.resolveIn [] key

end Library

end Bindery
