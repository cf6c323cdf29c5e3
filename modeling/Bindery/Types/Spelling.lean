import Bindery.Types.Query

/-!
# Spellings of types

How a type is written in native signatures, in the fields of layouts and in idiomatic shapes. A
spelling is text up to the lifetime that borrowing types take.
-/
namespace Bindery

/-- The view of a list in a layout, in an input layout and in a shape. -/
inductive ListView where
  | values
  | refs
  | raw
  | shape
  deriving DecidableEq, Repr

inductive Spelling where
  /-- A borrowing type takes the lifetime. -/
  | named (name : String) (borrows : Bool)
  | pointer (isConst : Bool) (target : Spelling)
  | array (item : Spelling) (length : Nat)
  | function (params : List Spelling) (result : Option Spelling)
  | ref (isNullable : Bool) (target : Spelling)
  | list (view : ListView) (item : Spelling)
  deriving Repr

namespace Spelling

def fixed (name : String) : Spelling := .named name false

mutual

/-- The text under a lifetime; the empty one is not written. -/
def text (lifetime : String) : Spelling → String
  | .named name borrows =>
    if borrows && !lifetime.isEmpty then name ++ "<" ++ lifetime ++ ">" else name
  | .pointer isConst target => (if isConst then "*const " else "*mut ") ++ target.text lifetime
  | .array item length => "[" ++ item.text lifetime ++ "; " ++ toString length ++ "]"
  | .function params result =>
    "Option<unsafe extern \"C\" fn(" ++ ", ".intercalate (texts lifetime params) ++ ")" ++
      resultText lifetime result ++ ">"
  | .ref isNullable target =>
    let ref := "Ref<" ++ target.text lifetime ++ ">"
    if isNullable then "Option<" ++ ref ++ ">" else ref
  | .list view item =>
    let item := item.text lifetime
    match view with
    | .values => "List<" ++ item ++ ">"
    | .refs => "RefList<" ++ item ++ ">"
    | .raw => "RawList<" ++ item ++ ">"
    | .shape => "ListOpt<'a, " ++ item ++ ">"

def texts (lifetime : String) : List Spelling → List String
  | [] => []
  | s :: rest => s.text lifetime :: texts lifetime rest

def resultText (lifetime : String) : Option Spelling → String
  | none => ""
  | some s => " -> " ++ s.text lifetime

end

section Text

variable (lifetime : String)

@[simp] theorem text_named (name : String) (borrows : Bool) :
    (named name borrows).text lifetime =
      if borrows && !lifetime.isEmpty then name ++ "<" ++ lifetime ++ ">" else name := rfl

@[simp] theorem text_pointer (isConst : Bool) (target : Spelling) :
    (pointer isConst target).text lifetime =
      (if isConst then "*const " else "*mut ") ++ target.text lifetime := rfl

@[simp] theorem text_array (item : Spelling) (length : Nat) :
    (array item length).text lifetime =
      "[" ++ item.text lifetime ++ "; " ++ toString length ++ "]" := rfl

@[simp] theorem text_function (params : List Spelling) (result : Option Spelling) :
    (function params result).text lifetime =
      "Option<unsafe extern \"C\" fn(" ++ ", ".intercalate (texts lifetime params) ++ ")" ++
        resultText lifetime result ++ ">" := rfl

@[simp] theorem text_ref (isNullable : Bool) (target : Spelling) :
    (ref isNullable target).text lifetime =
      if isNullable then "Option<" ++ ("Ref<" ++ target.text lifetime ++ ">") ++ ">"
      else "Ref<" ++ target.text lifetime ++ ">" := rfl

@[simp] theorem text_list (view : ListView) (item : Spelling) :
    (list view item).text lifetime =
      match view with
      | .values => "List<" ++ item.text lifetime ++ ">"
      | .refs => "RefList<" ++ item.text lifetime ++ ">"
      | .raw => "RawList<" ++ item.text lifetime ++ ">"
      | .shape => "ListOpt<'a, " ++ item.text lifetime ++ ">" := rfl

@[simp] theorem texts_nil : texts lifetime [] = [] := rfl

@[simp] theorem texts_cons (s : Spelling) (rest : List Spelling) :
    texts lifetime (s :: rest) = s.text lifetime :: texts lifetime rest := rfl

@[simp] theorem resultText_none : resultText lifetime none = "" := rfl

@[simp] theorem resultText_some (s : Spelling) :
    resultText lifetime (some s) = " -> " ++ s.text lifetime := rfl

end Text

end Spelling

namespace TypeTable

def named (n : Node) : Spelling := .named n.name n.borrowsRaw

/-- How a type stands in a native signature. -/
def native (t : TypeTable) (id : TypeId) : Spelling :=
  let n := t.node id
  if n.isFunction then
    let f := t.node (t.signature id)
    let result := f.inner.filter fun r => !(t.target r).isVoid
    .function (f.params.map fun p => if p < id then t.native p else .fixed "")
      (result.bind fun r => if r < id then some (t.native r) else none)
  else
    match n.inner with
    | none => named n
    | some inner =>
      if inner < id then
        match n.kind with
        | .pointer => .pointer n.isConst (t.native inner)
        | .array => .array (t.native inner) (n.arrayLength.getD 0).toNat
        | .typedef | .const => t.native inner
        | _ => named n
      else named n
termination_by id

/-- How a type stands in a field of a plain layout. -/
def member (t : TypeTable) (id : TypeId) : Spelling :=
  let n := t.node id
  if n.isFunction then t.native id
  else
    match n.kind, n.inner with
    | .typedef, some inner | .const, some inner =>
      if inner < id then t.member inner else named n
    | .array, some inner =>
      if inner < id then .array (t.member inner) (n.arrayLength.getD 0).toNat else named n
    | .pointer, some inner =>
      if t.isOpaquePointer id then t.native id
      else if inner < id then .ref n.isNullable (t.member inner)
      else named n
    | .struct, _ =>
      if n.isList then
        match n.listItem with
        | some item =>
          if item < id then .list (if n.isRefList then .refs else .values) (t.member item)
          else named n
        | none => .list (if n.isRefList then .refs else .values) (.fixed "")
      else named n
    | _, _ => named n
termination_by id

/-- How a type stands in a field of the layout of a struct that has a shape. -/
def inputMember (t : TypeTable) (id : TypeId) : Spelling :=
  let n := t.node id
  if n.isFunction then t.native id
  else
    match n.kind, n.inner with
    | .typedef, some inner | .const, some inner =>
      if inner < id then t.inputMember inner else named n
    | .array, some inner =>
      if inner < id then .array (t.inputMember inner) (n.arrayLength.getD 0).toNat else named n
    | .pointer, some inner =>
      if t.isOpaquePointer id then t.native id else .ref true (t.member inner)
    | .struct, _ =>
      if n.isString then .fixed "RawString"
      else if n.isBlob then .fixed "RawBlob"
      else if n.isList then
        match n.listItem with
        | some item => if item < id then .list .raw (t.inputMember item) else named n
        | none => .list .raw (.fixed "")
      else named n
    | _, _ => named n
termination_by id

/-- How a type stands in a field of a shape, where the lifetime is that of the caller's memory. -/
def shape (t : TypeTable) (id : TypeId) : Spelling :=
  let n := t.node id
  if n.isFunction then t.native id
  else
    match n.kind, n.inner with
    | .typedef, some inner | .const, some inner =>
      if inner < id then t.shape inner else t.inputMember id
    | .struct, _ =>
      if n.isString then .named "StringOpt" true
      else if n.isBlob then .named "BlobOpt" true
      else if n.isList then
        match n.listItem with
        | some item => if item < id then .list .shape (t.shape item) else t.inputMember id
        | none => .list .shape (.fixed "")
      else if n.isShaped then
        .named n.safeName (n.role = some .callback || n.borrowsSafe)
      else t.inputMember id
    | _, _ => t.inputMember id
termination_by id

def nativeText (t : TypeTable) (id : TypeId) (lifetime : String) : String :=
  (t.native id).text lifetime

def memberText (t : TypeTable) (id : TypeId) (lifetime : String) : String :=
  (t.member id).text lifetime

def inputMemberText (t : TypeTable) (id : TypeId) (lifetime : String) : String :=
  (t.inputMember id).text lifetime

def shapeText (t : TypeTable) (id : TypeId) : String := (t.shape id).text "'a"

end TypeTable

end Bindery
