import Bindery.Item.Layout

/-!
# Functions in the output

An entry point calls the native function, over raw shapes where there are any; beside it stands
one that lowers idiomatic shapes first.
-/
namespace Bindery

structure Signature where
  params : List (String × String)
  result : Option String

namespace Signature

/-- The signature takes a lifetime if a parameter or the result uses it. -/
def borrows (s : Signature) : Bool :=
  s.params.any (fun p => usesLifetime p.2) || s.result.any usesLifetime

def header (s : Signature) (start name : String) (params : List String) : String :=
  start ++ " " ++ name ++ (if s.borrows then "<'a>" else "") ++ "(" ++ ", ".intercalate params ++
    ")" ++ match s.result with
      | none => ""
      | some r => " -> " ++ r

def paramTexts (s : Signature) : List String := s.params.map fun p => p.1 ++ ": " ++ p.2

end Signature

inductive CallArg where
  | text (name : String) (isConst : Bool)
  | slice (name : String) (isConst : Bool)
  | blob (name : String) (isConst : Bool)
  /-- A length, converted to a type other than that of lengths. -/
  | length (name : String) (type : Option String)
  | pointer (name : String) (isConst isNullable : Bool) (member native : Spelling)
  | error
  | panic
  | direct (name : String)

/-- The record that is checked after a call, under its type. -/
structure PanicCheck where
  type : String
  flag : String
  message : String

structure ErrorCheck where
  type : String
  failure : String

structure NativeCall where
  library : String
  wrapper : String
  native : String
  args : List CallArg
  panic : Option PanicCheck
  error : Option ErrorCheck
  fallible : Bool
  returnShape : ReturnShape

/-- An argument that is passed on, or lowered under a name of its own and passed in its place. -/
inductive ForwardArg where
  | same (name : String)
  | lowered (name : String) (exclusive isPointer isNullable : Bool)

structure LoweringCall where
  wrapper : String
  args : List ForwardArg

inductive FunctionItem where
  | safe (name : String) (signature : Signature) (call : NativeCall)
  | raw (name : String) (signature : Signature) (call : NativeCall)
  | lowering (name : String) (signature : Signature) (call : LoweringCall)

/-- The records that the configuration names, as they are used in the bodies of functions. -/
structure Records where
  error : Option ErrorCheck
  panic : Option PanicCheck

namespace Analysis

/-- The type of a parameter; `shaped` says whether it is in its idiomatic form. -/
def paramType (a : Analysis) (arg : WrapperArg) (safe : Bool) (lifetime : String) : String :=
  let t := a.types
  let reference := if lifetime.isEmpty then "&" else "&" ++ lifetime ++ " "
  let mutability := if arg.isConst then "" else "mut "
  let shaped := safe && arg.isRaw
  match arg.kind with
  | .string => reference ++ "str"
  | .blob => reference ++ mutability ++ "[u8]"
  | .slice =>
    reference ++ mutability ++ "[" ++
      (match arg.item with
        | none => ""
        | some item => t.nativeText item "'_") ++ "]"
  | .pointer =>
    match t.pointee arg.type with
    | none => t.nativeText arg.type "'_"
    | some p =>
      if shaped then t.shapeText p
      else
        let target := reference ++ mutability ++
          t.memberText p (if lifetime.isEmpty then "'_" else lifetime)
        if arg.isNullable then "Option<" ++ target ++ ">" else target
  | .callback =>
    if shaped then t.shapeText arg.type else t.inputMemberText arg.type "'_"
  | .plain => if shaped then t.shapeText arg.type else t.memberText arg.type "'_"
  | .errorOut | .panicOut => t.memberText arg.type "'_"

def returnType (a : Analysis) (w : Wrapper) : Option String :=
  let value := match w.returnShape with
    | .void => none
    | .value => some (a.types.memberText w.result "'static")
    | .raw => some (a.types.nativeText w.result "'static")
    | .root handle => some (if w.fallible then handle else "Option<" ++ handle ++ ">")
    | .ref isNullable =>
      let target := match a.types.pointee w.result with
        | none => "&'a "
        | some p => "&'a " ++ a.types.memberText p "'a"
      some (if isNullable then "Option<" ++ target ++ ">" else target)
  if w.fallible then some ("Result<" ++ value.getD "()" ++ ">") else value

/-- A borrowed result takes its lifetime from the arguments that are marked for it, or from all
references if none is. -/
def signature (a : Analysis) (w : Wrapper) (safe : Bool) : Signature :=
  let borrowed := match w.returnShape with
    | .ref _ => true
    | _ => false
  let marked := w.visibleArgs.any (·.returnRef)
  { params := w.visibleArgs.map fun arg =>
      (arg.name,
        a.paramType arg safe (if borrowed && (!marked || arg.returnRef) then "'a" else ""))
    result := a.returnType w }

def lengthArg (a : Analysis) (arg : WrapperArg) : CallArg :=
  .length arg.name <| arg.lengthType.bind fun type =>
    let name := (a.types.target type).name
    if name = "usize" then none else some name

def callArgs (a : Analysis) (arg : WrapperArg) : List CallArg :=
  match arg.kind with
  | .string => [.text arg.name arg.isConst, a.lengthArg arg]
  | .slice => [.slice arg.name arg.isConst, a.lengthArg arg]
  | .blob => [.blob arg.name arg.isConst, a.lengthArg arg]
  | .pointer =>
    match a.types.pointee arg.type with
    | none => [.direct arg.name]
    | some p => [.pointer arg.name arg.isConst arg.isNullable (a.types.member p) (a.types.native p)]
  | .errorOut => [.error]
  | .panicOut => [.panic]
  | .plain | .callback => [.direct arg.name]

def recordLayout (a : Analysis) (name : String) : Outcome Layout :=
  match a.layout? name with
  | some m => .ok m
  | none => .error (.unknownStruct name)

def errorCheck (a : Analysis) (c : ErrorsConfig) : Outcome ErrorCheck := do
  let m ← a.recordLayout c.record
  return { type := m.name, failure := c.failure }

/-- The message of a panic is read from its record, as a text if it is an inline buffer. -/
def panicCheck (a : Analysis) (c : PanicsConfig) : Outcome PanicCheck := do
  let m ← a.recordLayout c.record
  match m.field? c.message with
  | none => throw (.invalidConfig (.noField m.native c.message))
  | some f =>
    return { type := m.name, flag := Ident.escape c.flag,
             message := "panic." ++ f.name ++ if f.inlineLength.isSome then "()" else "" }

def records (a : Analysis) : Outcome Records := do
  let error ← a.library.config.errors.mapM a.errorCheck
  let panic ← a.library.config.panics.mapM a.panicCheck
  return { error, panic }

def nativeCall (a : Analysis) (records : Records) (w : Wrapper) : NativeCall where
  library := a.library.config.link
  wrapper := w.name
  native := w.native
  args := w.args.flatMap a.callArgs
  panic := if w.hasPanic then records.panic else none
  error := if w.fallible then records.error else none
  fallible := w.fallible
  returnShape := w.returnShape

def forwardArg (arg : WrapperArg) : ForwardArg :=
  if arg.isRaw then
    let isPointer := arg.kind = .pointer
    .lowered arg.name (isPointer && !arg.isConst) isPointer arg.isNullable
  else .same arg.name

def functionItems (a : Analysis) (records : Records) (w : Wrapper) : List FunctionItem :=
  if !w.exposed then []
  else if w.isRaw then
    .raw w.name (a.signature w false) (a.nativeCall records w) ::
      if w.rawOnly then []
      else [.lowering w.name (a.signature w true)
        { wrapper := w.name, args := w.visibleArgs.map forwardArg }]
  else [.safe w.name (a.signature w true) (a.nativeCall records w)]

end Analysis

namespace CallArg

/-- A nullable reference maps to a pointer or null; any other converts by itself, in two steps
where the native spelling differs. -/
def pointerText (name : String) (isConst isNullable : Bool) (member target : String) : String :=
  let kind := if isConst then "*const " else "*mut "
  let cast := " as " ++ kind ++ member ++ if member = target then "" else " as " ++ kind ++ target
  if isNullable then
    name ++ ".map_or(" ++ (if isConst then "ptr::null()" else "ptr::null_mut()") ++ ", |r| r" ++
      cast ++ ")"
  else if member = target then name
  else name ++ cast

def render : CallArg → String
  | .text name isConst => name ++ ".as_ptr()" ++ if isConst then "" else " as *mut u8"
  | .slice name isConst => name ++ if isConst then ".as_ptr()" else ".as_mut_ptr()"
  | .blob name isConst =>
    name ++ if isConst then ".as_ptr() as *const c_void" else ".as_mut_ptr() as *mut c_void"
  | .length name none => name ++ ".len()"
  | .length name (some type) => name ++ ".len() as " ++ type
  | .pointer name isConst isNullable member native =>
    pointerText name isConst isNullable (member.text "'_") (native.text "'_")
  | .error => "&mut error"
  | .panic => "&mut panic"
  | .direct name => name

end CallArg

namespace NativeCall

def tail (c : NativeCall) : Option String :=
  let value (text : String) := some (if c.fallible then "Ok(" ++ text ++ ")" else text)
  match c.returnShape with
  | .void => if c.fallible then some "Ok(())" else none
  | .value | .raw => value "result"
  | .root handle =>
    let owned := "unsafe \x7b " ++ handle ++ "::from_raw(result) \x7d"
    some (if c.fallible then owned ++ ".ok_or(error)" else owned)
  | .ref true => value "unsafe \x7b result.as_ref() \x7d"
  | .ref false => value "unsafe \x7b &*result \x7d"

def zeroed (name type : String) : Step :=
  .line ("let mut " ++ name ++ ": " ++ type ++ " = " ++ Initializer.zeroed.text ++ ";")

def steps (c : NativeCall) : List Step :=
  let call := "unsafe \x7b " ++ c.native ++ "(" ++ ", ".intercalate (c.args.map CallArg.render) ++
    ") \x7d"
  (match c.panic with
    | none => []
    | some p => [zeroed "panic" p.type]) ++
  (match c.error with
    | none => []
    | some e => [zeroed "error" e.type]) ++
  [.line (if c.returnShape = .void then call ++ ";" else "let result = " ++ call ++ ";")] ++
  (match c.panic with
    | none => []
    | some p => [.braces ("if panic." ++ p.flag)
        [.line ("panic!(\"" ++ c.library ++ "::" ++ c.wrapper ++ "() \x7b\x7d\", " ++ p.message ++
          ");")]]) ++
  (match c.error with
    | none => []
    | some e => [.braces ("if error." ++ e.failure) [.line "return Err(error);"]]) ++
  (match c.tail with
    | none => []
    | some text => [.line text])

end NativeCall

namespace ForwardArg

def steps : ForwardArg → List Step
  | .same _ => []
  | .lowered name exclusive _ _ =>
    [.line ("let mut " ++ name ++ "_mut = " ++ name ++ ";"),
     .line ("let " ++ (if exclusive then "mut " else "") ++ name ++ "_raw = " ++ name ++
      "_mut.lower_mut(&mut arena);")]

def text : ForwardArg → String
  | .same name => name
  | .lowered name exclusive isPointer isNullable =>
    let reference := "&" ++ (if exclusive then "mut " else "") ++ name ++ "_raw"
    if !isPointer then name ++ "_raw"
    else if isNullable then "Some(" ++ reference ++ ")"
    else reference

def isLowered : ForwardArg → Bool
  | .same _ => false
  | .lowered .. => true

end ForwardArg

def LoweringCall.steps (c : LoweringCall) (lowers : Bool) : List Step :=
  (if lowers then [.line "let mut arena = Arena::new();"] else []) ++
    c.args.flatMap ForwardArg.steps ++
    [.line ("unsafe \x7b " ++ c.wrapper ++ "_raw(" ++
      ", ".intercalate (c.args.map ForwardArg.text) ++ ") \x7d")]

def FunctionItem.steps : FunctionItem → List Step
  | .safe name s call => [.braces (s.header "pub fn" name s.paramTexts) call.steps]
  | .raw name s call =>
    [.line "/// # Safety", .line "///",
     .line "/// Raw arguments are handed to the native library unchecked.",
     .braces (s.header "pub unsafe fn" (name ++ "_raw") s.paramTexts) call.steps]
  | .lowering name s call =>
    [.braces (s.header "pub fn" name s.paramTexts) (call.steps (call.args.any (·.isLowered)))]

end Bindery
