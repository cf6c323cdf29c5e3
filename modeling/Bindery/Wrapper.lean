import Bindery.Ownership

/-!
# Wrappers

How a native function is called: its arguments paired with their lengths, the shape of its result,
whether it needs an entry point over raw shapes, and the method that it is promoted to.
-/
namespace Bindery

inductive ArgKind where
  | plain
  | pointer
  | string
  | slice
  | blob
  | callback
  | errorOut
  | panicOut
  deriving DecidableEq, Repr

namespace ArgKind

def label : ArgKind → String
  | plain => "plain"
  | pointer => "pointer"
  | string => "string"
  | slice => "slice"
  | blob => "blob"
  | callback => "callback"
  | errorOut => "error_out"
  | panicOut => "panic_out"

/-- Records for errors and panics do not show in a signature. -/
def isVisible : ArgKind → Bool
  | errorOut | panicOut => false
  | _ => true

end ArgKind

structure WrapperArg where
  name : String
  /-- The position of the first native argument that this one stands for. -/
  nativeIndex : Nat
  kind : ArgKind
  type : TypeId
  item : Option TypeId := none
  lengthType : Option TypeId := none
  isConst : Bool
  isNullable : Bool
  returnRef : Bool
  /-- The argument has a shape that is lowered before the call. -/
  isRaw : Bool := false
  deriving DecidableEq, Repr

inductive ReturnShape where
  | void
  | value
  | root (handle : String)
  | ref (isNullable : Bool)
  /-- An opaque pointer, passed through. -/
  | raw
  deriving DecidableEq, Repr

inductive Receiver where
  | shared
  | exclusive
  | value
  deriving DecidableEq, Repr

def Receiver.label : Receiver → String
  | shared => "ref"
  | exclusive => "mut"
  | value => "value"

structure Method where
  owner : TypeId
  name : String
  receiver : Receiver
  /-- The position of the receiver among the arguments of the wrapper. -/
  selfArg : Nat
  deriving DecidableEq, Repr

structure Wrapper where
  native : String
  name : String
  args : List WrapperArg
  result : TypeId
  returnShape : ReturnShape
  /-- There is an entry point over raw shapes. -/
  isRaw : Bool
  rawOnly : Bool
  exposed : Bool
  linked : Bool
  fallible : Bool
  method : Option Method := none
  deriving DecidableEq, Repr

namespace Wrapper

def visibleArgs (w : Wrapper) : List WrapperArg := w.args.filter (·.kind.isVisible)

def hasPanic (w : Wrapper) : Bool := w.args.any (·.kind = .panicOut)

def lowers (w : Wrapper) : Bool := w.args.any (·.isRaw)

end Wrapper

/-- The kind of a pointer that is followed by its length, and the tag of that length. -/
def ArgTag.paired? : ArgTag → Option (ArgKind × ArgTag)
  | .stringPointer => some (.string, .stringLength)
  | .arrayPointer => some (.slice, .arrayLength)
  | .blobPointer => some (.blob, .blobSize)
  | _ => none

namespace Library

/-- An argument as it is before its tag is looked at. -/
def argument (t : TypeTable) (index : Nat) (a : ArgDecl) (type : TypeId) : WrapperArg :=
  let pointer := t.target type
  { name := Ident.escape a.name, nativeIndex := index, kind := .plain, type,
    isConst := pointer.isConst, isNullable := pointer.isNullable, returnRef := a.returnRef }

/-- An argument without a tag: a callback, a pointer to a described type, or any other. -/
def normalArgument (t : TypeTable) (arg : WrapperArg) : WrapperArg :=
  let opaquePointer := t.isOpaquePointer arg.type
  let kind :=
    if t.structRole arg.type = some .callback then .callback
    else if t.isPointer arg.type && !opaquePointer then .pointer
    else .plain
  { arg with kind, isRaw := (t.node (t.leaf arg.type)).isRaw && !opaquePointer }

/-- A pointer with its length. The items of a slice are what the pointer points to. -/
def pairedArgument (t : TypeTable) (arg : WrapperArg) (kind : ArgKind) (lengthType : TypeId) :
    Option WrapperArg :=
  let arg := { arg with kind, lengthType := some lengthType }
  if kind = .slice then
    (t.pointee arg.type).map fun item =>
      { arg with item := some item, isConst := arg.isConst || (t.node item).isConst }
  else some arg

/-- The arguments from position `index` on, each pointer taken together with its length. -/
def arguments (lib : Library) (function : String) (index : Nat) :
    List ArgDecl → Typing (List WrapperArg)
  | [] => return []
  | a :: rest => do
    let type ← lib.resolve a.type
    let arg := argument (← get) index a type
    match a.tag.paired? with
    | some (kind, lengthTag) =>
      match rest with
      | [] => throw (.unpairedArgument function a.name)
      | length :: rest =>
        if length.tag ≠ lengthTag then throw (.unpairedArgument function a.name)
        let lengthType ← lib.resolve length.type
        match pairedArgument (← get) arg kind lengthType with
        | none => throw (.unpairedArgument function a.name)
        | some arg => return arg :: (← lib.arguments function (index + 2) rest)
    | none =>
      match a.tag with
      | .error =>
        if lib.config.errors.isNone then throw (.missingOverride .errors function)
        return { arg with kind := .errorOut } :: (← lib.arguments function (index + 1) rest)
      | .panic =>
        if lib.config.panics.isNone then throw (.missingOverride .panics function)
        return { arg with kind := .panicOut } :: (← lib.arguments function (index + 1) rest)
      | .normal =>
        return normalArgument (← get) arg :: (← lib.arguments function (index + 1) rest)
      | _ => throw (.unpairedArgument function a.name)

def returnShape (t : TypeTable) (roots : List Root) (f : FunctionDecl) (result : TypeId) :
    Outcome ReturnShape :=
  match f.allocType with
  | some name =>
    match roots.find? (·.isAllocatedAs name) with
    | some r => .ok (.root r.handle)
    | none => .error (.missingLifecycle name .both)
  | none =>
    let n := t.target result
    if n.isVoid ∧ n.kind = .primitive then .ok .void
    else if t.isOpaquePointer result then .ok .raw
    else if n.kind = .pointer then .ok (.ref n.isNullable)
    else .ok .value

/-- What a receiver is taken from and how, for a pointer or a value. -/
def receiver (t : TypeTable) (arg : WrapperArg) : Except MethodFault (TypeId × Receiver) :=
  match arg.kind with
  | .pointer =>
    match t.pointee arg.type with
    | none => .error .notPointer
    | some p => .ok (t.strip p, if arg.isConst then .shared else .exclusive)
  | .plain => .ok (t.strip arg.type, .value)
  | _ => .error .notPassable

/-- The method of a function that names a receiver; there is none where the receiver has no safe
shape. -/
def method (t : TypeTable) (f : FunctionDecl) (w : Wrapper) : Outcome (Option Method) :=
  match f.selfIndex with
  | none => .ok none
  | some selfIndex =>
    match w.args.findIdx? (·.nativeIndex = selfIndex.toNat) with
    | none => .error (.invalidMethod f.name .noReceiver)
    | some selfArg =>
      match w.args[selfArg]? with
      | none => .error (.invalidMethod f.name .noReceiver)
      | some arg =>
        if w.rawOnly || arg.isRaw then .ok none
        else
          match receiver t arg with
          | .error fault => .error (.invalidMethod f.name fault)
          | .ok (owner, receiver) =>
            if (t.node owner).kind = .struct then
              .ok (some { owner, name := Ident.escape (f.methodName.getD f.shortName), receiver,
                          selfArg })
            else .error (.invalidMethod f.name .notStruct)

def wrapper (lib : Library) (roots : List Root) (f : FunctionDecl) : Typing Wrapper := do
  let args ← lib.arguments f.name 0 f.args
  let result ← lib.resolve f.returnType
  let t ← get
  let returnShape ← liftOutcome (returnShape t roots f result)
  let rawOnly := lib.config.isRawOnly f.name
  let w : Wrapper := {
    native := f.name
    name := Ident.escape f.shortName
    args, result, returnShape
    isRaw := (t.node (t.leaf result)).isRaw || args.any (·.isRaw) || rawOnly
    rawOnly
    exposed := f.kind = .normal && !f.isInline && !f.isFfi
    linked := !f.isInline
    fallible := args.any (·.kind = .errorOut) }
  if w.exposed then
    let method ← liftOutcome (method t f w)
    return { w with method }
  else return w

end Library

/-- Puts a method into the group of its owner, or into a new group at the end. -/
def addMethod (owner : TypeId) (w : Wrapper) :
    List (TypeId × List Wrapper) → List (TypeId × List Wrapper)
  | [] => [(owner, [w])]
  | (o, members) :: rest =>
    if o = owner then (o, members ++ [w]) :: rest else (o, members) :: addMethod owner w rest

/-- The functions with a method by their owners, owners in the order of their first method. -/
def groupMethods (wrappers : List Wrapper) : List (TypeId × List Wrapper) :=
  wrappers.foldl (fun groups w =>
    match w.method with
    | none => groups
    | some m => addMethod m.owner w groups) []

end Bindery
