import Bindery.Item.Layout

/-!
# Native declarations in the output

The functions and variables that are linked, the handles of owned structs, and the accessors of
variables.
-/
namespace Bindery

structure NativeFunction where
  name : String
  params : List (String × Spelling)
  result : Option Spelling

structure LinkItem where
  library : String
  functions : List NativeFunction
  statics : List (String × Spelling)

structure RootItem where
  type : String
  retain : String
  free : String
  handle : String

structure GlobalItem where
  name : String
  native : String
  type : Spelling
  isRef : Bool

namespace Analysis

def nativeParams (a : Analysis) (index : Nat) : List ArgDecl → Outcome (List (String × Spelling))
  | [] => .ok []
  | arg :: rest =>
    match a.types.find? arg.type with
    | none => .error (.unresolvedType arg.type)
    | some type => do
      let name := if arg.name.isEmpty then "arg" ++ toString index else Ident.escape arg.name
      return (name, a.types.native type) :: (← a.nativeParams (index + 1) rest)

def nativeFunction (a : Analysis) (w : Wrapper) (f : FunctionDecl) : Outcome NativeFunction := do
  let params ← a.nativeParams 0 f.args
  let n := a.types.target w.result
  return { name := w.native, params,
           result := if n.isVoid ∧ n.kind = .primitive then none
                     else some (a.types.native w.result) }

def linkItem (a : Analysis) : Outcome LinkItem := do
  let linked := (a.wrappers.filter (·.linked)).filterMap fun w =>
    (a.library.description.functions.find? w.native).map (w, ·)
  let functions ← linked.mapM fun (w, f) => a.nativeFunction w f
  let statics := (a.globals.filter (·.access ≠ .omitted)).map fun g =>
    (g.native, a.types.native g.type)
  return { library := a.library.config.link, functions, statics }

def rootItem (a : Analysis) (r : Root) : RootItem :=
  { type := a.types.memberText r.typeId "'static", retain := r.retain, free := r.free,
    handle := r.handle }

def globalItem (a : Analysis) (g : Global) : Option GlobalItem :=
  match g.access with
  | .omitted => none
  | access => some { name := g.name, native := g.native, type := a.types.native g.type,
                     isRef := access = .ref }

end Analysis

def NativeFunction.line (f : NativeFunction) : String :=
  let params := f.params.map fun p => p.1 ++ ": " ++ p.2.text "'_"
  let result := match f.result with
    | none => ""
    | some r => " -> " ++ r.text "'static"
  "pub fn " ++ f.name ++ "(" ++ ", ".intercalate params ++ ")" ++ result ++ ";"

def LinkItem.steps (l : LinkItem) : List Step :=
  [.line ("#[link(name = \"" ++ l.library ++ "\")]"),
   .braces "extern \"C\"" ((l.functions.map fun f => .line f.line) ++
    l.statics.map fun v => .line ("pub static " ++ v.1 ++ ": " ++ v.2.text "'static" ++ ";"))]

def RootItem.steps (r : RootItem) : List Step :=
  [.braces ("unsafe impl RootObject for " ++ r.type)
    [.braces "unsafe fn retain(ptr: *mut Self)" [.line (r.retain ++ "(ptr);")],
     .blank,
     .braces "unsafe fn free(ptr: *mut Self)" [.line (r.free ++ "(ptr);")]],
   .blank,
   .line ("pub type " ++ r.handle ++ " = Root<" ++ r.type ++ ">;")]

def GlobalItem.steps (g : GlobalItem) : List Step :=
  let type := g.type.text "'static"
  [.braces ("pub fn " ++ g.name ++ "() -> " ++ if g.isRef then "&'static " ++ type else type)
    [.line ("unsafe \x7b " ++ (if g.isRef then "&" else "") ++ g.native ++ " \x7d")]]

end Bindery
