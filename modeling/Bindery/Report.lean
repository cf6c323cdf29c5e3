import Bindery.Analysis
import Bindery.Value

/-!
# Reports

A summary of an analysis, for readers and as a value.
-/
namespace Bindery

structure StructSummary where
  native : String
  name : String
  role : Role
  ignored : Bool
  rawLifetime : Bool
  safeLifetime : Bool
  deriving DecidableEq, Repr

structure EnumSummary where
  native : String
  name : String
  isFlag : Bool
  variants : Nat
  deriving DecidableEq, Repr

structure FunctionSummary where
  native : String
  name : String
  exposed : Bool
  raw : Bool
  rawOnly : Bool
  fallible : Bool
  returns : ReturnShape
  method : Option String
  deriving DecidableEq, Repr

structure RootSummary where
  native : String
  handle : String
  retain : String
  free : String
  deriving DecidableEq, Repr

structure Report where
  library : String
  types : Nat
  sweeps : Nat
  structs : List StructSummary
  enums : List EnumSummary
  functions : List FunctionSummary
  roots : List RootSummary
  omittedGlobals : List String
  deriving DecidableEq, Repr

def Analysis.report (a : Analysis) : Report where
  library := a.library.config.link
  types := a.types.size
  sweeps := a.sweeps
  structs := a.layouts.map fun m =>
    let n := a.types.node m.typeId
    { native := m.native, name := m.name, role := m.role, ignored := m.ignored,
      rawLifetime := n.borrowsRaw, safeLifetime := n.borrowsSafe }
  enums := a.enums.map fun e =>
    { native := e.native, name := e.name, isFlag := e.isFlag, variants := e.values.length }
  functions := a.wrappers.map fun w =>
    { native := w.native, name := w.name, exposed := w.exposed, raw := w.isRaw,
      rawOnly := w.rawOnly, fallible := w.fallible, returns := w.returnShape,
      method := w.method.map fun m => (a.types.node m.owner).name ++ "::" ++ m.name }
  roots := a.roots.map fun r =>
    { native := r.native, handle := r.handle, retain := r.retain, free := r.free }
  omittedGlobals := (a.globals.filter (·.access = .omitted)).map (·.native)

def StructSummary.line (s : StructSummary) : String :=
  s!"  {s.native} -> {s.name} [{s.role.label}]" ++ (if s.rawLifetime then " raw<'a>" else "") ++
    (if s.safeLifetime then " safe<'a>" else "") ++ if s.ignored then " ignored" else ""

def EnumSummary.line (e : EnumSummary) : String :=
  let kind := if e.isFlag then "flags" else "enum"
  s!"  {e.native} -> {e.name} [{kind}, {e.variants} values]"

def FunctionSummary.split (f : FunctionSummary) : String :=
  if !f.exposed then "hidden"
  else if f.rawOnly then "raw only"
  else if f.raw then "raw + safe"
  else "safe"

def FunctionSummary.line (f : FunctionSummary) : String :=
  s!"  {f.native} -> {f.name} [{f.split}]" ++ (if f.fallible then " fallible" else "") ++
    match f.method with
      | none => ""
      | some m => " method " ++ m

def RootSummary.line (r : RootSummary) : String :=
  s!"  {r.native} -> {r.handle} ({r.retain} / {r.free})"

namespace Report

def lines (r : Report) : List String :=
  [s!"=== Analysis Report: {r.library} ===", s!"Types: {r.types}",
    s!"Lifetime sweeps: {r.sweeps}", "", s!"--- Structs ({r.structs.length}) ---"] ++
    r.structs.map StructSummary.line ++
    ["", s!"--- Enums ({r.enums.length}) ---"] ++ r.enums.map EnumSummary.line ++
    ["", s!"--- Functions ({r.functions.length}) ---"] ++
    r.functions.map FunctionSummary.line ++
    (if r.roots.isEmpty then []
      else ["", s!"--- Roots ({r.roots.length}) ---"] ++ r.roots.map RootSummary.line) ++
    (if r.omittedGlobals.isEmpty then []
      else ["", "--- Omitted globals ---"] ++ r.omittedGlobals.map ("  " ++ ·))

/-- Every line ends in a line feed. -/
def text (r : Report) : String := String.join (r.lines.map (· ++ "\n"))

end Report

def ReturnShape.encode : ReturnShape → Value
  | .void => .record [("kind", .ofString "void")]
  | .value => .record [("kind", .ofString "value")]
  | .root handle => .record [("kind", .ofString "root"), ("alias", .ofString handle)]
  | .ref isNullable => .record [("kind", .ofString "ref"), ("nullable", .bool isNullable)]
  | .raw => .record [("kind", .ofString "raw")]

def StructSummary.encode (s : StructSummary) : Value :=
  .record [("native", .ofString s.native), ("name", .ofString s.name),
    ("role", .ofString s.role.label), ("ignored", .bool s.ignored),
    ("raw_lifetime", .bool s.rawLifetime), ("safe_lifetime", .bool s.safeLifetime)]

def EnumSummary.encode (e : EnumSummary) : Value :=
  .record [("native", .ofString e.native), ("name", .ofString e.name), ("flag", .bool e.isFlag),
    ("variants", .ofNat e.variants)]

def FunctionSummary.encode (f : FunctionSummary) : Value :=
  .record [("native", .ofString f.native), ("name", .ofString f.name),
    ("exposed", .bool f.exposed), ("raw", .bool f.raw), ("raw_only", .bool f.rawOnly),
    ("fallible", .bool f.fallible), ("returns", f.returns.encode),
    ("method", .ofOption .ofString f.method)]

def RootSummary.encode (r : RootSummary) : Value :=
  .record [("native", .ofString r.native), ("alias", .ofString r.handle),
    ("retain", .ofString r.retain), ("free", .ofString r.free)]

def Report.encode (r : Report) : Value :=
  .record [("library", .ofString r.library), ("types", .ofNat r.types),
    ("sweeps", .ofNat r.sweeps), ("structs", .list (r.structs.map (·.encode))),
    ("enums", .list (r.enums.map (·.encode))),
    ("functions", .list (r.functions.map (·.encode))),
    ("roots", .list (r.roots.map (·.encode))), ("omitted_globals", .strings r.omittedGlobals)]

end Bindery
