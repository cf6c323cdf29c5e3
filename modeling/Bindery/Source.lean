import Bindery.Description.Validate
import Bindery.Digest
import Bindery.Item.Element
import Bindery.Item.Enum
import Bindery.Item.Link
import Bindery.Item.Method
import Bindery.Item.Shape

/-!
# Generated sources

The items that an analysis is emitted as, in their fixed order, and the text of the whole.
-/
namespace Bindery

inductive Item where
  | layout (item : LayoutItem)
  | enumeration (item : EnumItem)
  | shape (item : ShapeItem)
  | callback (item : CallbackItem)
  /-- The types that are lowered by copying. -/
  | copies (names : List String)
  | resultAlias (record : String)
  | link (item : LinkItem)
  | root (item : RootItem)
  | function (item : FunctionItem)
  | global (item : GlobalItem)
  | methods (item : MethodsItem)
  | element (item : ElementItem)

def Item.steps : Item → List Step
  | .layout m => m.steps
  | .enumeration e => e.steps
  | .shape s => s.steps
  | .callback c => c.steps
  | .copies names => [.line ("lower_by_copy!(" ++ ", ".intercalate names ++ ");")]
  | .resultAlias record => [.line ("pub type Result<T> = result::Result<T, " ++ record ++ ">;")]
  | .link l => l.steps
  | .root r => r.steps
  | .function f => f.steps
  | .global g => g.steps
  | .methods m => m.steps
  | .element e => e.steps

structure Prelude where
  module : String
  names : List String

def version : String := "0.1.0"

def standardImports : List String :=
  ["std::ffi::c_void", "std::marker::PhantomData", "std::ops::Index",
   "std::\x7bmem, ptr, result\x7d"]

def supportImports : List String :=
  ["inline_str", "lower_by_copy", "native_flags", "Arena", "Blob", "BlobOpt", "List", "ListOpt",
   "Lower", "RawBlob", "RawList", "RawString", "Ref", "RefList", "Root", "RootObject", "String",
   "StringOpt", "Unsafe"]

def importSteps (path : String) : List Step :=
  [.line "#[allow(unused_imports)]", .line ("use " ++ path ++ ";")]

def importGroup (module : String) (names : List String) : List Step :=
  importSteps (module ++ "::\x7b" ++ ", ".intercalate names ++ "\x7d")

def Prelude.steps (p : Prelude) : List Step := importGroup p.module p.names

namespace Layout

def isVisible (m : Layout) : Bool := m.role.hasLayout && !m.ignored

/-- The name that the prelude has to define for a struct: a trampoline, or a shape that is written
by hand. -/
def preludeName (m : Layout) : Option String :=
  match m.role with
  | .callback => m.callback.map (·.trampoline)
  | .interface => some m.safeName
  | _ => none

end Layout

namespace Analysis

def visibleLayouts (a : Analysis) : List Layout := a.layouts.filter (·.isVisible)

/-- Callbacks and interfaces need a prelude module. -/
def prelude (a : Analysis) : Outcome (Option Prelude) :=
  let needing := a.visibleLayouts.filter fun m => m.role = .callback || m.role = .interface
  let names := a.library.config.preludeImports ++ needing.filterMap Layout.preludeName
  match a.library.config.preludeModule, needing with
  | some module, _ => .ok (if names.isEmpty then none else some { module, names })
  | none, m :: _ => .error (.missingOverride .prelude m.native)
  | none, [] => .ok none

def declarationItem (a : Analysis) (d : Declaration) : Option Item :=
  match d.kind with
  | .struct => ((a.layout? d.name).filter (·.isVisible)).map fun m => .layout (a.layoutItem m)
  | .enum => ((a.enum? d.name).filter (!·.ignored)).map fun e => .enumeration e.item
  | .function | .global => none

def shapeItems (a : Analysis) (m : Layout) : Option Item :=
  match m.role with
  | .input => some (.shape (a.shapeItem m))
  | .callback => m.callback.map fun c => .callback (c.item m)
  | _ => none

/-- Plain data and enums can be items of lists that are lowered by copying. -/
def copiedNames (a : Analysis) : List String :=
  (a.visibleLayouts.filter fun m => m.isPod && !a.borrows m).map (·.name) ++
    (a.enums.filter (!·.ignored)).map (·.name)

def resultAlias (a : Analysis) : Outcome (Option Item) :=
  match a.library.config.errors with
  | none => .ok none
  | some c => do return some (.resultAlias (← a.recordLayout c.record).name)

def items (a : Analysis) : Outcome (List Item) := do
  let declarations := a.library.description.declarations.filterMap a.declarationItem
  let shapes := a.visibleLayouts.filterMap a.shapeItems
  let copies := if a.copiedNames.isEmpty then [] else [Item.copies a.copiedNames]
  let result ← a.resultAlias
  let link ← a.linkItem
  let records ← a.records
  let element ← a.elementItem?
  return declarations ++ shapes ++ copies ++ result.toList ++ [Item.link link] ++
    a.roots.map (fun r => .root (a.rootItem r)) ++
    a.wrappers.flatMap (fun w => (a.functionItems records w).map .function) ++
    (a.globals.filterMap a.globalItem).map .global ++
    (groupMethods a.wrappers).map (fun g => .methods (a.methodsItem g)) ++
    (element.map Item.element).toList

def headSteps (digest : String) (prelude : Option Prelude) : List Step :=
  [.line ("// Generated by ferrule " ++ version ++ ". Do not edit."), .line (Digest.line digest),
   .blank] ++ standardImports.flatMap importSteps ++ importGroup "ferrule_rt" supportImports ++
    (prelude.map Prelude.steps).getD []

/-- The text under a digest of the input: head and imports, then the items with blank lines
between them. -/
def source (a : Analysis) (digest : String) : Outcome String := do
  let prelude ← a.prelude
  let items ← a.items
  return render (headSteps digest prelude ++ items.flatMap fun i => .blank :: i.steps)

end Analysis

/-- The text that a description is bound by; its digest is that of the description as given. -/
def generate (input : String) (config : Config) : Outcome String := do
  let description ← Description.parse input
  let analysis ← ({ description, config } : Library).analyze
  analysis.source (Digest.ofText input)

end Bindery
