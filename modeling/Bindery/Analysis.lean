import Bindery.Enumeration
import Bindery.Layout
import Bindery.Lifetime
import Bindery.Wrapper

/-!
# Analyses

All that the generated code is made of: the types with their lifetimes, and the layouts, enums,
roots, functions and globals of a library in the order of its declarations.
-/
namespace Bindery

inductive GlobalAccess where
  /-- Copied. -/
  | value
  /-- Borrowed for ever. -/
  | ref
  | omitted
  deriving DecidableEq, Repr

def GlobalAccess.label : GlobalAccess → String
  | value => "value"
  | ref => "ref"
  | omitted => "omitted"

structure Global where
  native : String
  name : String
  type : TypeId
  access : GlobalAccess
  deriving DecidableEq, Repr

structure Analysis where
  library : Library
  types : TypeTable
  layouts : List Layout
  enums : List Enumeration
  wrappers : List Wrapper
  roots : List Root
  globals : List Global
  /-- The number of sweeps in which the lifetimes settled. -/
  sweeps : Nat

namespace Edges

/-- Each field of a struct gives an edge for the native form, each visible one that is lowered in
a shape also one for the idiomatic form. Lists have edges to their items. -/
def ofLayouts (t : TypeTable) (layouts : List Layout) : Edges where
  raw := (layouts.flatMap fun m => m.fields.map fun f => (m.typeId, f.type)) ++
    t.ids.filterMap fun id =>
      let n := t.node id
      if n.kind = .struct ∧ n.isList then n.listItem.map (id, ·) else none
  safe := layouts.flatMap fun m =>
    if m.role.hasShape then
      (m.fields.filter fun f => !f.isPrivate && t.isLowered f.type).map fun f => (m.typeId, f.type)
    else []

end Edges

namespace Library

/-- Records and kinds that the configuration names have to be described. -/
def fault? (lib : Library) : Option Error :=
  let d := lib.description
  let records := (lib.config.errors.map (·.record)).toList ++
    (lib.config.panics.map (·.record)).toList
  let element := lib.config.elements.bind fun e =>
    match d.structs.find? e.base with
    | none => some (Error.unknownStruct e.base)
    | some base =>
      if !base.fields.any (·.name = e.discriminant) then
        some (.invalidConfig (.noField base.name e.discriminant))
      else if (d.enums.find? e.kindEnum).isNone then some (.unknownEnum e.kindEnum)
      else none
  (records.find? fun r => (d.structs.find? r).isNone).map Error.unknownStruct <|> element

def globalAccess (lib : Library) (t : TypeTable) (type : TypeId) : GlobalAccess :=
  let n := t.target type
  match n.kind with
  | .struct =>
    if n.isString || n.isBlob then .omitted
    else if (n.base.bind lib.description.structs.find?).any (·.isPod) then .value
    else .ref
  | .array => .ref
  | _ => .value

def declaredLayout (lib : Library) (name : String) : Typing (Option Layout) :=
  match lib.description.structs.find? name with
  | none => throw (.unknownStruct name)
  | some s => do
    if (← liftOutcome s.role) = .union then return none
    return some (← lib.layout s)

def declaredEnum (lib : Library) (name : String) : Outcome Enumeration :=
  match lib.description.enums.find? name with
  | none => .error (.unknownEnum name)
  | some e => lib.description.enumeration lib.config e

def global (lib : Library) (g : GlobalDecl) : Typing Global := do
  let type ← lib.resolve g.type
  return { native := g.name, name := Ident.escape g.shortName, type,
           access := lib.globalAccess (← get) type }

/-- Types that are first met after the lifetimes have settled do not borrow. -/
def analysis (lib : Library) : Typing Analysis := do
  let d := lib.description
  if let some fault := lib.fault? then throw fault
  for key in d.types.keys do
    discard <| lib.resolve key
  let layouts ← (d.declared .struct).mapM lib.declaredLayout
  let layouts := layouts.filterMap id
  let (settled, sweeps) :=
    ((← get).seed lib.config).propagate (Edges.ofLayouts (← get) layouts)
  set settled
  let enums ← liftOutcome ((d.declared .enum).mapM lib.declaredEnum)
  let roots ← lib.roots
  let wrappers ← ((d.declared .function).filterMap d.functions.find?).mapM (lib.wrapper roots)
  let globals ← ((d.declared .global).filterMap d.globals.find?).mapM lib.global
  return { library := lib, types := ← get, layouts, enums, wrappers, roots, globals, sweeps }

def analyze (lib : Library) : Outcome Analysis := (lib.analysis.run.run {}).1

end Library

namespace Analysis

def layout? (a : Analysis) (native : String) : Option Layout := a.layouts.find? (·.native = native)

def enum? (a : Analysis) (native : String) : Option Enumeration := a.enums.find? (·.native = native)

def layoutOf? (a : Analysis) (id : TypeId) : Option Layout :=
  (a.types.target id).base.bind a.layout?

end Analysis

end Bindery
