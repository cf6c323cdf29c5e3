import Bindery.Item.Function

/-!
# Methods in the output

A method forwards to the function of its name space with the receiver in its place.
-/
namespace Bindery

structure MethodItem where
  name : String
  /-- The parameters, the receiver first. -/
  params : List String
  signature : Signature
  function : String
  args : List String

structure MethodsItem where
  owner : String
  borrows : Bool
  methods : List MethodItem

namespace Analysis

/-- A receiver has the lifetime of the parameter that it replaces. -/
def receiverText (s : Signature) (receiver : Receiver) (arg : WrapperArg) : String :=
  let type := ((s.params.find? (·.1 = arg.name)).map (·.2)).getD ""
  let lifetime := if Text.occursIn ['&', '\'', 'a'] type.toList then "'a " else ""
  match receiver with
  | .shared => "&" ++ lifetime ++ "self"
  | .exclusive => "&" ++ lifetime ++ "mut self"
  | .value => "self"

def methodItem (a : Analysis) (w : Wrapper) (m : Method) : Option MethodItem :=
  (w.args[m.selfArg]?).map fun self =>
    let s := a.signature w true
    let others := w.visibleArgs.filter (·.nativeIndex ≠ self.nativeIndex)
    let params := others.filterMap fun arg =>
      (s.params.find? (·.1 = arg.name)).map fun p => arg.name ++ ": " ++ p.2
    let args := w.visibleArgs.map fun arg =>
      if arg.nativeIndex ≠ self.nativeIndex then arg.name
      else if arg.kind = .pointer ∧ arg.isNullable then "Some(self)"
      else "self"
    { name := m.name, params := receiverText s m.receiver self :: params, signature := s,
      function := w.name, args }

def methodsItem (a : Analysis) (group : TypeId × List Wrapper) : MethodsItem :=
  let n := a.types.node group.1
  { owner := n.name, borrows := n.borrowsRaw,
    methods := group.2.filterMap fun w => w.method.bind (a.methodItem w) }

end Analysis

def MethodItem.step (m : MethodItem) : Step :=
  .braces (m.signature.header "pub fn" m.name m.params)
    [.line (m.function ++ "(" ++ ", ".intercalate m.args ++ ")")]

def MethodsItem.steps (m : MethodsItem) : List Step :=
  [.braces ("impl " ++ withLifetime "'_" m.owner m.borrows)
    (spaced (m.methods.map MethodItem.step))]

end Bindery
