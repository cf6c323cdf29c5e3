import Bindery.Description.Basic

/-!
# Struct roles

How a struct is used, which decides the shapes that stand for it.
-/
namespace Bindery

inductive Role where
  /-- Data that the library produces. -/
  | plain
  /-- Options that the caller fills in. -/
  | input
  /-- A function pointer with its user data. -/
  | callback
  /-- A table of functions that the caller implements. -/
  | interface
  /-- A pointer with a count, seen as a slice. -/
  | list
  /-- Inlined where it is used. -/
  | union
  deriving DecidableEq, Repr

namespace Role

def label : Role → String
  | plain => "plain"
  | input => "input"
  | callback => "callback"
  | interface => "interface"
  | list => "list"
  | union => "union"

/-- The plain name belongs to an idiomatic shape, so the layout takes another. -/
def hasShape : Role → Bool
  | input | callback | interface => true
  | _ => false

/-- A list is seen through a view and a union in its parent, so neither has a layout of its own. -/
def hasLayout : Role → Bool
  | list | union => false
  | _ => true

end Role

namespace StructDecl

def roles (s : StructDecl) : List Role :=
  ([(s.isInput, Role.input), (s.isCallback, .callback), (s.isInterface, .interface),
    (s.isList, .list), (s.isUnion, .union)].filter (·.1)).map (·.2)

end StructDecl

end Bindery
