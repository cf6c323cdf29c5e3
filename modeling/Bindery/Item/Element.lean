import Bindery.Item.Layout

/-!
# Elements in the output

An enum over the structs that start with a common base, and the match on the kind of an element
that yields it.
-/
namespace Bindery

structure ElementVariant where
  name : String
  struct : String
  borrows : Bool
  /-- The constant of the kind. -/
  kind : String

structure ElementItem where
  base : String
  baseBorrows : Bool
  discriminant : String
  kindEnum : String
  variants : List ElementVariant
  /-- Some constants have no variant. -/
  hasOthers : Bool

namespace Analysis

/-- The variant of an element struct; a constant of the kind has to have its name. -/
def elementVariant (a : Analysis) (kind : Enumeration) (name : String) :
    Outcome ElementVariant :=
  match a.layout? name with
  | none => .error (.unknownStruct name)
  | some m =>
    match kind.values.find? (·.name = m.safeName) with
    | none => .error (.invalidConfig (.noVariant kind.native m.safeName))
    | some value =>
      .ok { name := m.safeName, struct := m.name, borrows := a.borrows m, kind := value.name }

def elementItem (a : Analysis) (c : ElementsConfig) : Outcome ElementItem :=
  match a.layout? c.base, a.enum? c.kindEnum with
  | none, _ => .error (.unknownStruct c.base)
  | some _, none => .error (.unknownEnum c.kindEnum)
  | some base, some kind =>
    if kind.isFlag then .error (.invalidConfig (.flagKinds kind.native))
    else
      match base.field? c.discriminant with
      | none => .error (.invalidConfig (.noField base.native c.discriminant))
      | some discriminant => do
        let names := a.library.description.elementTypes
        let variants ← names.mapM (a.elementVariant kind)
        return { base := base.name, baseBorrows := a.borrows base,
                 discriminant := discriminant.name, kindEnum := kind.name, variants,
                 hasOthers := variants.length < kind.values.length }

/-- Elements are left out unless the configuration has a record for them, the description some. -/
def elementItem? (a : Analysis) : Outcome (Option ElementItem) :=
  match a.library.config.elements with
  | none => .ok none
  | some c =>
    if a.library.description.elementTypes.isEmpty then .ok none
    else do return some (← a.elementItem c)

end Analysis

namespace ElementItem

def arm (e : ElementItem) (v : ElementVariant) : Step :=
  .line (e.kindEnum ++ "::" ++ v.kind ++ " => ElementData::" ++ v.name ++
    "(&*(self as *const Self as *const " ++ v.struct ++ ")),")

def steps (e : ElementItem) : List Step :=
  [.line "/// An element viewed as its concrete type.",
   .line "///",
   .line ("/// Built by [`" ++ e.base ++ "::as_data`], which trusts the `" ++
    e.discriminant ++ "` field: the element"),
   .line "/// must be the leading member of the struct that field names. Nothing checks this.",
   .braces "pub enum ElementData<'a>" (e.variants.map fun v =>
    .line (v.name ++ "(&'a " ++ withLifetime "'a" v.struct v.borrows ++ "),")),
   .blank,
   .braces ("impl " ++ withLifetime "'_" e.base e.baseBorrows)
    [.braces "pub fn as_data(&self) -> ElementData<'_>"
      [.braces "unsafe"
        [.braces ("match self." ++ e.discriminant)
          (e.variants.map e.arm ++
            if e.hasOthers then
              [.line "_ => unreachable!(\"element kind without a concrete type\"),"]
            else [])]]]]

end ElementItem

end Bindery
