import Bindery.Item.Layout

/-!
# Input shapes in the output

The idiomatic form of a struct that callers fill in, and how it is lowered to its layout.
-/
namespace Bindery

inductive FieldSource where
  | initial (i : Initializer)
  | lowered
  | copied
  deriving DecidableEq, Repr

structure ShapeItem where
  name : String
  raw : String
  rawBorrows : Bool
  /-- The visible fields with their types. -/
  fields : List (String × String)
  default : Option (List (String × Initializer))
  lowering : List (String × FieldSource)

namespace ShapeItem

def borrows (s : ShapeItem) : Bool := s.fields.any fun f => usesLifetime f.2

end ShapeItem

namespace Analysis

def initializers (m : Layout) : List Initializer :=
  match m.default with
  | .manual initializers => initializers
  | _ => m.fields.map fun _ => .standard

def fieldSource (a : Analysis) (f : LayoutField) (i : Initializer) : FieldSource :=
  if f.isPrivate then .initial i else if a.types.isLowered f.type then .lowered else .copied

def shapeItem (a : Analysis) (m : Layout) : ShapeItem where
  name := m.safeName
  raw := m.name
  rawBorrows := a.borrows m
  fields := (m.fields.filter (!·.isPrivate)).map fun f => (f.name, a.types.shapeText f.type)
  default := match m.default with
    | .manual initializers => some <|
      ((m.fields.zip initializers).filter (!·.1.isPrivate)).map fun (f, i) =>
        (f.name, if a.types.isLowered f.type then .standard else i)
    | _ => none
  lowering := (m.fields.zip (initializers m)).map fun (f, i) => (f.name, a.fieldSource f i)

end Analysis

namespace ShapeItem

def sourceText (method name : String) : FieldSource → String
  | .initial i => i.text
  | .lowered => "self." ++ name ++ "." ++ method ++ "(arena)"
  | .copied => "self." ++ name

def lowerStep (s : ShapeItem) (raw method receiver : String) : Step :=
  let arena := if s.lowering.any (·.2 = .lowered) then "arena" else "_arena"
  .braces ("fn " ++ method ++ "(" ++ receiver ++ ", " ++ arena ++ ": &mut Arena) -> " ++ raw)
    [.braces s.raw
      ((s.lowering.map fun f => .line (f.1 ++ ": " ++ sourceText method f.1 f.2 ++ ",")) ++
        if s.rawBorrows then [.line "_marker: PhantomData,"] else [])]

def steps (s : ShapeItem) : List Step :=
  let target := withLifetime "'_" s.name s.borrows
  let raw := withLifetime "'static" s.raw s.rawBorrows
  (if s.default.isNone then [.line "#[derive(Default)]"] else []) ++
    [.braces ("pub struct " ++ withLifetime "'a" s.name s.borrows)
      (s.fields.map fun f => .line ("pub " ++ f.1 ++ ": " ++ f.2 ++ ","))] ++
    (match s.default with
      | none => []
      | some fields =>
        [.blank, defaultSteps target (fields.map fun f => f.1 ++ ": " ++ f.2.text ++ ",")]) ++
    [.blank, .braces ("impl Lower for " ++ target)
      [.line ("type Raw = " ++ raw ++ ";"), .blank, s.lowerStep raw "lower" "&self", .blank,
       s.lowerStep raw "lower_mut" "&mut self"]]

end ShapeItem

/-- The idiomatic form of a callback: nothing, a closure, or a raw pair of function and data. -/
structure CallbackItem where
  name : String
  raw : String
  signature : String
  functionField : String
  userField : String
  trampoline : String
  /-- The layout has further fields, which take their default values. -/
  hasRest : Bool

def CallbackSlots.item (c : CallbackSlots) (m : Layout) : CallbackItem :=
  { name := m.safeName, raw := m.name, signature := c.signature,
    functionField := c.functionField, userField := c.userField, trampoline := c.trampoline,
    hasRest := 2 < m.fields.length }

namespace CallbackItem

def steps (c : CallbackItem) : List Step :=
  [.braces ("pub enum " ++ c.name ++ "<'a>")
      [.line "None,",
       .line ("Mut(&'a mut dyn FnMut" ++ c.signature ++ "),"),
       .line ("Ref(&'a dyn Fn" ++ c.signature ++ "),"),
       .line ("Raw(Unsafe<" ++ c.raw ++ ">),")],
    .blank,
    .braces ("impl Default for " ++ c.name ++ "<'_>")
      [.braces "fn default() -> Self" [.line "Self::None"]],
    .blank,
    .braces ("impl " ++ c.raw)
      [.braces ("pub fn from_func<F: FnMut" ++ c.signature ++ ">(func: &mut F) -> Self")
        [.braces c.raw
          ([.line (c.functionField ++ ": Some(" ++ c.trampoline ++ "::<F>),"),
            .line (c.userField ++ ": func as *mut F as *mut c_void,")] ++
            if c.hasRest then [.line "..Default::default()"] else [])]],
    .blank,
    .braces ("impl Lower for " ++ c.name ++ "<'_>")
      [.line ("type Raw = " ++ c.raw ++ ";"),
       .blank,
       .braces ("fn lower(&self, _arena: &mut Arena) -> " ++ c.raw)
        [.braces "match self"
          [.line ("Self::None => " ++ c.raw ++ "::default(),"),
           .line ("_ => panic!(\"" ++ c.name ++
            " holding a closure must be lowered through a mutable reference\"),")]],
       .blank,
       .braces ("fn lower_mut(&mut self, _arena: &mut Arena) -> " ++ c.raw)
        [.braces "match self"
          [.line ("Self::None => " ++ c.raw ++ "::default(),"),
           .line ("Self::Mut(func) => " ++ c.raw ++ "::from_func(func),"),
           .line ("Self::Ref(func) => " ++ c.raw ++ "::from_func(func),"),
           .line "Self::Raw(raw) => raw.take(),"]]]]

end CallbackItem

end Bindery
