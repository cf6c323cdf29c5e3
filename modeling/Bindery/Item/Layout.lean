import Bindery.Analysis
import Bindery.Document
import Bindery.Types.Spelling

/-!
# Layouts in the output

The declaration of a layout with what is implemented for it: a default value, texts in inline
buffers, and values that are looked up through indices.
-/
namespace Bindery

def withLifetime (lifetime name : String) (borrows : Bool) : String :=
  if borrows then name ++ "<" ++ lifetime ++ ">" else name

def usesLifetime (spelling : String) : Bool := Text.occursIn ['\'', 'a'] spelling.toList

structure FieldItem where
  name : String
  type : Spelling
  isPublic : Bool

/-- A text in an inline buffer and the field with its length, converted if `converts` holds. -/
structure InlineText where
  name : String
  length : String
  converts : Bool

structure LayoutItem where
  name : String
  derives : List String
  /-- Some fields are hidden and nothing uses them. -/
  hasDead : Bool
  borrows : Bool
  fields : List FieldItem
  default : Option (List (String × Initializer))
  texts : List InlineText
  /-- What looking up an index yields. -/
  output : Option Spelling

namespace Analysis

def borrows (a : Analysis) (m : Layout) : Bool := (a.types.node m.typeId).borrowsRaw

def fieldSpelling (a : Analysis) (m : Layout) (f : LayoutField) : Spelling :=
  if m.role.hasShape then a.types.inputMember f.type else a.types.member f.type

def derives (m : Layout) : List String :=
  (if m.isPod || m.role.hasShape then ["Clone", "Copy"] else []) ++
    (if m.isPod then ["Debug", "PartialEq"] else []) ++
    (if m.default = .derive then ["Default"] else [])

def inlineText (a : Analysis) (m : Layout) (f : LayoutField) : Option InlineText :=
  f.inlineLength.map fun length =>
    { name := f.name, length,
      converts := (m.fields.find? (·.name = length)).any fun l =>
        (a.types.target l.type).name ≠ "usize" }

def layoutItem (a : Analysis) (m : Layout) : LayoutItem where
  name := m.name
  derives := derives m
  hasDead := m.fields.any fun f => !f.isPublic && f.inlineLength.isNone
  borrows := a.borrows m
  fields := m.fields.map fun f =>
    { name := f.name, type := a.fieldSpelling m f, isPublic := f.isPublic }
  default := match m.default with
    | .manual initializers => some ((m.fields.map (·.name)).zip initializers)
    | _ => none
  texts := m.fields.filterMap (a.inlineText m)
  output :=
    if (m.field? "values").isSome && (m.field? "indices").isSome then
      m.indexType.map a.types.member
    else none

end Analysis

/-- An `impl` of the default value by a list of field initializers. -/
def defaultSteps (target : String) (fields : List String) : Step :=
  .braces ("impl Default for " ++ target)
    [.braces "fn default() -> Self" [.braces "Self" (fields.map .line)]]

/-- Items behind each other with a blank line between each two. -/
def spaced : List Step → List Step
  | [] => []
  | [s] => [s]
  | s :: rest => s :: .blank :: spaced rest

namespace LayoutItem

def fieldLine (f : FieldItem) : Step :=
  .line ((if f.isPublic then "pub " else "") ++ f.name ++ ": " ++ f.type.text "'a" ++ ",")

def textStep (t : InlineText) : Step :=
  .braces ("pub fn " ++ t.name ++ "(&self) -> &str")
    [.line ("inline_str(&self." ++ t.name ++ ", self." ++ t.length ++
      (if t.converts then " as usize" else "") ++ ")")]

def indexStep (target output : String) : Step :=
  .braces ("impl Index<usize> for " ++ target)
    [.line ("type Output = " ++ output ++ ";"), .blank,
     .braces ("fn index(&self, index: usize) -> &" ++ output)
      [.line "&self.values[self.indices[index] as usize]"]]

def steps (m : LayoutItem) : List Step :=
  let target := withLifetime "'_" m.name m.borrows
  [.line "#[repr(C)]"] ++
    (if m.derives.isEmpty then []
      else [.line ("#[derive(" ++ ", ".intercalate m.derives ++ ")]")]) ++
    (if m.hasDead then [.line "#[allow(dead_code)]"] else []) ++
    [.braces ("pub struct " ++ withLifetime "'a" m.name m.borrows)
      (m.fields.map fieldLine ++
        if m.borrows then [.line "_marker: PhantomData<&'a ()>,"] else [])] ++
    (match m.default with
      | none => []
      | some fields => [.blank, defaultSteps target
          ((fields.map fun f => f.1 ++ ": " ++ f.2.text ++ ",") ++
            if m.borrows then ["_marker: PhantomData,"] else [])]) ++
    (if m.texts.isEmpty then []
      else [.blank, .braces ("impl " ++ target) (spaced (m.texts.map textStep))]) ++
    (match m.output with
      | none => []
      | some output => [.blank, indexStep target (output.text "'_")])

end LayoutItem

end Bindery
