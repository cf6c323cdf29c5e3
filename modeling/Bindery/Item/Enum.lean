import Bindery.Document
import Bindery.Enumeration

/-!
# Enums in the output

A closed enum with its discriminants, or a set of flags with its bits.
-/
namespace Bindery

inductive EnumItem where
  | closed (name representation : String) (variants : List (String × Int64))
  | flags (name : String) (constants : List (String × UInt32))

namespace Enumeration

/-- The low half of a value, as the bits of a flag. -/
def flagBits (value : Int64) : UInt32 := value.toUInt64.toUInt32

def item (e : Enumeration) : EnumItem :=
  if e.isFlag then .flags e.name (e.values.map fun v => (v.name, flagBits v.value))
  else .closed e.name e.representation (e.values.map fun v => (v.name, v.value))

end Enumeration

namespace EnumItem

def hexText (bits : UInt32) : String := String.ofList (Nat.toDigits 16 bits.toNat)

def steps : EnumItem → List Step
  | .flags name constants =>
    [.braces "native_flags!" [.braces ("pub struct " ++ name)
      (constants.map fun c => .line ("const " ++ c.1 ++ " = 0x" ++ hexText c.2 ++ ";"))]]
  | .closed name representation variants =>
    [.line ("#[repr(" ++ representation ++ ")]"),
      .line "#[derive(Clone, Copy, PartialEq, Eq, Hash, Debug)]",
      .braces ("pub enum " ++ name)
        (variants.map fun v => .line (v.1 ++ " = " ++ toString v.2.toInt ++ ","))] ++
    match variants with
    | [] => []
    | first :: _ => [.blank, .braces ("impl Default for " ++ name)
        [.braces "fn default() -> Self" [.line ("Self::" ++ first.1)]]]

end EnumItem

end Bindery
