/-!
# Flags

Sets of named bits in a word, and the text that names the bits of a set.
-/
namespace Bindery

structure Flag where
  name : String
  bits : UInt32
  deriving DecidableEq, Repr

structure Flags where
  bits : UInt32 := 0
  deriving DecidableEq, Repr

namespace Flags

instance : AndOp Flags := ⟨fun a b => ⟨a.bits &&& b.bits⟩⟩
instance : OrOp Flags := ⟨fun a b => ⟨a.bits ||| b.bits⟩⟩
instance : XorOp Flags := ⟨fun a b => ⟨a.bits ^^^ b.bits⟩⟩

def isAny (s : Flags) : Bool := s.bits ≠ 0

def meets (s t : Flags) : Bool := s.bits &&& t.bits ≠ 0

def contains (s t : Flags) : Bool := s.bits &&& t.bits = t.bits

/-- The flags of a table that are in a set, in table order. A flag without bits is in none. -/
def named (s : Flags) (table : List Flag) : List Flag :=
  table.filter fun f => f.bits ≠ 0 && s.contains ⟨f.bits⟩

def text (table : List Flag) (s : Flags) : String :=
  match s.named table with
  | [] => "NONE"
  | flags => "|".intercalate (flags.map Flag.name)

theorem mem_named {s : Flags} {table : List Flag} {f : Flag} :
    f ∈ s.named table ↔ f ∈ table ∧ f.bits ≠ 0 ∧ s.contains ⟨f.bits⟩ = true := by
  simp [named]

end Flags

end Bindery
