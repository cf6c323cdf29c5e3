/-!
# Handles

Counted references to native objects. Copying a handle retains its object and dropping it releases
the object, which is freed with its last reference.
-/
namespace Bindery

/-- Objects are numbered in the order of their allocation. -/
abbrev ObjectId := Nat

inductive Call where
  | retain (id : ObjectId)
  | release (id : ObjectId)
  deriving DecidableEq, Repr

structure Objects where
  /-- The references to each object. -/
  counts : List Nat := []
  /-- The freed objects, in the order of their end. -/
  freed : List ObjectId := []
  deriving DecidableEq, Repr

namespace Objects

/-- A new object comes with one reference. -/
def allocate (o : Objects) : ObjectId × Objects :=
  (o.counts.length, { o with counts := o.counts ++ [1] })

def count (o : Objects) (id : ObjectId) : Nat := o.counts.getD id 0

def call (o : Objects) : Call → Objects
  | .retain id => { o with counts := o.counts.modify id (· + 1) }
  | .release id =>
    { counts := o.counts.modify id (· - 1)
      freed := if o.count id = 1 then o.freed ++ [id] else o.freed }

end Objects

inductive HandleStep where
  | allocate
  /-- A null pointer makes no handle. -/
  | adoptNull
  | clone (slot : Nat)
  | drop (slot : Nat)
  /-- Drops all handles in order. -/
  | clear
  /-- A copy that an abandoned call drops again. -/
  | unwind (slot : Nat)
  deriving DecidableEq, Repr

structure Handles where
  /-- A slot whose handle is dropped stays, empty. -/
  slots : List (Option ObjectId) := []
  objects : Objects := {}
  deriving DecidableEq, Repr

namespace Handles

/-- The object in a slot; there is none beyond the last slot. -/
def object? (h : Handles) (slot : Nat) : Option ObjectId := (h.slots[slot]?).join

def calls (h : Handles) : HandleStep → List Call
  | .allocate | .adoptNull => []
  | .clone slot => (h.object? slot).toList.map .retain
  | .drop slot => (h.object? slot).toList.map .release
  | .clear => (h.slots.filterMap id).map .release
  | .unwind slot => (h.object? slot).toList.flatMap fun id => [.retain id, .release id]

def step (h : Handles) (s : HandleStep) : Handles :=
  let objects := (h.calls s).foldl Objects.call h.objects
  match s with
  | .allocate =>
    let (id, objects) := objects.allocate
    { slots := h.slots ++ [some id], objects }
  | .adoptNull => { slots := h.slots ++ [none], objects }
  | .clone slot => { slots := h.slots ++ [h.object? slot], objects }
  | .drop slot => { slots := h.slots.set slot none, objects }
  | .clear => { slots := [], objects }
  | .unwind _ => { slots := h.slots, objects }

/-- Whether two slots hold the same object, or nothing both. -/
def same (h : Handles) (slot other : Nat) : Bool := h.object? slot = h.object? other

def describe (object : String) : String := s!"Root({object})"

end Handles

end Bindery
