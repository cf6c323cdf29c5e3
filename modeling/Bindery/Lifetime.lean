import Bindery.Types.Resolve

/-!
# Lifetimes

Which types borrow. A struct borrows if something that it has an edge to does; a pointer, array,
typedef or const borrows with what it wraps, and a native function type with its parts. Flags are
only ever raised, in sweeps over the table, until a sweep raises none.
-/
namespace Bindery

/-- The edges of structs, apart for the native and the idiomatic form. -/
structure Edges where
  raw : List (TypeId × TypeId) := []
  safe : List (TypeId × TypeId) := []

namespace Edges

def targets (edges : List (TypeId × TypeId)) (id : TypeId) : List TypeId :=
  (edges.filter (·.1 = id)).map (·.2)

end Edges

namespace TypeTable

/-- The flags before any sweep: the native form borrows where the configuration says so, the
idiomatic form of texts, bytes, lists and callbacks always does. -/
def seed (t : TypeTable) (c : Config) : TypeTable :=
  ⟨t.nodes.map fun n =>
    if n.kind = .struct then
      { n with
        borrowsRaw := n.borrowsRaw || n.base.any c.hasRawLifetime
        borrowsSafe := n.borrowsSafe || n.isString || n.isBlob || n.isList ||
          n.role = some .callback }
    else n⟩

def rawSources (t : TypeTable) (edges : Edges) (id : TypeId) : List TypeId :=
  let n := t.node id
  match n.kind with
  | .pointer | .array | .typedef | .const => n.inner.toList
  | .function => n.inner.toList ++ n.params
  | .struct => Edges.targets edges.raw id
  | .primitive | .enum => []

def safeSources (t : TypeTable) (edges : Edges) (id : TypeId) : List TypeId :=
  let n := t.node id
  match n.kind with
  | .pointer | .array | .typedef | .const => n.inner.toList
  | .struct => Edges.targets edges.safe id
  | .function | .primitive | .enum => []

/-- Raises the flags of one node and says whether one was raised. -/
def visit (edges : Edges) (state : TypeTable × Bool) (id : TypeId) : TypeTable × Bool :=
  let (t, changed) := state
  let raw := (t.rawSources edges id).any fun s => (t.node s).borrowsRaw
  let safe := (t.safeSources edges id).any fun s => (t.node s).borrowsSafe
  let n := t.node id
  let raise (n : Node) : Node :=
    { n with borrowsRaw := n.borrowsRaw || raw, borrowsSafe := n.borrowsSafe || safe }
  (t.update id raise, changed || (raw && !n.borrowsRaw) || (safe && !n.borrowsSafe))

/-- All nodes in order; a flag that is raised counts for the nodes after it at once. -/
def sweep (t : TypeTable) (edges : Edges) : TypeTable × Bool :=
  t.ids.foldl (visit edges) (t, false)

/-- Sweeps while flags are raised, at most `budget` times more, and counts the sweeps. -/
def settle (edges : Edges) : (budget : Nat) → TypeTable → TypeTable × Nat
  | 0, t => (t, 0)
  | budget + 1, t =>
    match t.sweep edges with
    | (t, false) => (t, 1)
    | (t, true) =>
      let (t, count) := settle edges budget t
      (t, count + 1)

/-- Two flags a node can be raised, and the last sweep raises none. -/
def propagate (t : TypeTable) (edges : Edges) : TypeTable × Nat :=
  settle edges (2 * t.size + 1) t

end TypeTable

end Bindery
