/-!
# Tables

Finite maps from names to values, kept in the order of their names.
-/
namespace Bindery

theorem Table.ordered_nil {α : Type} : ([] : List (String × α)).Pairwise (·.1 < ·.1) := .nil

@[ext] structure Table (α : Type) where
  entries : List (String × α) := []
  ordered : entries.Pairwise (·.1 < ·.1) := by exact Table.ordered_nil
  deriving DecidableEq, Repr

namespace Table

/-- A value under a name that is there already takes its place. -/
def insertEntry (name : String) (a : α) : List (String × α) → List (String × α)
  | [] => [(name, a)]
  | (key, b) :: rest =>
    if name < key then (name, a) :: (key, b) :: rest
    else if key < name then (key, b) :: insertEntry name a rest
    else (key, a) :: rest

theorem lt_of_mem_insertEntry {name bound : String} {a : α} {entries : List (String × α)}
    (below : bound < name) (all : ∀ e ∈ entries, bound < e.1) :
    ∀ e ∈ insertEntry name a entries, bound < e.1 := by
  induction entries with
  | nil => simpa [insertEntry] using below
  | cons entry rest ih =>
    intro e member
    have first := all entry (by simp)
    have later := fun e h => all e (List.mem_cons_of_mem _ h)
    unfold insertEntry at member
    split at member
    · simp only [List.mem_cons] at member
      rcases member with rfl | rfl | h
      · exact below
      · exact first
      · exact later e h
    · split at member <;> simp only [List.mem_cons] at member
      · rcases member with rfl | h
        · exact first
        · exact ih later e h
      · rcases member with rfl | h
        · exact first
        · exact later e h

theorem pairwise_insertEntry (name : String) (a : α) {entries : List (String × α)}
    (ordered : entries.Pairwise (·.1 < ·.1)) :
    (insertEntry name a entries).Pairwise (·.1 < ·.1) := by
  induction entries with
  | nil => simp [insertEntry]
  | cons entry rest ih =>
    have ⟨first, later⟩ := List.pairwise_cons.1 ordered
    unfold insertEntry
    split
    · rename_i before
      refine List.pairwise_cons.2 ⟨fun e h => ?_, ordered⟩
      rcases List.mem_cons.1 h with rfl | h
      · exact before
      · exact String.lt_trans before (first e h)
    · split
      · rename_i after
        exact List.pairwise_cons.2 ⟨lt_of_mem_insertEntry after first, ih later⟩
      · exact List.pairwise_cons.2 ⟨first, later⟩

def insert (t : Table α) (name : String) (a : α) : Table α :=
  ⟨insertEntry name a t.entries, pairwise_insertEntry name a t.ordered⟩

/-- Of several entries under one name the last one counts. -/
def ofList (entries : List (String × α)) : Table α :=
  entries.foldl (fun t e => t.insert e.1 e.2) {}

def find? (t : Table α) (name : String) : Option α := t.entries.lookup name

def contains (t : Table α) (name : String) : Bool := (t.find? name).isSome

def keys (t : Table α) : List String := t.entries.map (·.1)

def values (t : Table α) : List α := t.entries.map (·.2)

def map (f : String → α → β) (t : Table α) : Table β :=
  ⟨t.entries.map fun e => (e.1, f e.1 e.2), t.ordered.map _ fun _ _ h => h⟩

instance : Inhabited (Table α) := ⟨{}⟩

def pending (t : Table α) (done : List String) : List String := t.keys.filter (· ∉ done)

@[simp] theorem keys_map (f : String → α → β) (t : Table α) : (t.map f).keys = t.keys := by
  simp [keys, map]

theorem mem_keys_of_find? {t : Table α} {name : String} {a : α} (found : t.find? name = some a) :
    name ∈ t.keys := by
  unfold find? at found
  unfold keys
  generalize t.entries = entries at found
  induction entries with
  | nil => simp at found
  | cons entry rest ih =>
    by_cases same : name = entry.1
    · simp [same]
    · rw [List.lookup_cons, beq_false_of_ne same] at found
      exact List.mem_cons_of_mem _ (ih found)

theorem pending_lt {t : Table α} {name : String} {done : List String} (known : name ∈ t.keys)
    (fresh : name ∉ done) : (t.pending (name :: done)).length < (t.pending done).length := by
  have subset : t.pending (name :: done) = (t.pending done).filter (· ≠ name) := by
    simp only [pending, List.filter_filter, List.mem_cons, not_or, decide_not, Bool.decide_and]
  rw [subset, List.length_filter_lt_length_iff_exists]
  exact ⟨name, by simp [pending, known, fresh], by simp⟩

end Table

end Bindery
