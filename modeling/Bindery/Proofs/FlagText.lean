import Bindery.Native.Flags
import Mathlib.Data.List.Nodup

/-!
# Texts of flags

The text of a set names the flags that lie in it. Flags of a table may overlap and contain each
other, so the named ones make up the greatest part of the set that flags of the table make up at all.
From a text of legible names that part is read back.
-/
namespace Bindery

/-! ### Sets of bits -/

namespace Flags

variable {s t : Flags} {i : Fin 32}

instance : Membership (Fin 32) Flags := ⟨fun s i => s.bits.toBitVec[i] = true⟩

instance : HasSubset Flags := ⟨fun s t => ∀ i ∈ s, i ∈ t⟩

instance (i : Fin 32) (s : Flags) : Decidable (i ∈ s) :=
  inferInstanceAs (Decidable (s.bits.toBitVec[i] = true))

instance (s t : Flags) : Decidable (s ⊆ t) := inferInstanceAs (Decidable (∀ i ∈ s, i ∈ t))

theorem mem_def : i ∈ s ↔ s.bits.toBitVec[i] = true := .rfl

theorem mem_or : i ∈ s ||| t ↔ i ∈ s ∨ i ∈ t := by
  have bits : (s ||| t).bits = s.bits ||| t.bits := rfl
  simp [mem_def, bits]

theorem mem_and : i ∈ s &&& t ↔ i ∈ s ∧ i ∈ t := by
  have bits : (s &&& t).bits = s.bits &&& t.bits := rfl
  simp [mem_def, bits]

theorem not_mem_empty : i ∉ ({} : Flags) := by simp [mem_def]

theorem eq_of_mem_iff (same : ∀ i, i ∈ s ↔ i ∈ t) : s = t := by
  obtain ⟨a⟩ := s
  obtain ⟨b⟩ := t
  refine congrArg Flags.mk (UInt32.toBitVec_inj.1 (BitVec.eq_of_getElem_eq fun i small => ?_))
  exact Bool.eq_iff_iff.2 (same ⟨i, small⟩)

theorem Subset.antisymm (sub : s ⊆ t) (super : t ⊆ s) : s = t :=
  eq_of_mem_iff fun i => ⟨sub i, super i⟩

theorem contains_iff_subset : s.contains t ↔ t ⊆ s := by
  have meet : s.contains t ↔ s &&& t = t := by
    rw [contains, decide_eq_true_iff, ← Flags.mk.injEq]
    rfl
  rw [meet]
  constructor
  · intro same i member
    rw [← same] at member
    exact (mem_and.1 member).1
  · exact fun sub => eq_of_mem_iff fun i => mem_and.trans (and_iff_right_of_imp (sub i))

end Flags

def Flag.set (f : Flag) : Flags := ⟨f.bits⟩

theorem Flag.bits_ne_zero_of_mem {f : Flag} {i : Fin 32} (member : i ∈ f.set) : f.bits ≠ 0 := by
  intro zero
  rw [set, zero] at member
  exact Flags.not_mem_empty member

/-! ### Flags of a table -/

namespace Flags

variable {s t : Flags} {table flags : List Flag}

def union (flags : List Flag) : Flags := flags.foldr (fun f s => f.set ||| s) {}

theorem mem_union {i : Fin 32} : i ∈ union flags ↔ ∃ f ∈ flags, i ∈ f.set := by
  induction flags with
  | nil => simp [union, not_mem_empty]
  | cons f flags ih =>
    rw [union, List.foldr_cons, mem_or, ← union, ih]
    simp

theorem union_subset_iff : union flags ⊆ s ↔ ∀ f ∈ flags, f.set ⊆ s := by
  refine ⟨fun sub f member i bit => sub i (mem_union.2 ⟨f, member, bit⟩), fun each i bit => ?_⟩
  obtain ⟨f, member, bit⟩ := mem_union.1 bit
  exact each f member i bit

theorem named_eq_filter (s : Flags) (table : List Flag) :
    s.named table = table.filter fun f => f.bits ≠ 0 ∧ f.set ⊆ s := by
  refine List.filter_congr fun f _ => Bool.eq_iff_iff.2 ?_
  have within : s.contains ⟨f.bits⟩ ↔ f.set ⊆ s := contains_iff_subset
  simp [within]

theorem mem_named_iff {f : Flag} :
    f ∈ s.named table ↔ f ∈ table ∧ f.bits ≠ 0 ∧ f.set ⊆ s := by
  rw [mem_named, contains_iff_subset, Flag.set]

theorem union_named_subset (s : Flags) (table : List Flag) : union (s.named table) ⊆ s :=
  union_subset_iff.2 fun _ member => (mem_named_iff.1 member).2.2

/-- A flag in the set is named as soon as it has a bit. -/
theorem union_subset_named (listed : flags ⊆ table) (sub : union flags ⊆ s) :
    union flags ⊆ union (s.named table) := by
  intro i bit
  obtain ⟨f, member, bit⟩ := mem_union.1 bit
  have named : f ∈ s.named table := mem_named_iff.2
    ⟨listed member, Flag.bits_ne_zero_of_mem bit, union_subset_iff.1 sub f member⟩
  exact mem_union.2 ⟨f, named, bit⟩

theorem union_named_union (listed : flags ⊆ table) :
    union ((union flags).named table) = union flags :=
  Subset.antisymm (union_named_subset _ table) (union_subset_named listed fun _ => id)

/-! ### Reading -/

/-- Names that can be told apart in a text. One of them may be empty. -/
structure Legible (table : List Flag) : Prop where
  distinct : (table.map Flag.name).Nodup
  whole : ∀ f ∈ table, '|' ∉ f.name.toList
  other : ∀ f ∈ table, f.name ≠ "NONE"

instance : DecidablePred Legible := fun table =>
  decidable_of_iff ((table.map Flag.name).Nodup ∧
      ∀ f ∈ table, '|' ∉ f.name.toList ∧ f.name ≠ "NONE")
    ⟨fun ⟨distinct, each⟩ =>
        ⟨distinct, fun f member => (each f member).1, fun f member => (each f member).2⟩,
      fun legible => ⟨legible.distinct,
        fun f member => ⟨legible.whole f member, legible.other f member⟩⟩⟩

def read (table : List Flag) (text : String) : Flags :=
  union (table.filter fun f => f.name.toList ∈ text.toList.splitOn '|')

theorem text_eq (table : List Flag) (s : Flags) : text table s =
    if s.named table = [] then "NONE" else "|".intercalate ((s.named table).map Flag.name) := by
  unfold text
  split
  next none => rw [if_pos none]
  next filled => rw [if_neg filled]

/-- The pieces of a text are the names in it. -/
theorem splitOn_text (legible : Legible table) (s : Flags) :
    (text table s).toList.splitOn '|' =
      if s.named table = [] then ["NONE".toList] else (s.named table).map fun f => f.name.toList := by
  rw [text_eq]
  split
  next => rfl
  next filled =>
    have whole : ∀ name ∈ ((s.named table).map Flag.name).map String.toList, '|' ∉ name := by
      simp only [List.map_map, List.forall_mem_map]
      exact fun f member => legible.whole f (mem_named_iff.1 member).1
    rw [String.toList_intercalate]
    refine (List.splitOn_intercalate '|' whole (by simpa using filled)).trans ?_
    rw [List.map_map]
    rfl

theorem name_mem_text_iff (legible : Legible table) {f : Flag} (member : f ∈ table) :
    f.name.toList ∈ (text table s).toList.splitOn '|' ↔ f ∈ s.named table := by
  rw [splitOn_text legible]
  split
  next none =>
    rw [none, List.mem_singleton, String.toList_inj]
    exact iff_of_false (legible.other f member) List.not_mem_nil
  next =>
    refine ⟨fun named => ?_, List.mem_map_of_mem⟩
    obtain ⟨g, named, same⟩ := List.mem_map.1 named
    have alike : f = g := List.inj_on_of_nodup_map legible.distinct member
      (mem_named_iff.1 named).1 (String.toList_inj.1 same.symm)
    exact alike ▸ named

theorem read_text (legible : Legible table) (s : Flags) :
    read table (text table s) = union (s.named table) := by
  rw [read, named_eq_filter]
  refine congrArg union (List.filter_congr fun f member => Bool.eq_iff_iff.2 ?_)
  simpa [mem_named_iff, member] using name_mem_text_iff (s := s) legible member

/-- The text of a set names, in the order of the table, the flags that have bits and lie in the set.
Their union is the greatest one of flags of the table in the set, and is read back from the text if
the names are legible. So unions of flags of the table that have one text are equal then. -/
theorem text_decodes (table : List Flag) :
    (∀ s : Flags,
      let shown := table.filter fun f => f.bits ≠ 0 ∧ f.set ⊆ s
      text table s = (if shown = [] then "NONE" else "|".intercalate (shown.map Flag.name)) ∧
        union shown ⊆ s ∧ (∀ flags ⊆ table, union flags ⊆ s → union flags ⊆ union shown) ∧
        (Legible table → read table (text table s) = union shown)) ∧
    (Legible table → ∀ flags ⊆ table, ∀ others ⊆ table,
      text table (union flags) = text table (union others) → union flags = union others) := by
  refine ⟨fun s => ?_, fun legible flags listed others listed' same => ?_⟩
  · intro shown
    have named : s.named table = shown := named_eq_filter s table
    rw [← named]
    exact ⟨text_eq table s, union_named_subset s table,
      fun flags listed sub => union_subset_named listed sub, fun legible => read_text legible s⟩
  · calc union flags = union ((union flags).named table) := (union_named_union listed).symm
      _ = read table (text table (union flags)) := (read_text legible _).symm
      _ = read table (text table (union others)) := by rw [same]
      _ = union ((union others).named table) := read_text legible _
      _ = union others := union_named_union listed'

/-- A pair contains one of its halves, so its text is that of both. -/
theorem pair_decoded :
    let low : Flag := { name := "LOW", bits := 1 }
    let pair : Flag := { name := "PAIR", bits := 3 }
    let table := [low, { name := "ZERO", bits := 0 }, pair, { name := "TOP", bits := 0x80000000 }]
    let s : Flags := { bits := 0x8000000b }
    Legible table ∧ text table s = "LOW|PAIR|TOP" ∧
      [low, pair] ⊆ table ∧ union [low, pair] ⊆ s ∧
      union [low, pair] ⊆ union (table.filter fun f => f.bits ≠ 0 ∧ f.set ⊆ s) ∧
      read table "LOW|PAIR|TOP" = { bits := 0x80000003 } ∧ [pair] ⊆ table ∧
      text table (union [low, pair]) = text table (union [pair]) ∧
      union [low, pair] = union [pair] := by
  intro low pair table s
  obtain ⟨each, alike⟩ := text_decodes table
  obtain ⟨written, -, greatest, reads⟩ := each s
  have legible : Legible table := by decide +kernel
  have shown : text table s = "LOW|PAIR|TOP" := by decide +kernel
  have listed : [low, pair] ⊆ table := by decide +kernel
  have within : union [low, pair] ⊆ s := by decide +kernel
  have listed' : [pair] ⊆ table := by decide +kernel
  have same : text table (union [low, pair]) = text table (union [pair]) := by decide +kernel
  have back := reads legible
  rw [shown] at back
  exact ⟨legible, shown, listed, within, greatest _ listed within,
    back.trans (by decide +kernel), listed', same,
    alike legible _ listed _ listed' same⟩

end Flags

end Bindery
