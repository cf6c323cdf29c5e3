import Bindery.Proofs.Resolution
import Bindery.Wrapper
import Mathlib.Data.List.Nodup

/-!
# Handles of allocated structs

Every struct that a declared function allocates has one root. Which handle the function hands out is
found by the name that it allocates under: that of the first root by this name, which can be the
root of another struct whose short name is the same in Pascal case.
-/
namespace Bindery

open Typing

theorem Table.find?_of_mem {α : Type} {t : Table α} {name : String} {a : α}
    (member : (name, a) ∈ t.entries) : t.find? name = some a := by
  obtain ⟨before, after, split⟩ := List.append_of_mem member
  have ordered := t.ordered
  rw [split, List.pairwise_append] at ordered
  refine List.lookup_eq_some_iff.2 ⟨before, after, split, fun entry inside => ?_⟩
  have earlier : entry.1 < name := ordered.2.2 entry inside (name, a) List.mem_cons_self
  simpa using (String.ne_of_lt earlier).symm

theorem Table.find?_eq_some_iff {α : Type} {t : Table α} {name : String} {a : α} :
    t.find? name = some a ↔ (name, a) ∈ t.entries := by
  refine ⟨fun found => ?_, find?_of_mem⟩
  obtain ⟨before, after, split, _⟩ := List.lookup_eq_some_iff.1 found
  rw [split]
  exact List.mem_append_right _ List.mem_cons_self

theorem Table.forall_find?_iff {α : Type} {t : Table α} {P : String → α → Prop} :
    (∀ key a, t.find? key = some a → P key a) ↔ ∀ e ∈ t.entries, P e.1 e.2 := by
  simp only [find?_eq_some_iff, Prod.forall]

theorem Table.exists_find?_of_mem_values {α : Type} {t : Table α} {a : α} (member : a ∈ t.values) :
    ∃ name, t.find? name = some a := by
  obtain ⟨⟨name, _⟩, inside, rfl⟩ := List.mem_map.1 member
  exact ⟨name, find?_of_mem inside⟩

/-- An element is the first of its kind if none before it is of that kind. -/
theorem find?_split_eq_some_iff {α : Type} {p : α → Bool} {before after : List α} {a : α}
    (fresh : a ∉ before) :
    (before ++ a :: after).find? p = some a ↔ p a ∧ ∀ other ∈ before, ¬p other := by
  rw [List.find?_append]
  constructor
  · intro found
    cases earlier : before.find? p with
    | none =>
      rw [earlier, Option.none_or] at found
      exact ⟨List.find?_some found, List.find?_eq_none.1 earlier⟩
    | some first =>
      rw [earlier, Option.some_or] at found
      cases found
      exact absurd (List.mem_of_find?_eq_some earlier) fresh
  · rintro ⟨holds, none⟩
    rw [List.find?_eq_none.2 none, Option.none_or, List.find?_cons_of_pos holds]

namespace Description

def Keyed (d : Description) : Prop := ∀ key s, d.structs.find? key = some s → s.name = key

instance (d : Description) : Decidable d.Keyed := decidable_of_iff _ Table.forall_find?_iff.symm

variable {d : Description} {name : String} {s other : StructDecl}

theorem allocated?_eq_some_iff : d.allocated? name = some s ↔ d.structs.find? name = some s ∨
    d.structs.find? name = none ∧ d.structs.values.find?
      (fun s => namesStruct s.name (Ident.toPascal s.shortName) name) = some s := by
  simp [allocated?]

/-- What is allocated is described. -/
theorem described_of_allocated (found : d.allocated? name = some s) :
    ∃ key, d.structs.find? key = some s := by
  rcases allocated?_eq_some_iff.1 found with keyed | ⟨_, named⟩
  · exact ⟨name, keyed⟩
  · exact Table.exists_find?_of_mem_values (List.mem_of_find?_eq_some named)

/-- Under its own name a struct is allocated by what it is called. -/
theorem Keyed.namesStruct (keyed : d.Keyed) (found : d.allocated? name = some s) :
    namesStruct s.name (Ident.toPascal s.shortName) name := by
  rcases allocated?_eq_some_iff.1 found with key | ⟨_, named⟩
  · simp [Bindery.namesStruct, keyed name s key]
  · have holds := List.find?_some named
    exact holds

/-- Structs under their own names are the same if their names are. -/
theorem Keyed.eq_of_name (keyed : d.Keyed) {key key' : String}
    (found : d.structs.find? key = some s) (found' : d.structs.find? key' = some other)
    (same : s.name = other.name) : s = other := by
  rw [keyed key s found, keyed key' other found'] at same
  rw [same, found'] at found
  exact (Option.some.inj found).symm

end Description

namespace Library

variable {lib : Library} {t t' : TypeTable} {s : StructDecl} {r : Root} {roots roots' : List Root}
  {f : FunctionDecl} {done rest : List FunctionDecl} {name : String}

theorem root_made (run : on (lib.root s) t = (.ok r, t')) :
    r.native = s.name ∧ r.name = Ident.toPascal s.shortName ∧ r.handle = r.name ++ "Root" := by
  unfold root at run
  obtain ⟨_, _, _, run⟩ := on_bind_eq_ok.1 run
  obtain ⟨_, _, _, run⟩ := on_bind_eq_ok.1 run
  obtain ⟨_, _, _, run⟩ := on_bind_eq_ok.1 run
  cases run
  exact ⟨rfl, rfl, rfl⟩

/-- A function adds the root of what it allocates, unless it is there. -/
theorem addRoot_cases (run : on (lib.addRoot roots f) t = (.ok roots', t')) :
    (f.allocType = none ∧ roots' = roots) ∨
    ∃ name s, f.allocType = some name ∧ lib.description.allocated? name = some s ∧
      ((∃ r ∈ roots, r.native = s.name) ∧ roots' = roots ∨
        (∀ r ∈ roots, r.native ≠ s.name) ∧
          ∃ r, on (lib.root s) t = (.ok r, t') ∧ roots' = roots ++ [r]) := by
  unfold addRoot at run
  split at run
  next none =>
    cases run
    exact .inl ⟨none, rfl⟩
  next name alloc =>
    split at run
    next => cases run
    next s found =>
      refine .inr ⟨name, s, alloc, found, ?_⟩
      split at run
      next present =>
        cases run
        exact .inl ⟨by simpa using present, rfl⟩
      next absent =>
        obtain ⟨r, _, made, run⟩ := on_bind_eq_ok.1 run
        cases run
        exact .inr ⟨by simpa using absent, r, made, rfl⟩

def Rooted (lib : Library) (roots : List Root) (f : FunctionDecl) : Prop :=
  ∀ name, f.allocType = some name →
    ∃ s, lib.description.allocated? name = some s ∧ ∃ r ∈ roots, r.native = s.name

theorem Rooted.mono (rooted : lib.Rooted roots f) (more : roots ⊆ roots') :
    lib.Rooted roots' f := by
  intro name alloc
  obtain ⟨s, found, r, member, native⟩ := rooted name alloc
  exact ⟨s, found, r, more member, native⟩

theorem rooted_of_mem (alloc : f.allocType = some name)
    (found : lib.description.allocated? name = some s) (present : ∃ r ∈ roots, r.native = s.name) :
    lib.Rooted roots f := by
  intro name' alloc'
  obtain rfl := Option.some.inj (alloc.symm.trans alloc')
  exact ⟨s, found, present⟩

/-- The roots of some functions: one a struct that they allocate, each made for a described one. -/
structure Collected (lib : Library) (done : List FunctionDecl) (roots : List Root) : Prop where
  distinct : (roots.map (·.native)).Nodup
  described : ∀ r ∈ roots, ∃ key s, lib.description.structs.find? key = some s ∧
    r.native = s.name ∧ r.name = Ident.toPascal s.shortName
  covers : ∀ f ∈ done, lib.Rooted roots f

theorem collected_nil (lib : Library) : lib.Collected [] [] := ⟨List.nodup_nil, by simp, by simp⟩

/-- A function whose struct has a root adds none. -/
theorem Collected.concat (collected : lib.Collected done roots) (rooted : lib.Rooted roots f) :
    lib.Collected (done ++ [f]) roots where
  distinct := collected.distinct
  described := collected.described
  covers := List.forall_mem_append.2 ⟨collected.covers, by simpa using rooted⟩

theorem Collected.addRoot (collected : lib.Collected done roots)
    (run : on (lib.addRoot roots f) t = (.ok roots', t')) : lib.Collected (done ++ [f]) roots' := by
  obtain ⟨alloc, rfl⟩ | ⟨name, s, alloc, found, ⟨present, rfl⟩ | ⟨absent, r, made, rfl⟩⟩ :=
    addRoot_cases run
  · have rooted : lib.Rooted roots' f := by simp [Rooted, alloc]
    exact collected.concat rooted
  · exact collected.concat (rooted_of_mem alloc found present)
  · obtain ⟨native, name, _⟩ := root_made made
    obtain ⟨key, known⟩ := Description.described_of_allocated found
    have rooted : lib.Rooted (roots ++ [r]) f := rooted_of_mem alloc found ⟨r, by simp, native⟩
    refine ⟨?_, List.forall_mem_append.2 ⟨collected.described, ?_⟩,
      List.forall_mem_append.2 ⟨fun g member => ?_, by simpa using rooted⟩⟩
    · rw [List.map_append, List.nodup_append]
      refine ⟨collected.distinct, List.nodup_singleton _, ?_⟩
      simpa [native] using absent
    · simpa using ⟨key, s, known, native, name⟩
    · exact (collected.covers g member).mono (by simp)

theorem Collected.addRoots (collected : lib.Collected done roots)
    (run : on (rest.foldlM lib.addRoot roots) t = (.ok roots', t')) :
    lib.Collected (done ++ rest) roots' := by
  induction rest generalizing done roots t with
  | nil =>
    cases run
    simpa using collected
  | cons f rest ih =>
    rw [List.foldlM_cons] at run
    obtain ⟨between, _, first, later⟩ := on_bind_eq_ok.1 run
    simpa using ih (collected.addRoot first) later

def declaredFunctions (lib : Library) : List FunctionDecl :=
  (lib.description.declared .function).filterMap lib.description.functions.find?

theorem collected (run : on lib.roots t = (.ok roots, t')) :
    lib.Collected lib.declaredFunctions roots := by
  have all := lib.collected_nil.addRoots run
  rwa [List.nil_append] at all

/-- What a function hands out that allocates a struct under a name. -/
structure Handing (lib : Library) (roots : List Root) (f : FunctionDecl) (name : String)
    (s : StructDecl) (before : List Root) (own : Root) (handed : Option Root) : Prop where
  struct : lib.description.allocated? name = some s
  place : ∃ after, roots = before ++ own :: after
  native : own.native = s.name
  /-- The struct has no second root. -/
  alone : ∀ r ∈ roots, r.native = s.name → r = own
  member : ∀ r ∈ handed, r ∈ roots
  hands : ∀ r ∈ handed, ∀ t result, returnShape t roots f result = .ok (.root r.handle)
  lacks : handed = none →
    ∀ t result, returnShape t roots f result = .error (.missingLifecycle name .both)
  /-- The root of the struct is handed out if it goes by the name and none before it does. -/
  own_iff : handed = some own ↔
    own.isAllocatedAs name ∧ ∀ other ∈ before, ¬other.isAllocatedAs name
  /-- Where structs are described under their own names, some root is handed out, and it is that of
  another struct only if the short name of that one is the name in Pascal case. -/
  keyed : lib.description.Keyed →
    handed ≠ none ∧ (handed = some own ↔ ∀ other ∈ before, other.name ≠ Ident.toPascal name)

theorem Collected.isAllocatedAs (collected : lib.Collected done roots)
    (keyed : lib.description.Keyed) (found : lib.description.allocated? name = some s)
    (member : r ∈ roots) (native : r.native = s.name) : r.isAllocatedAs name := by
  obtain ⟨key, known⟩ := Description.described_of_allocated found
  obtain ⟨key', s', known', native', pascal⟩ := collected.described r member
  obtain rfl := keyed.eq_of_name known known' (native.symm.trans native')
  rw [Root.isAllocatedAs, native', pascal]
  exact keyed.namesStruct found

/-- Only a short name takes a struct by the name of another. -/
theorem Collected.isAllocatedAs_other (collected : lib.Collected done roots)
    (keyed : lib.description.Keyed) (found : lib.description.allocated? name = some s)
    (member : r ∈ roots) (other : r.native ≠ s.name) :
    r.isAllocatedAs name ↔ r.name = Ident.toPascal name := by
  obtain ⟨key, s', known, native, _⟩ := collected.described r member
  have apart : r.native ≠ name := by
    intro same
    -- Under its key the struct would be found first, and it would be the own one.
    have key : key = name := by rw [← keyed key s' known, ← native, same]
    rw [key] at known
    have first : lib.description.allocated? name = some s' :=
      Description.allocated?_eq_some_iff.2 (.inl known)
    obtain rfl := Option.some.inj (found.symm.trans first)
    exact other native
  simp [Root.isAllocatedAs, Bindery.namesStruct, apart]

/-- A function that allocates a struct hands out the handle of the first root by the name that it
allocates under. -/
theorem handing_of_roots (run : on lib.roots t = (.ok roots, t'))
    (declared : f ∈ lib.declaredFunctions) (alloc : f.allocType = some name) :
    ∃ s before own, lib.Handing roots f name s before own
      (roots.find? (·.isAllocatedAs name)) := by
  have collected := collected run
  obtain ⟨s, found, own, member, native⟩ := collected.covers f declared name alloc
  obtain ⟨before, after, place⟩ := List.append_of_mem member
  have alone (r : Root) (inside : r ∈ roots) (same : r.native = s.name) : r = own :=
    List.inj_on_of_nodup_map collected.distinct inside member (same.trans native.symm)
  -- The roots have different native names, so none before the own one is found in its place.
  have apart (other : Root) (inside : other ∈ before) : other.native ≠ s.name := by
    have distinct := collected.distinct
    rw [place, List.map_append, List.nodup_append] at distinct
    rw [← native]
    exact distinct.2.2 _ (List.mem_map_of_mem inside) _ (by simp)
  have own_iff : roots.find? (·.isAllocatedAs name) = some own ↔
      own.isAllocatedAs name ∧ ∀ other ∈ before, ¬other.isAllocatedAs name := by
    rw [place]
    exact find?_split_eq_some_iff fun inside => apart own inside native
  refine ⟨s, before, own, found, ⟨after, place⟩, native, alone, ?_, ?_, ?_, own_iff, ?_⟩
  · exact fun r handed => List.mem_of_find?_eq_some handed
  · intro r handed t result
    have handed : roots.find? (·.isAllocatedAs name) = some r := handed
    simp only [returnShape, alloc, handed]
  · intro missing t result
    simp only [returnShape, alloc, missing]
  · intro keyed
    have goes := collected.isAllocatedAs keyed found member native
    refine ⟨fun missing => List.find?_eq_none.1 missing own member goes, own_iff.trans ?_⟩
    rw [and_iff_right goes]
    refine forall₂_congr fun other inside => not_congr ?_
    have within : other ∈ roots := place ▸ List.mem_append_left _ inside
    exact collected.isAllocatedAs_other keyed found within (apart other inside)

def opening (name struct : String) : FunctionDecl :=
  { name, shortName := name, returnType := struct ++ "*", allocType := some struct }

def keeping (name : String) (kind : FunctionKind) (type : String) : FunctionDecl :=
  { name, shortName := name, kind, args := [{ name := "this", type }] }

def crossedNames : Library where
  description := {
    types := ⟨[("my_scene", { kind := .struct }),
      ("my_scene*", { kind := .pointer, inner := some "my_scene" }),
      ("scene", { kind := .struct }),
      ("scene*", { kind := .pointer, inner := some "scene" })], by decide⟩
    structs := ⟨[("my_scene", { name := "my_scene", shortName := "scene" }),
      ("scene", { name := "scene", shortName := "world" })], by decide⟩
    functions := ⟨[
      ("free_scene", keeping "free_scene" .free "my_scene*"),
      ("free_world", keeping "free_world" .free "scene*"),
      ("open_scene", opening "open_scene" "my_scene"),
      ("open_world", opening "open_world" "scene"),
      ("retain_scene", keeping "retain_scene" .retain "my_scene*"),
      ("retain_world", keeping "retain_world" .retain "scene*")], by decide⟩
    declarations := [⟨.function, "open_scene"⟩, ⟨.function, "open_world"⟩] }
  config := { link := "scenes" }

/-- A world is handed out with the handle of a scene. -/
theorem openWorld_hands_scene : ∃ roots t s before own handed,
    on crossedNames.roots {} = (.ok roots, t) ∧
    opening "open_world" "scene" ∈ crossedNames.declaredFunctions ∧
    (opening "open_world" "scene").allocType = some "scene" ∧
    crossedNames.Handing roots (opening "open_world" "scene") "scene" s before own handed ∧
    own.handle = "WorldRoot" ∧ handed.map (·.handle) = some "SceneRoot" := by
  have declared : opening "open_world" "scene" ∈ crossedNames.declaredFunctions := by
    decide +kernel
  have checked : (match on crossedNames.roots {} with
      | (.ok roots, _) => decide ((∀ r ∈ roots, r.native = "scene" → r.handle = "WorldRoot") ∧
          (roots.find? (·.isAllocatedAs "scene")).map (·.handle) = some "SceneRoot")
      | (.error _, _) => false) = true := by decide +kernel
  split at checked
  next roots t run =>
    obtain ⟨world, handed⟩ := of_decide_eq_true checked
    obtain ⟨s, before, own, handing⟩ := handing_of_roots run declared rfl
    refine ⟨roots, t, s, before, own, _, run, declared, rfl, handing, ?_, handed⟩
    obtain ⟨after, place⟩ := handing.place
    have native : (crossedNames.description.allocated? "scene").map (·.name) = some "scene" := by
      decide +kernel
    rw [handing.struct, Option.map_some, Option.some.injEq] at native
    refine world own (place ▸ by simp) ?_
    rw [handing.native, native]
  next => cases checked

end Library

end Bindery
