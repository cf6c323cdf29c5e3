import Bindery.Proofs.Analysis
import Bindery.Types.Spelling

/-!
# Spellings without lifetimes

What a type is spelled with is what it is made of. So when lifetimes have settled, a type that does
not borrow is spelled without one at any depth.
-/
namespace Bindery

namespace Spelling

def Fixed (s : Spelling) : Prop := ∀ lifetime other, s.text lifetime = s.text other

theorem fixed_named (name : String) : (named name false).Fixed := fun _ _ => by simp

variable {s : Spelling}

theorem Fixed.pointer (isConst : Bool) (fixed : s.Fixed) : (Spelling.pointer isConst s).Fixed :=
  fun lifetime other => by simp [fixed lifetime other]

theorem Fixed.array (length : Nat) (fixed : s.Fixed) : (Spelling.array s length).Fixed :=
  fun lifetime other => by simp [fixed lifetime other]

theorem Fixed.ref (isNullable : Bool) (fixed : s.Fixed) : (Spelling.ref isNullable s).Fixed :=
  fun lifetime other => by simp [fixed lifetime other]

theorem Fixed.list (view : ListView) (fixed : s.Fixed) : (Spelling.list view s).Fixed :=
  fun lifetime other => by simp [fixed lifetime other]

theorem texts_of_fixed {params : List Spelling} (fixed : ∀ p ∈ params, p.Fixed)
    (lifetime other : String) : texts lifetime params = texts other params := by
  induction params with
  | nil => rfl
  | cons p params ih =>
    have ⟨first, rest⟩ := List.forall_mem_cons.1 fixed
    rw [texts_cons, texts_cons, first lifetime other, ih rest]

theorem Fixed.function {params : List Spelling} {result : Option Spelling}
    (parts : ∀ p ∈ params, p.Fixed) (back : ∀ r ∈ result, r.Fixed) :
    (Spelling.function params result).Fixed := by
  intro lifetime other
  have results : resultText lifetime result = resultText other result := by
    cases result with
    | none => rfl
    | some r => rw [resultText_some, resultText_some, back r rfl lifetime other]
  rw [text_function, text_function, texts_of_fixed parts lifetime other, results]

end Spelling

namespace TypeTable

variable {t t' : TypeTable} {edges : Edges}

/-- All that a type is spelled with is reached by steps that raise its flag. -/
structure Linked (t : TypeTable) (edges : Edges) : Prop where
  inner : ∀ {id inner}, (t.node id).inner = some inner → t.Step edges .native id inner
  param : ∀ {id param}, param ∈ (t.node id).params → t.Step edges .native id param
  item : ∀ {id item}, (t.node id).kind = .struct → (t.node id).isList →
    (t.node id).listItem = some item → t.Step edges .native id item

/-- In a settled table a type that does not borrow is made of such types. -/
theorem Settled.free_of_step (settled : t.Settled edges) {id source : TypeId}
    (step : t.Step edges .native id source) (free : (t.node id).borrowsRaw = false) :
    (t.node source).borrowsRaw = false := by
  by_contra borrows
  have raised := (settled.done .native).borrows_of_path (.single step)
    (by simpa [Node.borrows] using borrows)
  simp [Node.borrows, free] at raised

theorem named_fixed {id : TypeId} (free : (t.node id).borrowsRaw = false) :
    (named (t.node id)).Fixed := by
  rw [named, free]
  exact Spelling.fixed_named _

section Free

variable (settled : t.Settled edges) (linked : t.Linked edges)
include settled linked

theorem free_signature {id : TypeId} (free : (t.node id).borrowsRaw = false) :
    (t.node (t.signature id)).borrowsRaw = false := by
  fun_induction t.signature id with
  | case1 id inner link other earlier ih =>
    exact ih (settled.free_of_step (linked.inner link) free)
  | case2 | case3 => exact free

theorem native_fixed {id : TypeId} (free : (t.node id).borrowsRaw = false) :
    (t.native id).Fixed := by
  induction id using Nat.strongRecOn with
  | ind id ih =>
    rw [native]
    split
    next =>
      have signature := free_signature settled linked free
      refine .function (fun p member => ?_) fun r member => ?_
      · obtain ⟨param, inside, rfl⟩ := List.mem_map.1 member
        split
        next earlier =>
          exact ih param earlier (settled.free_of_step (linked.param inside) signature)
        next => exact Spelling.fixed_named _
      · obtain ⟨result, inside, found⟩ := Option.bind_eq_some_iff.1 member
        have link := (Option.filter_eq_some_iff.1 inside).1
        split at found
        next earlier =>
          cases found
          exact ih result earlier (settled.free_of_step (linked.inner link) signature)
        next => cases found
    next =>
      split
      next => exact named_fixed free
      next inner link =>
        split
        next earlier =>
          have target := ih inner earlier (settled.free_of_step (linked.inner link) free)
          split
          next => exact target.pointer _
          next => exact target.array _
          iterate 2 next => exact target
          next => exact named_fixed free
        next => exact named_fixed free

theorem member_fixed {id : TypeId} (free : (t.node id).borrowsRaw = false) :
    (t.member id).Fixed := by
  induction id using Nat.strongRecOn with
  | ind id ih =>
    have name := named_fixed free
    have inner {inner : TypeId} (link : (t.node id).inner = some inner) (earlier : inner < id) :
        (t.member inner).Fixed :=
      ih inner earlier (settled.free_of_step (linked.inner link) free)
    rw [member]
    split
    next => exact native_fixed settled linked free
    next =>
      split
      iterate 2
        next target _ link =>
          split
          next earlier => exact inner link earlier
          next => exact name
      next target _ link =>
        split
        next earlier => exact (inner link earlier).array _
        next => exact name
      next target _ link =>
        split
        next => exact native_fixed settled linked free
        next =>
          split
          next earlier => exact (inner link earlier).ref _
          next => exact name
      next _ kind =>
        split
        next list =>
          split
          next item link =>
            split
            next earlier =>
              exact (ih item earlier
                (settled.free_of_step (linked.item kind list link) free)).list _
            next => exact name
          next => exact (Spelling.fixed_named _).list _
        next => exact name
      next => exact name

theorem inputMember_fixed {id : TypeId} (free : (t.node id).borrowsRaw = false) :
    (t.inputMember id).Fixed := by
  induction id using Nat.strongRecOn with
  | ind id ih =>
    have name := named_fixed free
    have inner {inner : TypeId} (link : (t.node id).inner = some inner) (earlier : inner < id) :
        (t.inputMember inner).Fixed :=
      ih inner earlier (settled.free_of_step (linked.inner link) free)
    rw [inputMember]
    split
    next => exact native_fixed settled linked free
    next =>
      split
      iterate 2
        next target _ link =>
          split
          next earlier => exact inner link earlier
          next => exact name
      next target _ link =>
        split
        next earlier => exact (inner link earlier).array _
        next => exact name
      next target _ link =>
        split
        next => exact native_fixed settled linked free
        next =>
          exact (member_fixed settled linked
            (settled.free_of_step (linked.inner link) free)).ref _
      next _ kind =>
        split
        next => exact Spelling.fixed_named _
        next =>
          split
          next => exact Spelling.fixed_named _
          next =>
            split
            next list =>
              split
              next item link =>
                split
                next earlier =>
                  exact (ih item earlier
                    (settled.free_of_step (linked.item kind list link) free)).list _
                next => exact name
              next => exact (Spelling.fixed_named _).list _
            next => exact name
      next => exact name

end Free

end TypeTable

namespace Library

variable {lib : Library} {t : TypeTable} {a : Analysis}

/-- The edges of an analysis lead from a list to its items, and every other link of a node is a
step of its own. -/
theorem Analyzed.linked (analyzed : lib.Analyzed t a) :
    a.types.Linked (Edges.ofLayouts t a.layouts) := by
  have same := analyzed.reflagged
  have inside {id : TypeId} (used : t.node id ≠ default) : id < t.size := by
    by_contra outside
    exact used (TypeTable.node_of_le (Nat.not_lt.1 outside))
  refine ⟨fun {id inner} link => ?_, fun {id param} member => ?_,
    fun {id item} kind list link => ?_⟩
  · rw [same.inner] at link
    obtain ⟨_, _, describes⟩ := analyzed.formed.described id
      (inside fun unused => by simp [unused, default] at link)
    rcases describes.wraps link with wrapper | function
    · exact .wrapped (by rwa [same.isWrapper]) (by rwa [same.inner])
    · exact .result (by rwa [same.kind]) (by rwa [same.inner])
  · rw [same.params] at member
    obtain ⟨_, _, describes⟩ := analyzed.formed.described id
      (inside fun unused => by simp [unused, default] at member)
    exact .param (by rw [same.kind, describes.calls member]) (by rwa [same.params])
  · refine .edge kind (List.mem_append_right _ (List.mem_filterMap.2 ⟨id, ?_, ?_⟩))
    · rw [same.kind] at kind
      exact List.mem_range.2 (inside fun unused => by simp [unused, default] at kind)
    · rw [same.kind] at kind
      rw [same.isList] at list
      rw [same.listItem] at link
      simp [kind, list, link]

/-- In the table of an analysis, a type that does not borrow in its native form is written without
a lifetime in native signatures and in the fields of every layout. -/
theorem text_of_not_borrows (success : lib.analyze = .ok a) {id : TypeId}
    (free : (a.types.node id).borrowsRaw = false) (lifetime other : String) :
    a.types.nativeText id lifetime = a.types.nativeText id other ∧
    a.types.memberText id lifetime = a.types.memberText id other ∧
    a.types.inputMemberText id lifetime = a.types.inputMemberText id other := by
  obtain ⟨t, analyzed⟩ := lib.analyzed success
  have settled := analyzed.settled
  have linked := analyzed.linked
  refine ⟨?_, ?_, ?_⟩
  · exact TypeTable.native_fixed settled linked free lifetime other
  · exact TypeTable.member_fixed settled linked free lifetime other
  · exact TypeTable.inputMember_fixed settled linked free lifetime other

def namedNodes : Library where
  description := {
    types := ⟨[("char", { kind := .primitive }),
      ("char*", { kind := .pointer, inner := some "char" }),
      ("name", { kind := .struct }),
      ("name[2]", { kind := .array, inner := some "name", arrayLength := some 2 }),
      ("node", { kind := .struct }),
      ("node*", { kind := .pointer, inner := some "node" })], by decide⟩
    structs := ⟨[
      ("name", {
        name := "name"
        shortName := "name"
        fields := [{ name := "text", type := "char*" }] }),
      ("node", {
        name := "node"
        shortName := "node"
        fields := [{ name := "names", type := "name[2]" }, { name := "next", type := "node*" }] })],
      by decide⟩
    declarations := [⟨.struct, "name"⟩, ⟨.struct, "node"⟩] }
  config := { link := "nodes", types := { rawLifetime := ["node"] } }

/-- The array of names is written without a lifetime though it stands in a node. -/
theorem text_of_names : ∃ a, namedNodes.analyze = .ok a ∧ (a.types.node 5).borrowsRaw ∧
    (a.types.node 3).borrowsRaw = false ∧ ∀ lifetime other,
      a.types.nativeText 3 lifetime = a.types.nativeText 3 other ∧
      a.types.memberText 3 lifetime = a.types.memberText 3 other ∧
      a.types.inputMemberText 3 lifetime = a.types.inputMemberText 3 other := by
  have checked : (match namedNodes.analyze with
      | .ok a => (a.types.node 5).borrowsRaw && !(a.types.node 3).borrowsRaw
      | .error _ => false) = true := by decide +kernel
  split at checked
  next a success =>
    obtain ⟨borrows, free⟩ : (a.types.node 5).borrowsRaw ∧ (a.types.node 3).borrowsRaw = false := by
      simpa using checked
    exact ⟨a, success, borrows, free, text_of_not_borrows success free⟩
  next => cases checked

end Library

end Bindery
