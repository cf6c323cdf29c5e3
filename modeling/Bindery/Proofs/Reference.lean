import Bindery.Proofs.Blueprint
import Mathlib.Logic.Relation

/-!
# References between keys

What the entry of a key refers to, and how its node is put together once that is resolved. Resolving
succeeds where all keys below have fitting entries and none leads back to itself.
-/
namespace Bindery

open Typing

namespace Library

variable {lib : Library} {key other : String} {p : Blueprint}

inductive Refers (lib : Library) (key : String) : String → Prop where
  | inner {ty other} : lib.Composite key ty → ty.kind ∈ [.pointer, .array, .typedef, .const] →
      ty.inner = some other → Refers lib key other
  | result {ty} : lib.Composite key ty → ty.kind = .function →
      Refers lib key (ty.inner.getD "void")
  | param {ty p} : lib.Composite key ty → ty.kind = .function → p ∈ ty.params →
      Refers lib key p.type
  /-- Of its fields a list refers to the first one only, any other struct to none. -/
  | data {ty s first rest} : lib.Composite key ty → ty.kind = .struct →
      lib.description.structs.find? (ty.baseName.getD key) = some s → s.role = .ok .list →
      s.fields = first :: rest → Refers lib key first.type

/-- A key stands for a pointer to another, perhaps behind typedefs and consts. -/
inductive PointerTo (lib : Library) : String → String → Prop where
  | pointer {key ty target} : lib.Composite key ty → ty.kind = .pointer → ty.inner = some target →
      PointerTo lib key target
  | behind {key ty inner target} : lib.Composite key ty → ty.kind = .typedef ∨ ty.kind = .const →
      ty.inner = some inner → PointerTo lib inner target → PointerTo lib key target

inductive Fits (lib : Library) (key : String) : Prop where
  | primitive {ty name} : lib.description.types.find? key = some ty →
      lib.primitive? key = some name → Fits lib key
  | wrapper {ty inner} : lib.Composite key ty → ty.kind ∈ [.pointer, .array, .typedef, .const] →
      ty.inner = some inner → (ty.kind = .array → ty.arrayLength ≠ none) → Fits lib key
  | function {ty} : lib.Composite key ty → ty.kind = .function → Fits lib key
  | struct {ty s role} : lib.Composite key ty → ty.kind = .struct →
      lib.description.structs.find? (ty.baseName.getD key) = some s → s.role = .ok role →
      role ≠ .list → Fits lib key
  | list {ty s first rest target} : lib.Composite key ty → ty.kind = .struct →
      lib.description.structs.find? (ty.baseName.getD key) = some s → s.role = .ok .list →
      s.fields = first :: rest → lib.PointerTo first.type target → Fits lib key
  | enum {ty e} : lib.Composite key ty → ty.kind = .enum →
      lib.description.enums.find? (ty.baseName.getD key) = some e → Fits lib key

theorem refers_iff : lib.Refers key other ↔ ∃ p, lib.blueprint key = .ok p ∧ other ∈ p.refs := by
  simp only [blueprint_eq_ok_iff]
  constructor
  · intro refers
    cases refers with
    | inner composite kind link =>
      exact ⟨_, .wrapper composite kind link, List.mem_singleton_self _⟩
    | result composite kind => exact ⟨_, .function composite kind, List.mem_cons_self⟩
    | param composite kind member =>
      exact ⟨_, .function composite kind, List.mem_cons_of_mem _ (List.mem_map_of_mem member)⟩
    | data composite kind found legal fields =>
      exact ⟨_, .list composite kind found legal fields, List.mem_singleton_self _⟩
  · rintro ⟨p, draws, member⟩
    cases draws with
    | primitive | struct | enum => cases member
    | wrapper composite kind link =>
      obtain rfl := List.mem_singleton.1 member
      exact .inner composite kind link
    | function composite kind =>
      rcases List.mem_cons.1 member with rfl | member
      · exact .result composite kind
      · obtain ⟨p, inside, rfl⟩ := List.mem_map.1 member
        exact .param composite kind inside
    | list composite kind found legal fields =>
      obtain rfl := List.mem_singleton.1 member
      exact .data composite kind found legal fields

end Library

def Blueprint.Finishes (lib : Library) : Blueprint → Prop
  | closed _ | function .. => True
  | wrapper n _ => ¬(n.kind = .array ∧ n.arrayLength = none)
  | list _ _ data => ∃ target, lib.PointerTo data target

namespace Library

variable {lib : Library} {key other : String} {p : Blueprint}

theorem fits_iff : lib.Fits key ↔ ∃ p, lib.blueprint key = .ok p ∧ p.Finishes lib := by
  simp only [blueprint_eq_ok_iff]
  constructor
  · intro fits
    cases fits with
    | primitive known primitive => exact ⟨_, .primitive known primitive, trivial⟩
    | wrapper composite kind link sized =>
      exact ⟨_, .wrapper composite kind link, fun unsized => sized unsized.1 unsized.2⟩
    | function composite kind => exact ⟨_, .function composite kind, trivial⟩
    | struct composite kind found legal other =>
      exact ⟨_, .struct composite kind found legal other, trivial⟩
    | list composite kind found legal fields points =>
      exact ⟨_, .list composite kind found legal fields, _, points⟩
    | enum composite kind found => exact ⟨_, .enum composite kind found, trivial⟩
  · rintro ⟨p, draws, finishes⟩
    cases draws with
    | primitive known primitive => exact .primitive known primitive
    | wrapper composite kind link =>
      exact .wrapper composite kind link fun array length => finishes ⟨array, length⟩
    | function composite kind => exact .function composite kind
    | struct composite kind found legal other => exact .struct composite kind found legal other
    | list composite kind found legal fields =>
      obtain ⟨target, points⟩ := finishes
      exact .list composite kind found legal fields points
    | enum composite kind found => exact .enum composite kind found

/-! ### Built tables -/

section Built

variable {t : TypeTable} {id : TypeId} {target : String}

theorem Built.drawn_of_find? (built : lib.Built t) (found : t.find? key = some id) :
    ∃ p ids, lib.blueprint key = .ok p ∧
      List.Forall₂ (fun name ref => t.find? name = some ref ∧ ref < id) p.refs ids ∧
      p.finish t ids = .ok (t.node id) := by
  obtain ⟨inside, rfl, _⟩ := TypeTable.find?_eq_some_iff.1 found
  exact built.drawn id inside

/-- What a key in the table refers to is there too, and earlier. -/
theorem Built.refers (built : lib.Built t) (found : t.find? key = some id)
    (refers : lib.Refers key other) : ∃ ref < id, t.find? other = some ref := by
  obtain ⟨p, ids, drawn, refs, _⟩ := built.drawn_of_find? found
  obtain ⟨p', drawn', member⟩ := refers_iff.1 refers
  obtain rfl : p' = p := Except.ok.inj (drawn'.symm.trans drawn)
  obtain ⟨ref, _, there, earlier⟩ := exists_right_of_forall₂ refs member
  exact ⟨ref, earlier, there⟩

theorem Built.leads (built : lib.Built t) (found : t.find? key = some id)
    (leads : Relation.TransGen lib.Refers key other) : ∃ ref < id, t.find? other = some ref := by
  induction leads with
  | single refers => exact built.refers found refers
  | tail _ refers ih =>
    obtain ⟨between, earlier, there⟩ := ih
    obtain ⟨ref, before, there⟩ := built.refers there refers
    exact ⟨ref, Nat.lt_trans before earlier, there⟩

theorem Built.reaches (built : lib.Built t) (found : t.find? key = some id)
    (path : Relation.ReflTransGen lib.Refers key other) : ∃ ref, t.find? other = some ref := by
  rcases Relation.reflTransGen_iff_eq_or_transGen.1 path with rfl | leads
  · exact ⟨id, found⟩
  · obtain ⟨ref, _, there⟩ := built.leads found leads
    exact ⟨ref, there⟩

/-- The node of a wrapper is made from the node of its inner key. -/
theorem Built.wrapper (built : lib.Built t) (found : t.find? key = some id) {ty : TypeDecl}
    {inner : String} (composite : lib.Composite key ty)
    (kind : ty.kind ∈ [.pointer, .array, .typedef, .const]) (link : ty.inner = some inner) :
    ∃ ref < id, t.find? inner = some ref ∧
      t.node id = (ty.plain key).wrapping ref (t.node ref) := by
  obtain ⟨p, ids, drawn, refs, finished⟩ := built.drawn_of_find? found
  rw [blueprint_of_draws (.wrapper composite kind link)] at drawn
  cases drawn
  obtain ⟨ref, _, ⟨there, earlier⟩, _, rfl⟩ := List.forall₂_cons_left_iff.1 refs
  exact ⟨ref, earlier, there, Blueprint.finish_wrapper finished⟩

end Built

end Library

namespace TypeTable

variable {t : TypeTable} {id inner : TypeId}

theorem pointee_inner (transparent : (t.node id).isTransparent)
    (link : (t.node id).inner = some inner) (earlier : inner < id) :
    t.pointee id = t.pointee inner := by
  have same : t.target id = t.target inner := congrArg t.node (strip_inner transparent link earlier)
  simp only [pointee, same]

theorem pointee_of_not_isTransparent (solid : (t.node id).isTransparent = false) :
    t.pointee id = if (t.node id).kind = .pointer then (t.node id).inner else none := by
  have self : t.strip id = id := strip_eq_self fun _ transparent => by simp [solid] at transparent
  simp only [pointee, target, self]

end TypeTable

namespace Library

variable {lib : Library} {key other target : String} {t : TypeTable} {id pointee : TypeId}

/-- A key that stands for a pointer has a node that points to the node of its target. -/
theorem PointerTo.find? (points : lib.PointerTo key target) (built : lib.Built t)
    (found : t.find? key = some id) :
    ∃ ref, t.pointee id = some ref ∧ t.find? target = some ref := by
  induction points generalizing id with
  | pointer composite kind link =>
    obtain ⟨ref, _, there, made⟩ := built.wrapper found composite (by simp [kind]) link
    have solid : (t.node id).isTransparent = false := by
      simp [made, Node.isTransparent, TypeDecl.plain, kind]
    refine ⟨ref, ?_, there⟩
    simp [TypeTable.pointee_of_not_isTransparent solid, made, TypeDecl.plain, kind]
  | behind composite kind link _ ih =>
    obtain ⟨ref, earlier, there, made⟩ := built.wrapper found composite (by
      rcases kind with kind | kind <;> simp [kind]) link
    obtain ⟨last, points, atTarget⟩ := ih there
    have transparent : (t.node id).isTransparent := by
      rcases kind with kind | kind <;> simp [made, Node.isTransparent, TypeDecl.plain, kind]
    refine ⟨last, ?_, atTarget⟩
    rw [TypeTable.pointee_inner transparent (by simp [made]) earlier, points]

/-- A node that wraps another has the entry of a wrapper. -/
theorem Built.composite (built : lib.Built t) (found : t.find? key = some id)
    (wrapper : (t.node id).isWrapper) : ∃ ty inner, lib.Composite key ty ∧
      ty.kind ∈ [.pointer, .array, .typedef, .const] ∧ ty.inner = some inner := by
  obtain ⟨p, ids, drawn, _, finished⟩ := built.drawn_of_find? found
  cases draws_of_blueprint drawn with
  | wrapper composite kind link => exact ⟨_, _, composite, kind, link⟩
  | primitive =>
    simp [← Except.ok.inj finished, Node.isWrapper, Node.isTransparent] at wrapper
  | function _ kind | struct _ kind | enum _ kind =>
    simp [← Except.ok.inj finished, Node.isWrapper, Node.isTransparent, structNode, TypeDecl.plain,
      kind] at wrapper
  | list _ kind =>
    obtain ⟨pointee, _, made⟩ := Blueprint.finish_list finished
    simp [made, Node.isWrapper, Node.isTransparent, structNode, TypeDecl.plain, kind] at wrapper

/-- A node that points somewhere belongs to a key that stands for a pointer. -/
theorem Built.pointerTo (built : lib.Built t) (found : t.find? key = some id)
    (points : t.pointee id = some pointee) :
    ∃ target, lib.PointerTo key target ∧ t.find? target = some pointee := by
  induction id using Nat.strongRecOn generalizing key with
  | _ id ih =>
    cases transparent : (t.node id).isTransparent with
    | true =>
      obtain ⟨ty, inner, composite, kind, link⟩ :=
        built.composite found (by simp [Node.isWrapper, transparent])
      obtain ⟨ref, earlier, there, made⟩ := built.wrapper found composite kind link
      rw [TypeTable.pointee_inner transparent (by simp [made]) earlier] at points
      obtain ⟨target, pointer, atTarget⟩ := ih ref earlier there points
      refine ⟨target, .behind composite ?_ link pointer, atTarget⟩
      simpa [made, Node.isTransparent, TypeDecl.plain] using transparent
    | false =>
      rw [TypeTable.pointee_of_not_isTransparent transparent] at points
      split at points
      next kind =>
        obtain ⟨ty, inner, composite, among, link⟩ :=
          built.composite found (by simp [Node.isWrapper, kind])
        obtain ⟨ref, _, there, made⟩ := built.wrapper found composite among link
        rw [made, Node.wrapping_inner] at points
        cases points
        exact ⟨inner, .pointer composite (by simpa [made, TypeDecl.plain] using kind) link, there⟩
      next => cases points

/-- The keys below a key, the key itself among them, all fit, and none leads back to itself. -/
def Founded (lib : Library) (key : String) : Prop :=
  ∀ other, Relation.ReflTransGen lib.Refers key other →
    lib.Fits other ∧ ¬Relation.TransGen lib.Refers other other

theorem Built.fits (built : lib.Built t) (found : t.find? key = some id) : lib.Fits key := by
  obtain ⟨p, ids, drawn, refs, finished⟩ := built.drawn_of_find? found
  refine fits_iff.2 ⟨p, drawn, ?_⟩
  cases p with
  | closed | function => trivial
  | wrapper n inner =>
    intro unsized
    simp [Blueprint.finish, unsized] at finished
  | list n name data =>
    obtain ⟨ref, _, ⟨there, _⟩, _, rfl⟩ := List.forall₂_cons_left_iff.1 refs
    obtain ⟨pointee, points, _⟩ := Blueprint.finish_list finished
    obtain ⟨target, pointer, _⟩ := built.pointerTo there points
    exact ⟨target, pointer⟩

theorem Built.founded (built : lib.Built t) (found : t.find? key = some id) : lib.Founded key := by
  intro other path
  obtain ⟨ref, there⟩ := built.reaches found path
  refine ⟨built.fits there, fun cycle => ?_⟩
  obtain ⟨before, earlier, again⟩ := built.leads there cycle
  rw [there] at again
  cases again
  exact Nat.lt_irrefl _ earlier

end Library

end Bindery
