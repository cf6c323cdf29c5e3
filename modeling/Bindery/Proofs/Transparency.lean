import Bindery.Proofs.FunctionPointer
import Bindery.Proofs.ShapeLifetime

/-!
# Transparent types

A typedef or a const stands for what is below all typedefs and consts. Whatever is asked of it is
answered alike for both: some questions strip it, some go on through it, and what is read off its
own node was taken from what it wraps when the node was made.
-/
namespace Bindery

/-- What a node tells of the type that it stands for, apart from how it leads there. -/
structure Meaning where
  name : String
  safeName : String
  base : Option String
  role : Option Role
  isVoid : Bool
  isFunction : Bool
  isString : Bool
  isBlob : Bool
  isList : Bool
  isRefList : Bool
  listItem : Option TypeId
  isRaw : Bool

namespace Node

def meaning (n : Node) : Meaning where
  name := n.name
  safeName := n.safeName
  base := n.base
  role := n.role
  isVoid := n.isVoid
  isFunction := n.isFunction
  isString := n.isString
  isBlob := n.isBlob
  isList := n.isList
  isRefList := n.isRefList
  listItem := n.listItem
  isRaw := n.isRaw

variable {n : Node}

theorem isWrapper_of_isTransparent (transparent : n.isTransparent) : n.isWrapper := by
  simp [isWrapper, transparent]

/-- A typedef or a const is made with all that its target means. -/
theorem meaning_wrapping (transparent : n.isTransparent) (id : TypeId) (target : Node) :
    (n.wrapping id target).meaning = target.meaning := by
  simp only [wrapping]
  split
  next => rfl
  next solid => exact absurd transparent solid

end Node

namespace TypeTable

def Unwraps (t : TypeTable) (outer inner : TypeId) : Prop :=
  (t.node outer).isTransparent ∧ (t.node outer).inner = some inner

/-- Two types that no question tells apart, flags aside. -/
structure Alike (t : TypeTable) (id other : TypeId) : Prop where
  nativeText : ∀ lifetime, t.nativeText id lifetime = t.nativeText other lifetime
  memberText : ∀ lifetime, t.memberText id lifetime = t.memberText other lifetime
  inputMemberText : ∀ lifetime, t.inputMemberText id lifetime = t.inputMemberText other lifetime
  shapeText : t.shapeText id = t.shapeText other
  pointee : t.pointee id = t.pointee other
  isPointer : t.isPointer id = t.isPointer other
  leaf : t.leaf id = t.leaf other
  isOpaquePointer : t.isOpaquePointer id = t.isOpaquePointer other
  structRole : t.structRole id = t.structRole other
  isLowered : t.isLowered id = t.isLowered other
  meaning : (t.node id).meaning = (t.node other).meaning

variable {t t' : TypeTable} {id : TypeId}

/-- Stripping goes down from each typedef to what it wraps. -/
theorem unwraps_strip (t : TypeTable) (id : TypeId) :
    Relation.ReflTransGen t.Unwraps id (t.strip id) := by
  fun_induction t.strip id with
  | case1 id inner link transparent _ ih => exact .head ⟨transparent, link⟩ ih
  | case2 | case3 => exact .refl

/-- What is left is neither a typedef nor a const, since these wrap an earlier type. -/
theorem Ordered.target_solid (ordered : t.Ordered) (id : TypeId) :
    (t.target id).isTransparent = false := by
  apply Bool.eq_false_of_not_eq_true
  intro transparent
  obtain ⟨inner, link⟩ :=
    Option.isSome_iff_exists.1 (ordered.wraps (Node.isWrapper_of_isTransparent transparent))
  exact strip_stops transparent link (ordered.inner_lt link)

/-- In each style a type is spelled as what it stands for, functions included. -/
theorem Marked.spell_strip (marked : t.Marked) (style : Style) (id : TypeId) :
    t.spell style id = t.spell style (t.strip id) := by
  cases function : (t.node id).isFunction with
  | false => exact (TypeTable.spell_strip marked function style).symm
  | true =>
    have stripped : (t.node (t.strip id)).isFunction := by
      rw [← function]
      exact isFunction_target marked id
    have leads := (isFunction_iff_leaf marked id).1 function
    have leads' := (isFunction_iff_leaf marked (t.strip id)).1 stripped
    calc
      t.spell style id = t.native id := spell_of_isFunction function style
      _ = t.native (t.leaf id) := native_eq_leaf marked leads
      _ = t.native (t.leaf (t.strip id)) := by rw [leaf_strip]
      _ = t.native (t.strip id) := (native_eq_leaf marked leads').symm
      _ = t.spell style (t.strip id) := (spell_of_isFunction stripped style).symm

theorem Marked.alike_strip (marked : t.Marked)
    (meaning : (t.node (t.strip id)).meaning = (t.node id).meaning) :
    t.Alike id (t.strip id) where
  nativeText lifetime := congrArg (·.text lifetime) (marked.spell_strip .native id)
  memberText lifetime := congrArg (·.text lifetime) (marked.spell_strip .member id)
  inputMemberText lifetime := congrArg (·.text lifetime) (marked.spell_strip .input id)
  shapeText := congrArg (·.text "'a") (marked.spell_strip .shape id)
  pointee := by simp [TypeTable.pointee]
  isPointer := by simp [TypeTable.isPointer, TypeTable.pointee]
  leaf := (t.leaf_strip id).symm
  isOpaquePointer := (t.isOpaquePointer_strip id).symm
  structRole := by simp [TypeTable.structRole]
  isLowered := (t.isLowered_strip id).symm
  meaning := meaning.symm

theorem Reflagged.meaning (same : Reflagged t t') (id : TypeId) :
    (t'.node id).meaning = (t.node id).meaning :=
  (congrArg Node.meaning (same.frame id) :)

/-- A typedef that does not borrow from the start borrows exactly with what it wraps. -/
theorem propagate_borrows_inner {inner : TypeId} (edges : Edges) (form : Form)
    (free : ¬(t.node id).borrows form) (transparent : (t.node id).isTransparent)
    (link : (t.node id).inner = some inner) :
    ((t.propagate edges).1.node id).borrows form ↔
      ((t.propagate edges).1.node inner).borrows form := by
  have solid := Node.kind_of_isTransparent transparent
  rw [propagate_borrows_step, or_iff_right free]
  constructor
  · rintro ⟨part, step, borrows⟩
    cases step with
    | wrapped _ found => rwa [← Option.some.inj (link.symm.trans found)] at borrows
    | result kind | param kind => exact absurd kind solid.2
    | edge kind => exact absurd kind solid.1
  · intro borrows
    exact ⟨inner, .wrapped (Node.isWrapper_of_isTransparent transparent) link, borrows⟩

end TypeTable

namespace Library

variable {lib : Library} {t : TypeTable} {id inner : TypeId}

theorem Formed.meaning_inner (formed : lib.Formed t) (transparent : (t.node id).isTransparent)
    (link : (t.node id).inner = some inner) :
    (t.node inner).meaning = (t.node id).meaning := by
  obtain ⟨_, ty, describes⟩ := formed.describes_of_ne id fun unused => by
    simp [unused, default] at link
  obtain ⟨ref, made⟩ := describes.eq_wrapping (Node.isWrapper_of_isTransparent transparent)
  rw [made, Node.wrapping_inner] at link
  cases link
  have wraps : (ty.plain (t.node id).key).isTransparent := by
    rw [made] at transparent
    simpa [Node.isTransparent] using transparent
  rw [made, Node.meaning_wrapping wraps]

theorem Formed.meaning_strip (formed : lib.Formed t) (id : TypeId) :
    (t.node (t.strip id)).meaning = (t.node id).meaning :=
  TypeTable.strip_carries (q := fun id => (t.node id).meaning) formed.meaning_inner id

/-- Only structs are seeded, so a typedef has the flags of what it stands for. -/
theorem Formed.settled_strip (formed : lib.Formed t) (c : Config) (edges : Edges) (form : Form)
    (id : TypeId) :
    (((t.seed c).propagate edges).1.node id).borrows form =
      (((t.seed c).propagate edges).1.node (t.strip id)).borrows form := by
  have same := t.seed_reflagged c
  refine (TypeTable.strip_carries
    (q := fun id => (((t.seed c).propagate edges).1.node id).borrows form) ?_ id).symm
  intro id inner transparent link
  have free : ¬((t.seed c).node id).borrows form := by
    rw [TypeTable.node_seed, if_neg (Node.kind_of_isTransparent transparent).1]
    simp [formed.not_borrows form id]
  rw [← same.isTransparent] at transparent
  rw [← same.inner] at link
  exact Bool.eq_iff_iff.2
    (TypeTable.propagate_borrows_inner edges form free transparent link).symm

/-- After any calls, a type leads through typedefs and consts to one that is neither. Both are
alike, whatever flags are raised, and when lifetimes have settled they have the same flags. -/
theorem strip_transparent (lib : Library) (calls : List Call) (id : TypeId) :
    let t := lib.after calls
    Relation.ReflTransGen t.Unwraps id (t.strip id) ∧
    (t.node (t.strip id)).isTransparent = false ∧
    (∀ t', TypeTable.Reflagged t t' → t'.strip id = t.strip id ∧ t'.Alike id (t.strip id)) ∧
    ∀ c edges form, let settled := ((t.seed c).propagate edges).1
      (settled.node id).borrows form = (settled.node (t.strip id)).borrows form := by
  intro t
  have formed := (lib.built_after calls).toFormed
  have reflexive : TypeTable.Reflagged t t := ⟨rfl, fun _ => rfl⟩
  refine ⟨t.unwraps_strip id, (formed.ordered reflexive).target_solid id, ?_, ?_⟩
  · intro t' same
    have marked : t'.Marked := Flagged.marked ⟨t, formed, same⟩
    have stripped := same.strip id
    refine ⟨stripped, ?_⟩
    rw [← stripped]
    apply marked.alike_strip
    rw [stripped, same.meaning, same.meaning]
    exact formed.meaning_strip id
  · intro c edges form
    exact formed.settled_strip c edges form id

end Library

end Bindery
