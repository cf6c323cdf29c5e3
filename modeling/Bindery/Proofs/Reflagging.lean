import Bindery.Proofs.Growth
import Bindery.Proofs.Lifetime

/-!
# Tables up to their flags

The flags are raised when all types are resolved. Whatever is asked of a table apart from its flags
has the same answer before and after.
-/
namespace Bindery.TypeTable

structure Reflagged (t t' : TypeTable) : Prop where
  size : t'.size = t.size
  frame : ∀ id, (t'.node id).unflagged = (t.node id).unflagged

variable {t t' t'' : TypeTable} {edges : Edges}

theorem Spreads.reflagged (spreads : Spreads edges t t') : Reflagged t t' :=
  ⟨spreads.size, spreads.frame⟩

theorem node_seed (t : TypeTable) (c : Config) (id : TypeId) :
    (t.seed c).node id =
      if (t.node id).kind = .struct then
        { t.node id with
          borrowsRaw := (t.node id).borrowsRaw || (t.node id).base.any c.hasRawLifetime
          borrowsSafe := (t.node id).borrowsSafe || (t.node id).isString || (t.node id).isBlob ||
            (t.node id).isList || (t.node id).role = some .callback }
      else t.node id := by
  by_cases inside : id < t.nodes.size
  · simp [node, seed, inside]
  · simp [node, seed, inside, default]

theorem seed_reflagged (t : TypeTable) (c : Config) : Reflagged t (t.seed c) where
  size := by simp [size, seed]
  frame id := by
    rw [node_seed]
    split <;> rfl

theorem Reflagged.trans (first : Reflagged t t') (second : Reflagged t' t'') : Reflagged t t'' where
  size := second.size.trans first.size
  frame id := (second.frame id).trans (first.frame id)

namespace Reflagged

variable (same : Reflagged t t') (id : TypeId)

include same

theorem key : (t'.node id).key = (t.node id).key := (congrArg Node.key (same.frame id) :)

theorem kind : (t'.node id).kind = (t.node id).kind := (congrArg Node.kind (same.frame id) :)

theorem inner : (t'.node id).inner = (t.node id).inner := (congrArg Node.inner (same.frame id) :)

theorem params : (t'.node id).params = (t.node id).params :=
  (congrArg Node.params (same.frame id) :)

theorem isTransparent : (t'.node id).isTransparent = (t.node id).isTransparent :=
  (congrArg Node.isTransparent (same.frame id) :)

theorem isWrapper : (t'.node id).isWrapper = (t.node id).isWrapper :=
  (congrArg Node.isWrapper (same.frame id) :)

theorem isFunction : (t'.node id).isFunction = (t.node id).isFunction :=
  (congrArg Node.isFunction (same.frame id) :)

theorem isList : (t'.node id).isList = (t.node id).isList :=
  (congrArg Node.isList (same.frame id) :)

theorem listItem : (t'.node id).listItem = (t.node id).listItem :=
  (congrArg Node.listItem (same.frame id) :)

theorem find? (key : String) : t'.find? key = t.find? key := by
  refine Option.ext fun id => ?_
  simp only [find?_eq_some_iff, same.size, same.key]

theorem strip : t'.strip id = t.strip id := by
  fun_induction t.strip id with
  | case1 id inner link transparent earlier ih =>
    rw [← same.inner] at link
    rw [← same.isTransparent] at transparent
    rw [strip_inner transparent link earlier]
    exact ih
  | case2 id inner link _ late =>
    refine strip_eq_self fun other _ found => ?_
    rw [same.inner, link] at found
    cases found
    exact late
  | case3 id other =>
    refine strip_eq_self fun inner transparent link => ?_
    rw [same.isTransparent] at transparent
    rw [same.inner] at link
    exact (other inner transparent link).elim

theorem target : t'.target id = { t.target id with
    borrowsRaw := (t'.target id).borrowsRaw
    borrowsSafe := (t'.target id).borrowsSafe } := by
  refine Node.eq_of_unflagged ?_
  simp only [TypeTable.target, same.strip]
  exact same.frame _

theorem pointee : t'.pointee id = t.pointee id := by
  simp only [TypeTable.pointee]
  rw [same.target]

theorem isOpaquePointer : t'.isOpaquePointer id = t.isOpaquePointer id := by
  have void (p : TypeId) : (t'.target p).isVoid = (t.target p).isVoid := by rw [same.target]
  simp only [TypeTable.isOpaquePointer, same.pointee, void]
  rw [same.target]

end Reflagged

end Bindery.TypeTable
