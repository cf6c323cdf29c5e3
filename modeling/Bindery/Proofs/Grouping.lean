import Bindery.Proofs.Occurrence
import Bindery.Wrapper
import Mathlib.Data.List.Induction

/-!
# Groups of methods

One function more at the end of a list comes last in the group of its owner, or begins a group
behind all others. So owners stand in the order in which they are met, and each has the functions
that a filter of the whole list leaves for it.
-/
namespace Bindery

namespace Wrapper

variable {w : Wrapper} {owner : TypeId}

def owner? (w : Wrapper) : Option TypeId := w.method.map (·.owner)

theorem owner?_eq_some_iff : w.owner? = some owner ↔ ∃ m ∈ w.method, m.owner = owner := by
  simp [owner?]

theorem owner?_eq_none_iff : w.owner? = none ↔ w.method = none := by
  simp [owner?]

end Wrapper

namespace Analysis

section Groups

variable {w : Wrapper} {m : Method} {owner : TypeId} {wrappers members : List Wrapper}
  {group : TypeId × List Wrapper} {groups before after : List (TypeId × List Wrapper)}

def ownedBy (owner : TypeId) (wrappers : List Wrapper) : List Wrapper :=
  wrappers.filter (·.owner? = some owner)

theorem mem_ownedBy_iff : w ∈ ownedBy owner wrappers ↔ w ∈ wrappers ∧ w.owner? = some owner := by
  simp [ownedBy]

theorem ownedBy_concat_self (owned : w.owner? = some owner) :
    ownedBy owner (wrappers ++ [w]) = ownedBy owner wrappers ++ [w] := by
  simp [ownedBy, owned]

theorem ownedBy_concat_of_ne (other : w.owner? ≠ some owner) :
    ownedBy owner (wrappers ++ [w]) = ownedBy owner wrappers := by
  simp [ownedBy, other]

theorem ownedBy_eq_nil_iff : ownedBy owner wrappers = [] ↔
    owner ∉ wrappers.filterMap Wrapper.owner? := by
  simp [ownedBy]

theorem ne_of_unmet (unmet : owner ∉ groups.map (·.1)) : ∀ group ∈ groups, group.1 ≠ owner :=
  fun group member same => unmet (List.mem_map.2 ⟨group, member, same⟩)

/-- Groups of other owners are passed over. -/
theorem addMethod_append (others : ∀ group ∈ before, group.1 ≠ owner) :
    addMethod owner w (before ++ groups) = before ++ addMethod owner w groups := by
  induction before with
  | nil => rfl
  | cons first before ih =>
    obtain ⟨other, members⟩ := first
    obtain ⟨here, later⟩ := List.forall_mem_cons.1 others
    rw [List.cons_append, addMethod, if_neg here, ih later, List.cons_append]

theorem addMethod_of_not_mem (unmet : owner ∉ groups.map (·.1)) :
    addMethod owner w groups = groups ++ [(owner, [w])] :=
  calc
    addMethod owner w groups = addMethod owner w (groups ++ []) := by rw [List.append_nil]
    _ = groups ++ [(owner, [w])] := addMethod_append (ne_of_unmet unmet)

theorem addMethod_middle (others : ∀ group ∈ before, group.1 ≠ owner) :
    addMethod owner w (before ++ (owner, members) :: after) =
      before ++ (owner, members ++ [w]) :: after := by
  rw [addMethod_append others, addMethod, if_pos rfl]

/-- Whatever group it comes into, the function is one more of all that are grouped. -/
theorem addMethod_perm :
    ((addMethod owner w groups).flatMap (·.2)).Perm (groups.flatMap (·.2) ++ [w]) := by
  induction groups with
  | nil => exact .refl _
  | cons first rest ih =>
    obtain ⟨other, members⟩ := first
    unfold addMethod
    split
    next =>
      rw [List.flatMap_cons, List.flatMap_cons, List.append_assoc, List.append_assoc]
      exact List.perm_append_comm.append_left members
    next =>
      rw [List.flatMap_cons, List.flatMap_cons, List.append_assoc]
      exact ih.append_left members

theorem groupMethods_concat_of_none (bare : w.method = none) :
    groupMethods (wrappers ++ [w]) = groupMethods wrappers := by
  rw [groupMethods, List.foldl_concat, bare, groupMethods]

theorem groupMethods_concat_of_some (promoted : w.method = some m) :
    groupMethods (wrappers ++ [w]) = addMethod m.owner w (groupMethods wrappers) := by
  rw [groupMethods, List.foldl_concat, promoted, groupMethods]

structure InOrder (wrappers : List Wrapper) (groups : List (TypeId × List Wrapper)) : Prop where
  /-- An owner has one group, and the owners stand in the order in which they are met. -/
  owners : EachOnce (wrappers.filterMap Wrapper.owner?) (groups.map (·.1))
  members : ∀ group ∈ groups, group.2 = ownedBy group.1 wrappers

structure Grouped (wrappers : List Wrapper) (group : TypeId × List Wrapper) : Prop where
  members : ∀ w ∈ group.2, w ∈ wrappers ∧ ∃ m ∈ w.method, m.owner = group.1
  filled : group.2 ≠ []

namespace InOrder

theorem mem_iff (order : InOrder wrappers groups) :
    (∃ group ∈ groups, group.1 = owner ∧ w ∈ group.2) ↔ w ∈ wrappers ∧ w.owner? = some owner := by
  constructor
  · rintro ⟨group, inside, rfl, member⟩
    rwa [order.members group inside, mem_ownedBy_iff] at member
  · intro owned
    have met := (order.owners.same owner).2 (List.mem_filterMap.2 ⟨w, owned⟩)
    obtain ⟨group, inside, rfl⟩ := List.mem_map.1 met
    refine ⟨group, inside, rfl, ?_⟩
    rwa [order.members group inside, mem_ownedBy_iff]

theorem grouped (order : InOrder wrappers groups) (inside : group ∈ groups) :
    Grouped wrappers group where
  members w member := by
    rw [order.members group inside, mem_ownedBy_iff] at member
    exact member.imp_right Wrapper.owner?_eq_some_iff.1
  filled := by
    rw [order.members group inside, ne_eq, ownedBy_eq_nil_iff, not_not]
    exact (order.owners.same group.1).1 (List.mem_map_of_mem inside)

theorem others (order : InOrder wrappers (before ++ (owner, members) :: after)) :
    ∀ group ∈ before ++ after, group.1 ≠ owner := by
  have distinct := order.owners.nodup
  rw [List.map_append, List.map_cons, List.nodup_middle, ← List.map_append] at distinct
  exact ne_of_unmet (List.nodup_cons.1 distinct).1

theorem concat_of_bare (order : InOrder wrappers groups) (bare : w.owner? = none) :
    InOrder (wrappers ++ [w]) groups where
  owners := by simpa [bare] using order.owners
  members group member := by
    rw [ownedBy_concat_of_ne (by simp [bare])]
    exact order.members group member

/-- A function leaves the groups of other owners alone. -/
theorem kept (order : InOrder wrappers groups) (owned : w.owner? = some owner)
    (member : group ∈ groups) (other : group.1 ≠ owner) :
    group.2 = ownedBy group.1 (wrappers ++ [w]) := by
  rw [ownedBy_concat_of_ne fun same => other (Option.some.inj (same.symm.trans owned))]
  exact order.members group member

/-- The owner is met for the first time. -/
theorem concat_of_not_mem (order : InOrder wrappers groups) (owned : w.owner? = some owner)
    (unmet : owner ∉ groups.map (·.1)) :
    InOrder (wrappers ++ [w]) (groups ++ [(owner, [w])]) where
  owners := by simpa [owned] using order.owners.concat_of_not_mem unmet
  members := by
    have unowned : ownedBy owner wrappers = [] :=
      ownedBy_eq_nil_iff.2 (mt (order.owners.same owner).2 unmet)
    refine List.forall_mem_append.2 ⟨?earlier, List.forall_mem_singleton.2 ?last⟩
    case earlier =>
      intro group member
      exact order.kept owned member (ne_of_unmet unmet group member)
    case last => rw [ownedBy_concat_self owned, unowned, List.nil_append]

/-- The owner has been met, and has a group between others. -/
theorem concat_middle (order : InOrder wrappers (before ++ (owner, members) :: after))
    (owned : w.owner? = some owner) :
    InOrder (wrappers ++ [w]) (before ++ (owner, members ++ [w]) :: after) where
  owners := by simpa [owned] using order.owners.concat_of_mem (a := owner) (by simp)
  members := by
    obtain ⟨front, back⟩ := List.forall_mem_append.1 order.others
    refine List.forall_mem_append.2 ⟨?earlier, List.forall_mem_cons.2 ⟨?own, ?later⟩⟩
    case earlier =>
      intro group member
      exact order.kept owned (List.mem_append_left _ member) (front group member)
    case own =>
      have whole : members = ownedBy owner wrappers := order.members (owner, members) (by simp)
      rw [ownedBy_concat_self owned, whole]
    case later =>
      intro group member
      have inside := List.mem_append_right before (List.mem_cons_of_mem (owner, members) member)
      exact order.kept owned inside (back group member)

theorem concat_addMethod (order : InOrder wrappers groups) (owned : w.owner? = some owner) :
    InOrder (wrappers ++ [w]) (addMethod owner w groups) := by
  by_cases met : owner ∈ groups.map (·.1)
  · obtain ⟨⟨_, members⟩, member, rfl⟩ := List.mem_map.1 met
    obtain ⟨before, after, rfl⟩ := List.append_of_mem member
    rw [addMethod_middle (List.forall_mem_append.1 order.others).1]
    exact order.concat_middle owned
  · rw [addMethod_of_not_mem met]
    exact order.concat_of_not_mem owned met

end InOrder

theorem inOrder_groupMethods : InOrder wrappers (groupMethods wrappers) := by
  induction wrappers using List.reverseRecOn with
  | nil => exact ⟨.nil, nofun⟩
  | append_singleton wrappers w ih =>
    cases promoted : w.method with
    | none =>
      rw [groupMethods_concat_of_none promoted]
      exact ih.concat_of_bare (Wrapper.owner?_eq_none_iff.2 promoted)
    | some m =>
      rw [groupMethods_concat_of_some promoted]
      exact ih.concat_addMethod (Wrapper.owner?_eq_some_iff.2 ⟨m, promoted, rfl⟩)

/-- Each function with a method stands in the group of its owner. -/
theorem mem_groupMethods_iff : (∃ group ∈ groupMethods wrappers, group.1 = owner ∧ w ∈ group.2) ↔
    w ∈ wrappers ∧ ∃ m ∈ w.method, m.owner = owner := by
  rw [inOrder_groupMethods.mem_iff, Wrapper.owner?_eq_some_iff]

theorem groupMethods_grouped : ∀ group ∈ groupMethods wrappers, Grouped wrappers group :=
  fun _ => inOrder_groupMethods.grouped

/-- No function with a method is lost, and none is grouped twice. -/
theorem groupMethods_perm :
    ((groupMethods wrappers).flatMap (·.2)).Perm (wrappers.filter (·.method.isSome)) := by
  induction wrappers using List.reverseRecOn with
  | nil => exact .refl _
  | append_singleton wrappers w ih =>
    rw [List.filter_append]
    cases promoted : w.method with
    | none =>
      rw [groupMethods_concat_of_none promoted]
      simpa [promoted] using ih
    | some m =>
      rw [groupMethods_concat_of_some promoted]
      refine addMethod_perm.trans ?_
      simpa [promoted] using ih.append_right [w]

end Groups

/-- The functions with a method, parted by their owners. -/
structure StablePartition (wrappers : List Wrapper) (groups : List (TypeId × List Wrapper)) :
    Prop extends InOrder wrappers groups where
  /-- A function with a method is in one group, that of its owner. -/
  single : ∀ w ∈ wrappers, ∀ m ∈ w.method, ∃ group ∈ groups, group.1 = m.owner ∧ w ∈ group.2 ∧
    ∀ other ∈ groups, w ∈ other.2 → other = group
  /-- Groups have at least one function, and only functions with a method of their owner. -/
  grouped : ∀ group ∈ groups, Grouped wrappers group
  /-- A function with a method is grouped as often as the list has it. -/
  whole : (groups.flatMap (·.2)).Perm (wrappers.filter (·.method.isSome))

theorem methods_partitioned (wrappers : List Wrapper) :
    StablePartition wrappers (groupMethods wrappers) where
  toInOrder := inOrder_groupMethods
  single := by
    intro w member m promoted
    obtain ⟨group, inside, owner, here⟩ := mem_groupMethods_iff.2 ⟨member, m, promoted, rfl⟩
    refine ⟨group, inside, owner, here, fun other inside' there => ?_⟩
    obtain ⟨_, m', promoted', owner'⟩ := (groupMethods_grouped other inside').members w there
    cases promoted.symm.trans promoted'
    exact List.inj_on_of_nodup_map inOrder_groupMethods.owners.nodup inside' inside
      (owner'.symm.trans owner.symm)
  grouped := groupMethods_grouped
  whole := groupMethods_perm

example :
    let function (name : String) (owner : Option TypeId) : Wrapper :=
      { native := name, name, args := [], result := 0, returnShape := .void, isRaw := false,
        rawOnly := false, exposed := true, linked := true, fallible := false,
        method := owner.map fun owner => { owner, name, receiver := .shared, selfArg := 0 } }
    (groupMethods [function "turn" (some 2), function "load" none, function "hide" (some 1),
      function "move" (some 2)]).map (fun group => (group.1, group.2.map (·.name))) =
        [(2, ["turn", "move"]), (1, ["hide"])] := by decide +kernel

end Analysis

end Bindery
