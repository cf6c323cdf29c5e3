import Bindery.Proofs.Naming

/-!
# Spellings and longer tables

How a type is spelled depends on the nodes up to its own, so a table spells its types alike when
further nodes stand behind them.
-/
namespace Bindery.TypeTable

variable {t t' : TypeTable} {id inner : TypeId}

theorem strip_lt (inside : id < t.size) : t.strip id < t.size :=
  Nat.lt_of_le_of_lt (t.strip_le id) inside

/-- What a pointer points to stands before it. -/
theorem Ordered.pointee_lt (ordered : t.Ordered) (points : t.pointee id = some inner) :
    inner < id := by
  unfold TypeTable.pointee at points
  split at points
  next => exact Nat.lt_of_lt_of_le (ordered.inner_lt points) (t.strip_le id)
  next => cases points

theorem signature_inner (kind : (t.node id).kind ≠ .function)
    (link : (t.node id).inner = some inner) (earlier : inner < id) :
    t.signature id = t.signature inner := by
  rw [signature.eq_def t id]
  simp [kind, link, earlier]

theorem signature_eq_self (last : ∀ inner, (t.node id).kind ≠ .function →
    (t.node id).inner = some inner → ¬inner < id) : t.signature id = id := by
  rw [signature]
  split
  next inner other link => exact if_neg (last inner (of_decide_eq_false other) link)
  next => rfl

/-- A second node under a key is not found. -/
theorem find?_push_of_found {n : Node} (found : t.find? n.key = some id) (key : String) :
    (t.push n).find? key = t.find? key := by
  cases known : t.find? key with
  | some first => exact (Extends.push t n).find? known
  | none =>
    refine find?_eq_none_iff.2 fun position inside => ?_
    rw [size_push] at inside
    rcases Nat.lt_succ_iff_lt_or_eq.1 inside with old | rfl
    · rw [node_push_of_lt n old]
      exact find?_eq_none_iff.1 known position old
    · rw [node_push_self]
      rintro rfl
      cases known.symm.trans found

namespace Extends

variable (grows : Extends t t')

include grows

theorem signature (inside : id < t.size) : t'.signature id = t.signature id := by
  fun_induction t.signature id with
  | case1 id inner link other earlier ih =>
    rw [← grows.node id inside] at link other
    rw [signature_inner (of_decide_eq_false other) link earlier]
    exact ih (Nat.lt_trans earlier inside)
  | case2 id inner link _ late =>
    refine signature_eq_self fun other _ found => ?_
    rw [grows.node id inside, link] at found
    cases found
    exact late
  | case3 id other =>
    refine signature_eq_self fun inner kind link => ?_
    rw [grows.node id inside] at kind link
    exact (other inner (decide_eq_false kind) link).elim

theorem isLowered (inside : id < t.size) : t'.isLowered id = t.isLowered id := by
  simp only [TypeTable.isLowered, grows.target inside]

variable (ordered : t.Ordered)

include ordered

theorem isOpaquePointer (inside : id < t.size) : t'.isOpaquePointer id = t.isOpaquePointer id := by
  unfold TypeTable.isOpaquePointer
  rw [grows.target inside, grows.pointee inside]
  cases points : t.pointee id with
  | none => rfl
  | some pointee =>
    have below := Nat.lt_trans (ordered.pointee_lt points) inside
    rw [Option.any_some, Option.any_some, grows.target below]

theorem native (inside : id < t.size) : t'.native id = t.native id := by
  -- Later nodes are not spelled. The order is needed for the result, which may be void.
  induction id using Nat.strongRecOn with
  | ind id ih =>
    have ih (part : TypeId) (earlier : part < id) : t'.native part = t.native part :=
      ih part earlier (Nat.lt_trans earlier inside)
    have signed := Nat.lt_of_le_of_lt (t.signature_le id) inside
    have params : (fun p => if p < id then t'.native p else Spelling.fixed "") =
        fun p => if p < id then t.native p else .fixed "" :=
      funext fun p => ite_congr rfl (ih p) fun _ => rfl
    have results : (fun r => if r < id then some (t'.native r) else none) =
        fun r => if r < id then some (t.native r) else none :=
      funext fun r => ite_congr rfl (fun earlier => congrArg some (ih r earlier)) fun _ => rfl
    have result : ((t.node (t.signature id)).inner.filter fun r => !(t'.target r).isVoid) =
        (t.node (t.signature id)).inner.filter fun r => !(t.target r).isVoid := by
      cases link : (t.node (t.signature id)).inner with
      | none => rfl
      | some r =>
        have below := Nat.lt_trans (ordered.inner_lt link) signed
        rw [Option.filter_some, Option.filter_some, grows.target below]
    rw [TypeTable.native.eq_def t', TypeTable.native.eq_def t, grows.node id inside,
      grows.signature inside, grows.node _ signed]
    simp only [params, results, result]
    split
    next => rfl
    next =>
      split
      next => rfl
      next inner link =>
        split
        next earlier => rw [ih inner earlier]
        next => rfl

theorem member (inside : id < t.size) : t'.member id = t.member id := by
  induction id using Nat.strongRecOn with
  | ind id ih =>
    have ih (part : TypeId) (earlier : part < id) : t'.member part = t.member part :=
      ih part earlier (Nat.lt_trans earlier inside)
    rw [TypeTable.member.eq_def t', TypeTable.member.eq_def t, grows.node id inside,
      grows.native ordered inside, grows.isOpaquePointer ordered inside]
    dsimp only
    split
    next => rfl
    next =>
      split
      iterate 4 next inner _ link => rw [ih inner (ordered.inner_lt link)]
      next =>
        cases link : (t.node id).listItem with
        | none => rfl
        | some item =>
          dsimp only
          rw [ih item (ordered.item_lt link)]
      next => rfl

theorem inputMember (inside : id < t.size) : t'.inputMember id = t.inputMember id := by
  induction id using Nat.strongRecOn with
  | ind id ih =>
    have ih (part : TypeId) (earlier : part < id) : t'.inputMember part = t.inputMember part :=
      ih part earlier (Nat.lt_trans earlier inside)
    rw [TypeTable.inputMember.eq_def t', TypeTable.inputMember.eq_def t, grows.node id inside,
      grows.native ordered inside, grows.isOpaquePointer ordered inside]
    dsimp only
    split
    next => rfl
    next =>
      split
      iterate 3 next inner _ link => rw [ih inner (ordered.inner_lt link)]
      next inner _ link =>
        rw [grows.member ordered (Nat.lt_trans (ordered.inner_lt link) inside)]
      next =>
        cases link : (t.node id).listItem with
        | none => rfl
        | some item =>
          dsimp only
          rw [ih item (ordered.item_lt link)]
      next => rfl

theorem shape (inside : id < t.size) : t'.shape id = t.shape id := by
  induction id using Nat.strongRecOn with
  | ind id ih =>
    have ih (part : TypeId) (earlier : part < id) : t'.shape part = t.shape part :=
      ih part earlier (Nat.lt_trans earlier inside)
    rw [TypeTable.shape.eq_def t', TypeTable.shape.eq_def t, grows.node id inside,
      grows.native ordered inside, grows.inputMember ordered inside]
    dsimp only
    split
    next => rfl
    next =>
      split
      iterate 2 next inner _ link => rw [ih inner (ordered.inner_lt link)]
      next =>
        cases link : (t.node id).listItem with
        | none => rfl
        | some item =>
          dsimp only
          rw [ih item (ordered.item_lt link)]
      next => rfl

theorem nativeText (inside : id < t.size) (lifetime : String) :
    t'.nativeText id lifetime = t.nativeText id lifetime := by
  simp only [TypeTable.nativeText, grows.native ordered inside]

theorem memberText (inside : id < t.size) (lifetime : String) :
    t'.memberText id lifetime = t.memberText id lifetime := by
  simp only [TypeTable.memberText, grows.member ordered inside]

theorem inputMemberText (inside : id < t.size) (lifetime : String) :
    t'.inputMemberText id lifetime = t.inputMemberText id lifetime := by
  simp only [TypeTable.inputMemberText, grows.inputMember ordered inside]

theorem shapeText (inside : id < t.size) : t'.shapeText id = t.shapeText id := by
  simp only [TypeTable.shapeText, grows.shape ordered inside]

end Extends

end Bindery.TypeTable
