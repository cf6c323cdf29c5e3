import Bindery.Proofs.Layout
import Bindery.Proofs.Locality
import Bindery.Proofs.Ownership
import Bindery.Proofs.RawSplit

/-!
# Positions in range

All that an analysis holds by its position is there: the types that its parts refer to, the
receivers of methods among the arguments, and an initializer for every field.
-/
namespace Bindery

open Typing

structure WrapperArg.InRange (arg : WrapperArg) (size : Nat) : Prop where
  type : arg.type < size
  item : ∀ item ∈ arg.item, item < size
  lengthType : ∀ length ∈ arg.lengthType, length < size

structure Wrapper.InRange (w : Wrapper) (size : Nat) : Prop where
  result : w.result < size
  args : ∀ arg ∈ w.args, arg.InRange size
  owner : ∀ m ∈ w.method, m.owner < size
  /-- The receiver of a method is one of the arguments. -/
  receiver : ∀ m ∈ w.method, m.selfArg < w.args.length

structure Layout.InRange (m : Layout) (size : Nat) : Prop where
  type : m.typeId < size
  fields : ∀ f ∈ m.fields, f.type < size
  index : ∀ index ∈ m.indexType, index < size
  callback : ∀ slots ∈ m.callback, slots.functionType < size
  /-- A written default value has an initializer for every field. -/
  initializers : ∀ is, m.default = .manual is → is.length = m.fields.length

structure Analysis.InRange (a : Analysis) : Prop where
  nodes : ∀ id < a.types.size, ∀ ref ∈ (a.types.node id).refs, ref < a.types.size
  layouts : ∀ m ∈ a.layouts, m.InRange a.types.size
  wrappers : ∀ w ∈ a.wrappers, w.InRange a.types.size
  roots : ∀ r ∈ a.roots, r.typeId < a.types.size
  globals : ∀ g ∈ a.globals, g.type < a.types.size

theorem WrapperArg.InRange.mono {arg : WrapperArg} {size size' : Nat} (inRange : arg.InRange size)
    (le : size ≤ size') : arg.InRange size' where
  type := Nat.lt_of_lt_of_le inRange.type le
  item item given := Nat.lt_of_lt_of_le (inRange.item item given) le
  lengthType length given := Nat.lt_of_lt_of_le (inRange.lengthType length given) le

namespace Library

variable {lib : Library} {t t' : TypeTable} {index : Nat} {ds : List ArgDecl} {arg : WrapperArg}
  {args : List WrapperArg} {f : FunctionDecl} {w : Wrapper} {roots : List Root}

theorem Flagged.ordered (flagged : lib.Flagged t) : t.Ordered := by
  obtain ⟨bare, formed, same⟩ := flagged
  exact formed.ordered same

section Arguments

theorem pairedArgument_inRange (flagged : lib.Flagged t) {kind : ArgKind} {lengthType : TypeId}
    {arg' : WrapperArg} (type : arg.type < t.size) (item : arg.item = none)
    (length : lengthType < t.size) (made : pairedArgument t arg kind lengthType = some arg') :
    arg'.InRange t.size := by
  unfold pairedArgument at made
  dsimp only at made
  split at made
  next =>
    obtain ⟨pointee, points, rfl⟩ := Option.map_eq_some_iff.1 made
    have below := Nat.lt_trans (flagged.ordered.pointee_lt points) type
    exact ⟨type, by simpa using below, by simpa using length⟩
  next =>
    cases made
    exact ⟨type, by simp [item], by simpa using length⟩

theorem Takes.inRange (takes : lib.Takes index t t' ds arg) (flagged : lib.Flagged t) :
    lib.Flagged t' ∧ TypeTable.Extends t t' ∧ arg.InRange t'.size := by
  cases takes with
  | paired _ _ resolved measured made =>
    obtain ⟨after, grows, type⟩ := flagged.resolve resolved
    obtain ⟨last, grows', length⟩ := after.resolve measured
    exact ⟨last, IsTrans.trans _ _ _ grows grows',
      pairedArgument_inRange last (Nat.lt_of_lt_of_le type grows'.size) rfl length made⟩
  | error _ _ resolved | panic _ _ resolved | normal _ resolved =>
    obtain ⟨after, grows, type⟩ := flagged.resolve resolved
    exact ⟨after, grows, type, nofun, nofun⟩

theorem Reads.inRange (reads : lib.Reads index t t' ds args) (flagged : lib.Flagged t) :
    lib.Flagged t' ∧ TypeTable.Extends t t' ∧ ∀ arg ∈ args, arg.InRange t'.size := by
  induction reads with
  | nil => exact ⟨flagged, Std.Refl.refl _, by simp⟩
  | cons takes _ ih =>
    obtain ⟨after, grows, here⟩ := takes.inRange flagged
    obtain ⟨last, grows', others⟩ := ih after
    exact ⟨last, IsTrans.trans _ _ _ grows grows',
      List.forall_mem_cons.2 ⟨here.mono grows'.size, others⟩⟩

end Arguments

section Methods

theorem receiver_cases {owner : TypeId} {kind : Receiver}
    (taken : receiver t arg = .ok (owner, kind)) :
    (arg.kind = .pointer ∧ ∃ pointee, t.pointee arg.type = some pointee ∧
        owner = t.strip pointee ∧ kind = if arg.isConst then .shared else .exclusive) ∨
      (arg.kind = .plain ∧ owner = t.strip arg.type ∧ kind = .value) := by
  unfold receiver at taken
  split at taken
  next pointer =>
    split at taken
    next => cases taken
    next pointee points =>
      cases taken
      exact .inl ⟨pointer, pointee, points, rfl, rfl⟩
  next plain =>
    cases taken
    exact .inr ⟨plain, rfl, rfl⟩
  next => cases taken

theorem receiver_inRange (flagged : lib.Flagged t) (inside : arg.type < t.size) {owner : TypeId}
    {kind : Receiver} (taken : receiver t arg = .ok (owner, kind)) : owner < t.size := by
  obtain ⟨_, pointee, points, rfl, _⟩ | ⟨_, rfl, _⟩ := receiver_cases taken
  · exact TypeTable.strip_lt (Nat.lt_trans (flagged.ordered.pointee_lt points) inside)
  · exact TypeTable.strip_lt inside

structure Promotes (t : TypeTable) (f : FunctionDecl) (w : Wrapper) (m : Method)
    (arg : WrapperArg) : Prop where
  index : ∃ i, f.selfIndex = some i ∧ arg.nativeIndex = i.toNat
  found : w.args[m.selfArg]? = some arg
  rawOnly : w.rawOnly = false
  isRaw : arg.isRaw = false
  taken : receiver t arg = .ok (m.owner, m.receiver)
  owner : (t.node m.owner).kind = .struct
  name : m.name = Ident.escape (f.methodName.getD f.shortName)

theorem promotes_of_method {m : Method} (made : method t f w = .ok (some m)) :
    ∃ arg, Promotes t f w m arg := by
  unfold method at made
  split at made
  next => cases made
  next i named =>
    split at made
    next => cases made
    next selfArg position =>
      split at made
      next => cases made
      next arg found =>
        obtain ⟨inside, here, _⟩ := List.findIdx?_eq_some_iff_getElem.1 position
        obtain ⟨_, same⟩ := List.getElem?_eq_some_iff.1 found
        have index : arg.nativeIndex = i.toNat := by
          rw [← same]
          exact of_decide_eq_true here
        split at made
        next => cases made
        next safe =>
          simp only [Bool.or_eq_true, not_or, Bool.not_eq_true] at safe
          obtain ⟨rawOnly, isRaw⟩ := safe
          split at made
          next => cases made
          next owner receiver taken =>
            split at made
            next struct =>
              cases made
              exact ⟨arg, ⟨i, named, index⟩, found, rawOnly, isRaw, taken, struct, rfl⟩
            next => cases made

/-- The receiver of a method is found among the arguments. -/
theorem method_inRange (flagged : lib.Flagged t) (args : ∀ arg ∈ w.args, arg.InRange t.size)
    {m : Method} (made : method t f w = .ok (some m)) :
    m.owner < t.size ∧ m.selfArg < w.args.length := by
  obtain ⟨arg, promotes⟩ := promotes_of_method made
  have found := promotes.found
  have type := (args arg (List.mem_of_getElem? found)).type
  exact ⟨receiver_inRange flagged type promotes.taken, (List.getElem?_eq_some_iff.1 found).1⟩

theorem method_of_wrapper (run : on (lib.wrapper roots f) t = (.ok w, t')) {m : Method}
    (promoted : w.method = some m) :
    w.exposed ∧ method t' f { w with method := none } = .ok (some m) := by
  obtain ⟨_, args, result, shape, method, _, _, made, rfl⟩ := wrapper_cases run
  obtain rfl : method = some m := promoted
  split at made
  next exposed => exact ⟨exposed, made⟩
  next => cases made

theorem wrapper_inRange (flagged : lib.Flagged t)
    (run : on (lib.wrapper roots f) t = (.ok w, t')) : w.InRange t'.size := by
  obtain ⟨between, reads, resolved, _⟩ := parts_of_wrapper run
  obtain ⟨after, _, args⟩ := reads.inRange flagged
  obtain ⟨last, grows, result⟩ := after.resolve resolved
  have args : ∀ arg ∈ w.args, arg.InRange t'.size :=
    fun arg member => (args arg member).mono grows.size
  have methods (m : Method) (promoted : m ∈ w.method) :
      m.owner < t'.size ∧ m.selfArg < w.args.length := by
    obtain ⟨_, made⟩ := method_of_wrapper run promoted
    exact method_inRange (w := { w with method := none }) last args made
  exact ⟨result, args, fun m promoted => (methods m promoted).1,
    fun m promoted => (methods m promoted).2⟩

end Methods

section Roots

variable {s : StructDecl} {r : Root} {roots' : List Root}

theorem root_inRange (flagged : lib.Flagged t) (complete : lib.Complete t)
    (run : on (lib.root s) t = (.ok r, t')) : r.typeId < t'.size := by
  have unmoved := lib.resolve_unmoved
  unfold root at run
  obtain ⟨_, _, run⟩ := on_bind_of_unmoved (lifecycle_keeps unmoved s .retain .retain) complete run
  obtain ⟨_, _, run⟩ := on_bind_of_unmoved (lifecycle_keeps unmoved s .free .free) complete run
  obtain ⟨_, after, resolved, run⟩ := on_bind_eq_ok.1 run
  cases run
  exact (flagged.resolve resolved).2.2

theorem addRoots_inRange (flagged : lib.Flagged t) (complete : lib.Complete t)
    {fs : List FunctionDecl} (inside : ∀ r ∈ roots, r.typeId < t.size)
    (run : on (fs.foldlM lib.addRoot roots) t = (.ok roots', t')) :
    ∀ r ∈ roots', r.typeId < t.size := by
  induction fs generalizing roots with
  | nil =>
    cases run
    exact inside
  | cons f fs ih =>
    rw [List.foldlM_cons] at run
    obtain ⟨between, first, later⟩ :=
      on_bind_of_unmoved (addRoot_keeps lib.resolve_unmoved roots f) complete run
    refine ih ?_ later
    obtain ⟨_, rfl⟩ | ⟨_, s, _, _, ⟨_, rfl⟩ | ⟨_, r, made, rfl⟩⟩ := addRoot_cases first
    · exact inside
    · exact inside
    · exact List.forall_mem_append.2 ⟨inside, by simpa using root_inRange flagged complete made⟩

end Roots

section Layouts

variable {s : StructDecl} {m : Layout}

theorem layoutField_inRange (flagged : lib.Flagged t) {role : Role} {siblings : List FieldDecl}
    {d : FieldDecl} {field : LayoutField}
    (run : on (lib.layoutField s role siblings d) t = (.ok field, t')) : field.type < t'.size := by
  unfold layoutField at run
  obtain ⟨type, after, resolved, run⟩ := on_bind_eq_ok.1 run
  rw [on_get_bind] at run
  obtain ⟨_, _, run⟩ := on_liftOutcome_bind_eq_ok.1 run
  cases run
  exact (flagged.resolve resolved).2.2

theorem functionType_of_slots {fields : List LayoutField} {slots : CallbackSlots}
    (found : lib.callbackSlots t s fields = .ok slots) :
    ∃ f ∈ fields, slots.functionType = f.type := by
  unfold callbackSlots at found
  split at found
  next => cases found
  next f first =>
    split at found
    next => cases found
    next =>
      split at found
      next => cases found
      next =>
        cases found
        exact ⟨f, List.mem_of_find?_eq_some first, rfl⟩

theorem Mirrors.inRange (mirrors : lib.Mirrors t s m) (flagged : lib.Flagged t) :
    m.InRange t.size := by
  obtain ⟨members, _, each⟩ := mirrors.fields
  have fields : ∀ f ∈ m.fields, f.type < t.size := by
    intro f member
    obtain ⟨_, _, run⟩ := exists_left_of_forall₂ each member
    exact layoutField_inRange flagged run
  have index := mirrors.indexType
  have callback := mirrors.callback
  have default := mirrors.default
  refine ⟨TypeTable.lt_size_of_find? mirrors.type, fields, fun type given => ?_,
    fun slots given => ?_, fun is given => ?_⟩
  · rw [given] at index
    cases named : s.indexType with
    | none =>
      rw [named] at index
      cases index
    | some key =>
      rw [named] at index
      obtain ⟨_, _, resolved, made⟩ := on_bind_eq_ok.1 index
      cases made
      exact (flagged.resolve resolved).2.2
  · split at callback
    next =>
      obtain ⟨_, found, filled⟩ := callback
      obtain rfl := Option.some.inj (filled.symm.trans given)
      obtain ⟨f, member, same⟩ := functionType_of_slots found
      exact same ▸ fields f member
    next =>
      rw [callback] at given
      cases given
  · rw [given] at default
    exact (initialized_of_manual default).length_eq.symm

end Layouts

theorem global_inRange (flagged : lib.Flagged t) {g : GlobalDecl} {global : Global}
    (run : on (lib.global g) t = (.ok global, t')) : global.type < t'.size := by
  unfold Library.global at run
  obtain ⟨_, _, resolved, run⟩ := on_bind_eq_ok.1 run
  rw [on_get_bind] at run
  cases run
  exact (flagged.resolve resolved).2.2

variable {a : Analysis}

theorem Analyzed.flagged (analyzed : lib.Analyzed t a) : lib.Flagged a.types :=
  ⟨t, analyzed.formed, analyzed.reflagged⟩

/-- All positions in an analysis are in range. -/
theorem Analyzed.inRange (analyzed : lib.Analyzed t a) : a.InRange where
  nodes id inside ref member := by
    have ordered := analyzed.ordered
    simp only [Node.refs, List.mem_append, Option.mem_toList] at member
    rcases member with (inner | param) | item
    · exact Nat.lt_trans (ordered.inner_lt inner) inside
    · exact Nat.lt_trans (ordered.param_lt param) inside
    · exact Nat.lt_trans (ordered.item_lt item) inside
  layouts m member := by
    obtain ⟨_, s, _, _, _, mirrors⟩ := analyzed.mirrors member
    rw [analyzed.reflagged.size]
    exact mirrors.inRange ⟨t, analyzed.formed, rfl, fun _ => rfl⟩
  wrappers w member := by
    obtain ⟨_, _, run⟩ := exists_left_of_forall₂ analyzed.wrappers member
    exact wrapper_inRange analyzed.flagged run
  roots := addRoots_inRange analyzed.flagged (analyzed.complete.reflag analyzed.reflagged)
    (by simp) analyzed.roots
  globals g member := by
    obtain ⟨_, _, run⟩ := exists_left_of_forall₂ analyzed.globals member
    exact global_inRange analyzed.flagged run

end Library

end Bindery
