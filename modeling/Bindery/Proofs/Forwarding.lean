import Bindery.Proofs.Calling
import Bindery.Proofs.Emission
import Mathlib.Data.List.InsertIdx

/-!
# Methods

A method stands beside the safe function of its wrapper and calls it with one expression a
parameter: the receiver in the place of the argument that it is taken from, and every other
parameter for itself.
-/
namespace Bindery

open Typing

namespace Ident

end Ident

/-- The type that a signature gives to a name, which is that of the first parameter. -/
def Signature.typeOf (s : Signature) (name : String) : String :=
  ((s.params.find? (·.1 = name)).map (·.2)).getD ""

theorem Signature.find?_of_mem {s : Signature} {param : String × String}
    (member : param ∈ s.params) : ∃ first ∈ s.params, first.1 = param.1 ∧
      s.params.find? (·.1 = param.1) = some first ∧ s.typeOf param.1 = first.2 := by
  obtain ⟨first, found⟩ : ∃ first, s.params.find? (·.1 = param.1) = some first := by
    rw [← Option.isSome_iff_exists, List.find?_isSome]
    exact ⟨param, member, by simp⟩
  have same : first.1 = param.1 := by simpa using List.find?_some found
  exact ⟨first, List.mem_of_find?_eq_some found, same, found, by simp [typeOf, found]⟩

theorem Signature.typeOf_of_mem {s : Signature} (distinct : (s.params.map (·.1)).Nodup)
    {param : String × String} (member : param ∈ s.params) : s.typeOf param.1 = param.2 := by
  obtain ⟨first, listed, same, _, type⟩ := find?_of_mem member
  rw [type, List.inj_on_of_nodup_map distinct listed member same]

def borrowsAs (type : String) : Bool := Text.occursIn ['&', '\'', 'a'] type.toList

/-- Where the values of a list differ, all elements but one are those with another value. -/
theorem filter_ne_eq_eraseIdx {α : Type} {f : α → Nat} {xs : List α} {x : α} {k : Nat}
    (distinct : (xs.map f).Nodup) (place : xs[k]? = some x) :
    xs.filter (fun y => decide (f y ≠ f x)) = xs.eraseIdx k := by
  induction xs generalizing k with
  | nil => cases place
  | cons first xs ih =>
    obtain ⟨other, distinct⟩ := List.nodup_cons.1 distinct
    have apart {y : α} (member : y ∈ xs) : f first ≠ f y := fun same =>
      other (same ▸ List.mem_map_of_mem member)
    cases k with
    | zero =>
      cases place
      rw [List.filter_cons_of_neg (by simp), List.eraseIdx_cons_zero, List.filter_eq_self]
      intro y member
      simpa using (apart member).symm
    | succ k =>
      rw [List.getElem?_cons_succ] at place
      rw [List.filter_cons_of_pos (by simpa using apart (List.mem_of_getElem? place)),
        List.eraseIdx_cons_succ, ih distinct place]

/-- A receiver is taken from an argument that callers see. -/
theorem Library.Promotes.shown {t : TypeTable} {f : FunctionDecl} {w : Wrapper} {m : Method}
    {arg : WrapperArg} (promotes : Promotes t f w m arg) :
    arg ∈ w.visibleArgs ∧ (arg.kind = .pointer ∨ arg.kind = .plain) := by
  have kind : arg.kind = .pointer ∨ arg.kind = .plain := by
    obtain ⟨kind, _⟩ | ⟨kind, _⟩ := receiver_cases promotes.taken
    · exact .inl kind
    · exact .inr kind
  have visible : arg.kind.isVisible := by rcases kind with kind | kind <;> rw [kind] <;> rfl
  exact ⟨List.mem_filter.2 ⟨List.mem_of_getElem? promotes.found, visible⟩, kind⟩

namespace Analysis

variable {a : Analysis} {items : List Item} {w : Wrapper} {m : Method} {arg : WrapperArg}
  {item : MethodItem} {f : FunctionDecl}

def optional (isNullable : Bool) (type : String) : String :=
  if isNullable then "Option<" ++ type ++ ">" else type

/-- How a receiver is written for a parameter of a type: by itself, or as a reference that may have
a lifetime. -/
inductive Replaces (a : Analysis) (arg : WrapperArg) (owner : TypeId) (own : Bool) :
    Receiver → String → String → Prop where
  | shared {pointee : TypeId} {named : Bool} : arg.kind = .pointer →
      a.types.pointee arg.type = some pointee → a.types.strip pointee = owner →
      Replaces a arg owner own .shared
        (optional arg.isNullable ("&" ++ (if named then "'a " else "") ++
          a.types.memberText pointee (if named then "'a" else "'_")))
        ("&" ++ (if own then "'a " else "") ++ "self")
  | exclusive {pointee : TypeId} {named : Bool} : arg.kind = .pointer →
      a.types.pointee arg.type = some pointee → a.types.strip pointee = owner →
      Replaces a arg owner own .exclusive
        (optional arg.isNullable ("&" ++ (if named then "'a " else "") ++ "mut " ++
          a.types.memberText pointee (if named then "'a" else "'_")))
        ("&" ++ (if own then "'a " else "") ++ "mut self")
  | value : arg.kind = .plain → a.types.strip arg.type = owner →
      Replaces a arg owner own .value (a.types.memberText arg.type "'_") "self"

/-- A method beside the signature of the safe function that it calls. -/
structure Forwards (a : Analysis) (w : Wrapper) (m : Method) (arg : WrapperArg)
    (item : MethodItem) : Prop where
  function : item.function = w.name
  /-- The method is written as a block, whose only line calls the function with its arguments. -/
  written : ∃ header, (a.signature w true).Heads "pub fn" m.name item.params header ∧
    item.step = .braces header [.line (w.name ++ "(" ++ ", ".intercalate item.args ++ ")")]
  /-- There is one expression for each parameter, -/
  length : item.args.length = (a.signature w true).params.length
  /-- and one of them is the receiver, as it is declared. Every other parameter is passed on, and
  declared with its type behind the receiver. -/
  receiver : ∃ (k : Nat) (type text : String),
    (a.signature w true).params[k]? = some (arg.name, type) ∧
    item.args[k]? = some (if arg.kind = .pointer ∧ arg.isNullable then "Some(self)" else "self") ∧
    a.Replaces arg m.owner (borrowsAs ((a.signature w true).typeOf arg.name)) m.receiver type text ∧
    (∀ j (param : String × String), j ≠ k → (a.signature w true).params[j]? = some param →
      item.args[j]? = some param.1) ∧
    item.params = text :: ((a.signature w true).params.eraseIdx k).map fun param =>
      param.1 ++ ": " ++ (a.signature w true).typeOf param.1
  /-- Where names differ, they have the types of their own parameters. -/
  types : ((a.signature w true).params.map (·.1)).Nodup →
    ∀ param ∈ (a.signature w true).params, (a.signature w true).typeOf param.1 = param.2

theorem replaces_of_receiver (taken : Library.receiver a.types arg = .ok (m.owner, m.receiver))
    (isRaw : arg.isRaw = false) (named : Bool) (s : Signature) :
    a.Replaces arg m.owner (borrowsAs (s.typeOf arg.name)) m.receiver
      (a.paramType arg true (if named then "'a" else "")) (receiverText s m.receiver arg) := by
  obtain ⟨kind, pointee, points, owner, receiver⟩ | ⟨kind, owner, receiver⟩ :=
    Library.receiver_cases taken
  · have type : a.paramType arg true (if named then "'a" else "") =
        optional arg.isNullable ("&" ++ (if named then "'a " else "") ++
          (if arg.isConst then "" else "mut ") ++
          a.types.memberText pointee (if named then "'a" else "'_")) := by
      unfold paramType
      cases named <;> simp [kind, points, isRaw, optional]
    rw [type, receiver]
    cases arg.isConst with
    | true =>
      rw [if_pos rfl, if_pos rfl, String.append_empty, receiverText]
      exact .shared kind points owner.symm
    | false =>
      rw [if_neg Bool.false_ne_true, if_neg Bool.false_ne_true, receiverText]
      exact .exclusive kind points owner.symm
  · have type : a.paramType arg true (if named then "'a" else "") =
        a.types.memberText arg.type "'_" := by
      simp [paramType, kind, isRaw]
    rw [type, receiver]
    exact .value kind owner.symm

/-- The parameters behind the receiver are those of the signature, but for its own. -/
theorem params_behind {k : Nat} (distinct : (w.visibleArgs.map (·.nativeIndex)).Nodup)
    (place : w.visibleArgs[k]? = some arg) :
    let s := a.signature w true
    (w.visibleArgs.filter (·.nativeIndex ≠ arg.nativeIndex)).filterMap (fun other =>
        (s.params.find? (·.1 = other.name)).map fun param => other.name ++ ": " ++ param.2) =
      (s.params.eraseIdx k).map fun param => param.1 ++ ": " ++ s.typeOf param.1 := by
  intro s
  obtain ⟨named, params⟩ := a.params_signature w true
  have given (other : WrapperArg) (visible : other ∈ w.visibleArgs) :
      (s.params.find? (·.1 = other.name)).map (fun param => other.name ++ ": " ++ param.2) =
        some (other.name ++ ": " ++ s.typeOf other.name) := by
    have member : (other.name, a.paramType other true (if named other then "'a" else "")) ∈
        s.params := params ▸ List.mem_map_of_mem visible
    obtain ⟨_, _, _, found, type⟩ := Signature.find?_of_mem member
    rw [found, type]
    rfl
  have erased : w.visibleArgs.eraseIdx k ⊆ w.visibleArgs := (List.eraseIdx_sublist ..).subset
  rw [filter_ne_eq_eraseIdx distinct place,
    List.filterMap_congr fun other member => given other (erased member), params,
    List.eraseIdx_map, List.map_map, ← List.filterMap_eq_map]
  rfl

theorem forwards_of_methodItem (increasing : w.args.Pairwise (·.nativeIndex < ·.nativeIndex))
    (promotes : Library.Promotes a.types f w m arg) (made : a.methodItem w m = some item) :
    a.Forwards w m arg item := by
  obtain ⟨k, place⟩ := List.mem_iff_getElem?.1 promotes.shown.1
  have distinct : (w.visibleArgs.map (·.nativeIndex)).Nodup :=
    List.pairwise_map.2 ((increasing.filter _).imp Nat.ne_of_lt)
  -- No other argument begins at the native argument of the receiver.
  have apart {j : Nat} {other : WrapperArg} (different : j ≠ k)
      (found : w.visibleArgs[j]? = some other) : other.nativeIndex ≠ arg.nativeIndex := by
    intro same
    obtain ⟨inside, _⟩ := List.getElem?_eq_some_iff.1 found
    refine different ((List.getElem?_inj (by simpa using inside) distinct).1 ?_)
    simp [found, place, same]
  obtain ⟨named, params⟩ := a.params_signature w true
  unfold methodItem at made
  rw [promotes.found] at made
  cases made
  constructor
  case function => rfl
  case written => exact ⟨_, (a.signature w true).heads_header .., rfl⟩
  case length => simp [params]
  case types => exact fun distinct param => Signature.typeOf_of_mem distinct
  case receiver =>
    refine ⟨k, a.paramType arg true (if named arg then "'a" else ""), _, by simp [params, place],
      by simp [place], replaces_of_receiver promotes.taken promotes.isRaw _ _, ?_, ?_⟩
    · intro j param different found
      rw [params, List.getElem?_map, Option.map_eq_some_iff] at found
      obtain ⟨other, found, rfl⟩ := found
      simp [found, apart different found]
    · exact congrArg _ (params_behind distinct place)

end Analysis

namespace Library

variable {lib : Library} {a : Analysis} {w : Wrapper} {m : Method}

/-- A method is that of a declared function, and its receiver one of the arguments. -/
theorem Analyzed.promotes {t : TypeTable} (analyzed : lib.Analyzed t a) (wrapped : w ∈ a.wrappers)
    (promoted : w.method = some m) (records : Records) : ∃ f arg, (f ∈ lib.declaredFunctions ∧
      f.name = w.native) ∧ w.exposed ∧ InPlace a records f w ∧ Promotes a.types f w m arg := by
  obtain ⟨f, declared, run⟩ := exists_left_of_forall₂ analyzed.wrappers wrapped
  obtain ⟨exposed, made⟩ := method_of_wrapper run promoted
  obtain ⟨arg, bare⟩ := promotes_of_method made
  obtain ⟨between, reads⟩ := reads_of_wrapper run
  exact ⟨f, arg, ⟨declared, (wrapper_stands run).1.symm⟩, exposed, reads.inPlace a records,
    { bare with }⟩

theorem Analyzed.forwards {t : TypeTable} (analyzed : lib.Analyzed t a) (wrapped : w ∈ a.wrappers)
    (promoted : w.method = some m) {item : MethodItem} (made : a.methodItem w m = some item) :
    ∃ arg, a.Forwards w m arg item := by
  obtain ⟨f, arg, _, _, inPlace, promotes⟩ :=
    analyzed.promotes wrapped promoted { error := none, panic := none }
  exact ⟨arg, Analysis.forwards_of_methodItem inPlace.tiles.increasing.2 promotes made⟩

end Library

end Bindery
