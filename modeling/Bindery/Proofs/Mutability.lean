import Bindery.Proofs.FunctionPointer
import Bindery.Proofs.Spelled

/-!
# Mutability of pointers

The caller of a native function passes pointers to const or to mutable memory, and the declaration
of the function asks for one of the two. Both read the const flag of the pointer, but a slice is
also const if its items are.
-/
namespace Bindery

open Typing

structure WrapperArg.Declared (t : TypeTable) (d : ArgDecl) (arg : WrapperArg) : Prop where
  type : t.find? d.type = some arg.type
  isConst : arg.isConst = ((t.target arg.type).isConst ||
    (decide (arg.kind = .slice) && arg.item.any fun item => (t.node item).isConst))
  item : arg.kind = .slice → arg.item = t.pointee arg.type
  pointer : arg.kind = .pointer → t.isOpaquePointer arg.type = false

/-- Whether the pointer that an expression yields is one to const memory. -/
def CallArg.isConst? : CallArg → Option Bool
  | .text _ isConst | .slice _ isConst | .blob _ isConst | .pointer _ isConst .. => some isConst
  | .length .. | .error | .panic | .direct _ => none

def castTo (isConst : Bool) (target : String) : String :=
  " as " ++ (if isConst then "*const " else "*mut ") ++ target

/-- An expression that yields a pointer: the start of a view, a cast, or a reference of a type that
stands for itself. -/
inductive PointsTo (type : String) (isConst : Bool) : String → Prop where
  | start (view : String) :
      PointsTo type isConst (view ++ if isConst then ".as_ptr()" else ".as_mut_ptr()")
  | cast (value target : String) : PointsTo type isConst (value ++ castTo isConst target)
  | orNull (value before target : String) : PointsTo type isConst
      (value ++ ".map_or(" ++ (if isConst then "ptr::null()" else "ptr::null_mut()") ++ ", |r| " ++
        (before ++ castTo isConst target) ++ ")")
  | reference (name lifetime target : String) :
      type = "&" ++ lifetime ++ (if isConst then "" else "mut ") ++ target →
      PointsTo type isConst name

/-- An expression agrees with the text of a native type if it yields a pointer of the mutability
that the text begins with, and no pointer if it begins with neither. -/
def CallArg.Agrees (e : CallArg) (text : String) : Prop :=
  (e.isConst? = some true ↔ ∃ rest, text = "*const " ++ rest) ∧
    (e.isConst? = some false ↔ ∃ rest, text = "*mut " ++ rest)

/-- What stands for a pointer is spelled as one unless it leads to a function. -/
theorem TypeTable.nativeText_begins_iff {t : TypeTable} {id : TypeId} (marked : t.Marked)
    (kind : (t.target id).kind = .pointer) (isConst : Bool) (lifetime : String) :
    (∃ rest, t.nativeText id lifetime = (if isConst then "*const " else "*mut ") ++ rest) ↔
      (t.node id).isFunction = false ∧ (t.target id).isConst = isConst := by
  cases function : (t.node id).isFunction with
  | true =>
    refine iff_of_false (fun ⟨rest, text⟩ => ?_) nofun
    have spelled : (t.spell .native id).isFunction := by rw [isFunction_spell marked, function]
    rw [nativeText, show t.native id = t.spell .native id from rfl] at text
    cases form : t.spell .native id with
    | function params result =>
      rw [form] at text
      -- The texts differ in their first character.
      have first := congrArg (fun text : String => text.toList.head?) text
      cases isConst <;> simp at first
    | _ => simp [form, Spelling.isFunction] at spelled
  | false =>
    have wraps : (t.target id).isWrapper := by simp [Node.isWrapper, kind]
    obtain ⟨inner, link⟩ := Option.isSome_iff_exists.1 (marked.wraps wraps)
    rw [and_iff_right rfl, nativeText, show t.native id = t.spell .native id from rfl,
      spell_target_pointer marked function link kind, if_pos (.inl rfl), Spelling.text_pointer]
    constructor
    · rintro ⟨rest, text⟩
      have second := congrArg (fun text : String => text.toList[1]?) text
      revert second
      cases (t.target id).isConst <;> cases isConst <;> simp
    · intro same
      exact ⟨_, by rw [same]⟩

/-- An expression agrees with a pointer if this leads to no function and both are const or neither
is. -/
theorem CallArg.agrees_iff {t : TypeTable} {id : TypeId} {e : CallArg} {isConst : Bool}
    (marked : t.Marked) (kind : (t.target id).kind = .pointer) (given : e.isConst? = some isConst) :
    e.Agrees (t.nativeText id "'_") ↔
      (t.node id).isFunction = false ∧ isConst = (t.target id).isConst := by
  have const := TypeTable.nativeText_begins_iff marked kind true "'_"
  have mutable := TypeTable.nativeText_begins_iff marked kind false "'_"
  simp only [if_true, Bool.false_eq_true, if_false] at const mutable
  rw [Agrees, given, const, mutable]
  cases (t.node id).isFunction <;> cases isConst <;> cases (t.target id).isConst <;> simp

/-- An argument has the flag of its pointer unless it is a slice of const items behind one that is
not const. -/
theorem WrapperArg.Declared.isConst_iff {t : TypeTable} {d : ArgDecl} {arg : WrapperArg}
    {inner : TypeId} (read : arg.Declared t d) (points : t.pointee arg.type = some inner) :
    arg.isConst = (t.target arg.type).isConst ↔
      (arg.kind = .slice → ∀ item, t.pointee arg.type = some item →
        (t.node item).isConst → (t.target arg.type).isConst) := by
  rw [read.isConst]
  by_cases slice : arg.kind = .slice
  · rw [read.item slice, points]
    cases (t.target arg.type).isConst <;> simp [slice]
  · simp [slice]

namespace Library

variable {lib : Library} {index : Nat} {t t' : TypeTable} {ds : List ArgDecl} {arg : WrapperArg}
  {args : List WrapperArg}

theorem Takes.declared (takes : lib.Takes index t t' ds arg) (complete : lib.Complete t) :
    t' = t ∧ ∃ d rest, ds = d :: rest ∧ arg.Declared t d := by
  cases takes with
  | @paired pointer length kind lengthTag type _ _ _ pairs _ resolved measured made =>
    obtain ⟨rfl, found⟩ := complete.resolve resolved
    obtain ⟨rfl, _⟩ := complete.resolve measured
    refine ⟨rfl, pointer, [length], rfl, ?_⟩
    have other : kind ≠ .pointer := by
      intro pointer
      have paired := ArgTag.mem_of_paired? pairs
      simp [pointer] at paired
    unfold pairedArgument at made
    dsimp only at made
    split at made
    next slice =>
      obtain ⟨item, points, rfl⟩ := Option.map_eq_some_iff.1 made
      exact ⟨found, by simp [argument, slice], fun _ => points.symm, fun kind => absurd kind other⟩
    next whole =>
      cases made
      exact ⟨found, by simp [argument, whole], fun slice => absurd slice whole,
        fun kind => absurd kind other⟩
  | @error d _ _ _ resolved | @panic d _ _ _ resolved =>
    obtain ⟨rfl, found⟩ := complete.resolve resolved
    refine ⟨rfl, d, [], rfl, found, by simp [argument], ?_, ?_⟩ <;> intro other <;> cases other
  | @normal d type _ resolved =>
    obtain ⟨rfl, found⟩ := complete.resolve resolved
    refine ⟨rfl, d, [], rfl, ?_⟩
    rcases normalArgument_cases t' (argument t' index d type) with ⟨kind, visible⟩ | kind
    · exact ⟨found, by rw [kind]; simp [normalArgument, argument],
        fun slice => ArgKind.noConfusion (kind.symm.trans slice), fun _ => visible⟩
    · have single : (normalArgument t' (argument t' index d type)).kind ≠ .slice ∧
          (normalArgument t' (argument t' index d type)).kind ≠ .pointer := by
        constructor <;> intro same <;> simp [same] at kind
      exact ⟨found, by rw [decide_eq_false single.1]; simp [normalArgument, argument],
        fun slice => absurd slice single.1, fun pointer => absurd pointer single.2⟩

theorem Reads.declared (reads : lib.Reads index t t' ds args) (complete : lib.Complete t)
    (member : arg ∈ args) :
    ∃ d, ds[arg.nativeIndex - index]? = some d ∧ arg.Declared t d := by
  induction reads with
  | nil => cases member
  | @cons index t between t' ds rest first args takes later ih =>
    obtain ⟨here, _⟩ := takes.place
    obtain ⟨rfl, d, others, rfl, declared⟩ := takes.declared complete
    rcases List.mem_cons.1 member with rfl | member
    · subst here
      exact ⟨d, by simp, declared⟩
    · obtain ⟨after, _⟩ := later.named member
      obtain ⟨d', found, declared⟩ := ih complete member
      refine ⟨d', ?_, declared⟩
      rw [List.getElem?_append_right (by omega)]
      rwa [show arg.nativeIndex - index - (d :: others).length =
        arg.nativeIndex - (index + (d :: others).length) by omega]

end Library

namespace Analysis

variable {a : Analysis} {d : ArgDecl} {arg : WrapperArg} {w : Wrapper}

theorem pointerText_pointsTo (type name lifetime target member native : String)
    (isConst isNullable : Bool) (reference : isNullable = false →
      type = "&" ++ lifetime ++ (if isConst then "" else "mut ") ++ target) :
    PointsTo type isConst (CallArg.pointerText name isConst isNullable member native) := by
  have orNull (before target : String) : PointsTo type isConst (name ++ ".map_or(" ++
      (if isConst then "ptr::null()" else "ptr::null_mut()") ++ ", |r| r" ++
        (before ++ castTo isConst target) ++ ")") := by
    have opened : ", |r| r" = ", |r| " ++ "r" := rfl
    have text : PointsTo type isConst _ := .orNull name ("r" ++ before) target
    simpa only [opened, String.append_assoc] using text
  have first : " as " ++ (if isConst then "*const " else "*mut ") ++ member =
      castTo isConst member := rfl
  unfold CallArg.pointerText
  dsimp only
  rw [first]
  -- A reference that is spelled as the pointer is needs no second cast, and none if it is not null.
  by_cases same : member = native
  · rw [if_pos same, String.append_empty]
    cases isNullable with
    | true => simpa using orNull "" member
    | false =>
      rw [if_neg Bool.false_ne_true, if_pos same]
      exact .reference name lifetime target (reference rfl)
  · rw [if_neg same]
    cases isNullable with
    | true => exact orNull (castTo isConst member) native
    | false =>
      rw [if_neg Bool.false_ne_true, if_neg same, ← String.append_assoc]
      exact .cast (name ++ castTo isConst member) native

/-- The first expression of an argument that is passed as a pointer has the mutability that the
argument has, and is written for it. -/
theorem callArgs_pointsTo (kind : arg.kind ∈ [.pointer, .string, .slice, .blob])
    (points : (a.types.pointee arg.type).isSome) {safe : Bool} (plain : (safe && arg.isRaw) = false)
    (lifetime : String) : ∃ e, (a.callArgs arg)[0]? = some e ∧ e.isConst? = some arg.isConst ∧
      PointsTo (a.paramType arg safe lifetime) arg.isConst e.render := by
  simp only [List.mem_cons, List.not_mem_nil, or_false] at kind
  rcases kind with kind | kind | kind | kind
  · obtain ⟨pointee, points⟩ := Option.isSome_iff_exists.1 points
    refine ⟨.pointer arg.name arg.isConst arg.isNullable (a.types.member pointee)
      (a.types.native pointee), by simp [callArgs, kind, points], rfl, ?_⟩
    refine pointerText_pointsTo _ _ (if lifetime.isEmpty then "" else lifetime ++ " ")
      (a.types.memberText pointee (if lifetime.isEmpty then "'_" else lifetime)) _ _ _ _ ?_
    intro never
    simp only [paramType, kind, points, plain, never, Bool.false_eq_true, if_false,
      TypeTable.memberText]
    split
    next => rw [String.append_empty]
    next => simp only [String.append_assoc]
  · refine ⟨.text arg.name arg.isConst, by simp [callArgs, kind], rfl, ?_⟩
    cases arg.isConst with
    | true =>
      rw [CallArg.render, if_pos rfl, String.append_empty]
      exact .start arg.name
    | false => exact .cast (arg.name ++ ".as_ptr()") "u8"
  · exact ⟨.slice arg.name arg.isConst, by simp [callArgs, kind], rfl, .start arg.name⟩
  · refine ⟨.blob arg.name arg.isConst, by simp [callArgs, kind], rfl, ?_⟩
    have start (isConst : Bool) :
        (if isConst then ".as_ptr() as *const c_void" else ".as_mut_ptr() as *mut c_void") =
          (if isConst then ".as_ptr()" else ".as_mut_ptr()") ++ castTo isConst "c_void" := by
      cases isConst <;> rfl
    rw [CallArg.render, start, ← String.append_assoc]
    exact .cast (arg.name ++ if arg.isConst then ".as_ptr()" else ".as_mut_ptr()") "c_void"

/-- A function is declared under the types of its native arguments where it is described under its
own name. -/
theorem linkItem_spelled {link : LinkItem} {f : FunctionDecl} {i : Nat} {type : TypeId}
    (made : a.linkItem = .ok link) (wrapped : w ∈ a.wrappers) (linked : w.linked)
    (own : a.library.description.functions.find? w.native = some f)
    (place : f.args[i]? = some d) (found : a.types.find? d.type = some type) :
    ∃ n ∈ link.functions, n.name = w.native ∧
      (n.params[i]?).map (·.2) = some (a.types.native type) := by
  obtain ⟨functions, each, same⟩ := bind_eq_ok_iff.1 made
  cases same
  have inside : (w, f) ∈ (a.wrappers.filter (·.linked)).filterMap fun w =>
      (a.library.description.functions.find? w.native).map (w, ·) :=
    List.mem_filterMap.2 ⟨w, List.mem_filter.2 ⟨wrapped, linked⟩, by rw [own, Option.map_some]⟩
  obtain ⟨n, member, run⟩ := exists_right_of_forall₂ (mapM_eq_ok_iff.1 each) inside
  obtain ⟨params, read, same⟩ := bind_eq_ok_iff.1 run
  cases same
  refine ⟨_, member, rfl, ?_⟩
  obtain ⟨same, each⟩ := List.forall₂_iff_get.1 (nativeParams_spelled read)
  obtain ⟨inside, rfl⟩ := List.getElem?_eq_some_iff.1 place
  have within : i < params.length := by omega
  obtain ⟨other, found', spelled⟩ := each i inside within
  cases found.symm.trans found'
  rw [List.getElem?_eq_getElem within, Option.map_some]
  exact congrArg some spelled

structure Passes (a : Analysis) (w : Wrapper) (f : FunctionDecl) (arg : WrapperArg) (d : ArgDecl)
    (e : CallArg) : Prop where
  /-- The argument begins with a native one of its type, -/
  declared : f.args[arg.nativeIndex]? = some d ∧ a.types.find? d.type = some arg.type
  /-- which is what the function is declared with, -/
  linked : ∀ link, a.linkItem = .ok link → w.linked →
    a.library.description.functions.find? w.native = some f → ∃ n ∈ link.functions,
      n.name = w.native ∧ (n.params[arg.nativeIndex]?).map (·.2) = some (a.types.native arg.type)
  /-- and the expression at its place in the call is written for the type of its parameter. -/
  passed : ∀ records, (a.nativeCall records w).args[arg.nativeIndex]? = some e
  written : e.isConst? = some arg.isConst ∧ ∃ type,
    (arg.name, type) ∈ (a.signature w (!w.isRaw)).params ∧ PointsTo type arg.isConst e.render

end Analysis

namespace Library

variable {lib : Library} {a : Analysis} {w : Wrapper} {arg : WrapperArg}

/-- Pointers are passed with the mutability that they are declared with, unless they lead to
functions or the items of a slice are const behind a pointer that is not. -/
theorem mutability_agrees_iff (success : lib.analyze = .ok a) (wrapped : w ∈ a.wrappers)
    (member : arg ∈ w.args) (kind : arg.kind ∈ [.pointer, .string, .slice, .blob])
    (pointer : (a.types.target arg.type).kind = .pointer) :
    ∃ f ∈ lib.declaredFunctions, f.name = w.native ∧ ∃ d e, a.Passes w f arg d e ∧
      (e.Agrees (a.types.nativeText arg.type "'_") ↔
        (a.types.node arg.type).isFunction = false ∧
          (arg.kind = .slice → ∀ item, a.types.pointee arg.type = some item →
            (a.types.node item).isConst → (a.types.target arg.type).isConst)) := by
  obtain ⟨t, analyzed⟩ := lib.analyzed success
  obtain ⟨f, declared, run⟩ := exists_left_of_forall₂ analyzed.wrappers wrapped
  have complete : lib.Complete a.types := analyzed.complete.reflag analyzed.reflagged
  have marked : a.types.Marked := Flagged.marked ⟨t, analyzed.formed, analyzed.reflagged⟩
  obtain ⟨between, reads⟩ := reads_of_wrapper run
  obtain ⟨d, place, read⟩ := reads.declared complete member
  have inPlace := reads.inPlace a
  have wraps : (a.types.target arg.type).isWrapper := by simp [Node.isWrapper, pointer]
  obtain ⟨inner, link⟩ := Option.isSome_iff_exists.1 (marked.wraps wraps)
  have points : a.types.pointee arg.type = some inner := (if_pos pointer).trans link
  have shown : arg ∈ w.visibleArgs := by
    refine List.mem_filter.2 ⟨member, ?_⟩
    simp only [List.mem_cons, List.not_mem_nil, or_false] at kind
    rcases kind with kind | kind | kind | kind <;> rw [kind] <;> rfl
  -- The entry point that calls the native function takes raw shapes if there are any.
  have plain : (!w.isRaw && arg.isRaw) = false := by
    cases raw : w.isRaw with
    | true => rfl
    | false => exact plain_of_wrapper run raw member
  obtain ⟨named, params⟩ := a.params_signature w (!w.isRaw)
  obtain ⟨e, first, isConst, written⟩ := Analysis.callArgs_pointsTo (a := a) kind
    (Option.isSome_iff_exists.2 ⟨inner, points⟩) plain (if named arg then "'a" else "")
  refine ⟨f, declared, (wrapper_stands run).1.symm, d, e, ?_, ?_⟩
  · constructor
    case declared => exact ⟨place, read.type⟩
    case linked =>
      intro link made linked own
      exact Analysis.linkItem_spelled made wrapped linked own place read.type
    case passed =>
      intro records
      obtain ⟨_, places⟩ := (inPlace records).tiles.callArgs a
      have here := (places arg member).2 0 arg.kind.width_pos
      rw [first] at here
      simpa [Analysis.nativeCall] using here
    case written =>
      refine ⟨isConst, _, ?_, written⟩
      rw [params]
      exact List.mem_map.2 ⟨arg, shown, rfl⟩
  · rw [CallArg.agrees_iff marked pointer isConst, read.isConst_iff points]

def nameFiller : Library where
  description := {
    types := ⟨[("char", { kind := .primitive }),
      ("char const*", { kind := .pointer, inner := some "char", isConst := true }),
      ("char const**", { kind := .pointer, inner := some "char const*" }),
      ("size_t", { kind := .primitive }),
      ("void", { kind := .primitive })], by decide⟩
    functions := ⟨[("fill_names", {
      name := "fill_names"
      shortName := "fill_names"
      returnType := "void"
      args := [
        { name := "names", type := "char const**", tag := .arrayPointer },
        { name := "count", type := "size_t", tag := .arrayLength }] })], by decide⟩
    declarations := [⟨.function, "fill_names"⟩] }
  config := { link := "x" }

/-- The names are declared mutable, but passed as const. -/
theorem names_disagree : ∃ a w f arg d e, nameFiller.analyze = .ok a ∧ w ∈ a.wrappers ∧
    arg ∈ w.args ∧ arg.kind ∈ [.pointer, .string, .slice, .blob] ∧
    (a.types.target arg.type).kind = .pointer ∧ a.Passes w f arg d e ∧
    e.render = "names.as_ptr()" ∧ a.types.nativeText arg.type "'_" = "*mut *const u8" ∧
    ¬e.Agrees (a.types.nativeText arg.type "'_") := by
  have checked : nameFiller.analyze.toOption.any (fun a => a.wrappers.any fun w => w.args.any
      fun arg => arg.kind = .slice ∧ (a.types.target arg.type).kind = .pointer ∧
        (a.types.target arg.type).isConst = false ∧
        (a.types.pointee arg.type).map (fun item => (a.types.node item).isConst) = some true ∧
        a.types.nativeText arg.type "'_" = "*mut *const u8" ∧
        ((a.nativeCall { error := none, panic := none } w).args[arg.nativeIndex]?).map
          CallArg.render = some "names.as_ptr()") := by decide +kernel
  obtain ⟨a, success, checked⟩ := ok_of_any checked
  obtain ⟨w, wrapped, checked⟩ := List.any_eq_true.1 checked
  obtain ⟨arg, member, checked⟩ := List.any_eq_true.1 checked
  obtain ⟨slice, pointer, mutable, item, text, render⟩ := of_decide_eq_true checked
  have kind : arg.kind ∈ [.pointer, .string, .slice, .blob] := by simp [slice]
  obtain ⟨f, _, _, d, e, passes, agrees⟩ :=
    mutability_agrees_iff success wrapped member kind pointer
  refine ⟨a, w, f, arg, d, e, success, wrapped, member, kind, pointer, passes, ?_, text, ?_⟩
  · rw [passes.passed, Option.map_some] at render
    exact Option.some.inj render
  · rw [agrees]
    rintro ⟨_, merged⟩
    obtain ⟨item, points, const⟩ := Option.map_eq_some_iff.1 item
    exact Bool.false_ne_true (mutable.symm.trans (merged slice item points const))

end Library

end Bindery
