import Bindery.Item.Function
import Bindery.Proofs.Typing
import Mathlib.Data.List.Forall2

/-!
# Arguments and native arguments

Each argument of a wrapper stands for one native argument or for a pointer with its length. They
are read and passed to the native function in one order.
-/
namespace Bindery

open Typing

/-- The number of native arguments that an argument of a kind stands for. -/
def ArgKind.width : ArgKind → Nat
  | .string | .slice | .blob => 2
  | _ => 1

theorem ArgTag.mem_of_paired? {tag lengthTag : ArgTag} {kind : ArgKind}
    (pairs : tag.paired? = some (kind, lengthTag)) : kind ∈ [.string, .slice, .blob] := by
  unfold paired? at pairs
  split at pairs <;> cases pairs <;> decide

namespace Library

theorem pairedArgument_kind {t : TypeTable} {arg arg' : WrapperArg} {kind : ArgKind}
    {lengthType : TypeId} (made : pairedArgument t arg kind lengthType = some arg') :
    arg'.kind = kind := by
  unfold pairedArgument at made
  dsimp only at made
  split at made
  next =>
    obtain ⟨item, _, rfl⟩ := Option.map_eq_some_iff.1 made
    rfl
  next =>
    cases made
    rfl

theorem normalArgument_cases (t : TypeTable) (arg : WrapperArg) :
    (normalArgument t arg).kind = .pointer ∧ t.isOpaquePointer arg.type = false ∨
      (normalArgument t arg).kind ∈ [.plain, .callback] := by
  simp only [normalArgument]
  split
  next => simp
  next =>
    split
    next visible =>
      simp only [Bool.and_eq_true, Bool.not_eq_true'] at visible
      exact .inl ⟨rfl, visible.2⟩
    next => simp

inductive Takes (lib : Library) (index : Nat) (t t' : TypeTable) :
    List ArgDecl → WrapperArg → Prop where
  | paired {pointer length kind lengthTag type lengthType between arg} :
      pointer.tag.paired? = some (kind, lengthTag) → length.tag = lengthTag →
      on (lib.resolve pointer.type) t = (.ok type, between) →
      on (lib.resolve length.type) between = (.ok lengthType, t') →
      pairedArgument t' (argument between index pointer type) kind lengthType = some arg →
      Takes lib index t t' [pointer, length] arg
  | error {d type} : d.tag = .error → lib.config.errors.isSome →
      on (lib.resolve d.type) t = (.ok type, t') →
      Takes lib index t t' [d] { argument t' index d type with kind := .errorOut }
  | panic {d type} : d.tag = .panic → lib.config.panics.isSome →
      on (lib.resolve d.type) t = (.ok type, t') →
      Takes lib index t t' [d] { argument t' index d type with kind := .panicOut }
  | normal {d type} : d.tag = .normal → on (lib.resolve d.type) t = (.ok type, t') →
      Takes lib index t t' [d] (normalArgument t' (argument t' index d type))

inductive Reads (lib : Library) :
    Nat → TypeTable → TypeTable → List ArgDecl → List WrapperArg → Prop where
  | nil {index t} : Reads lib index t t [] []
  | cons {index t between t' ds rest arg args} : lib.Takes index t between ds arg →
      Reads lib (index + ds.length) between t' rest args →
      Reads lib index t t' (ds ++ rest) (arg :: args)

variable {lib : Library} {index : Nat} {t t' : TypeTable}

theorem reads_of_arguments {function : String} {ds : List ArgDecl} {args : List WrapperArg}
    (run : on (lib.arguments function index ds) t = (.ok args, t')) :
    lib.Reads index t t' ds args := by
  fun_induction lib.arguments function index ds generalizing t args with
  | case1 =>
    cases run
    exact .nil
  | case2 index d rest afterPair afterOne =>
    obtain ⟨type, between, resolved, run⟩ := on_bind_eq_ok.1 run
    rw [on_get_bind] at run
    dsimp only at run
    split at run
    next kind lengthTag pairs =>
      split at run
      next => cases run
      next length rest =>
        split at run
        next => simp at run
        next tagged =>
          obtain ⟨lengthType, after, measured, run⟩ := on_bind_eq_ok.1 run
          rw [on_get_bind] at run
          split at run
          next => cases run
          next arg made =>
            obtain ⟨args, _, read, run⟩ := on_bind_eq_ok.1 run
            cases run
            exact .cons (.paired pairs (Decidable.not_not.1 tagged) resolved measured made)
              (afterPair read)
    next single =>
      split at run
      next tag =>
        split at run
        next => simp at run
        next given =>
          obtain ⟨args, _, read, run⟩ := on_bind_eq_ok.1 run
          cases run
          exact .cons (.error tag (by simpa [Option.isSome_iff_ne_none] using given) resolved)
            (afterOne read)
      next tag =>
        split at run
        next => simp at run
        next given =>
          obtain ⟨args, _, read, run⟩ := on_bind_eq_ok.1 run
          cases run
          exact .cons (.panic tag (by simpa [Option.isSome_iff_ne_none] using given) resolved)
            (afterOne read)
      next tag =>
        rw [on_get_bind] at run
        obtain ⟨args, _, read, run⟩ := on_bind_eq_ok.1 run
        cases run
        exact .cons (.normal tag resolved) (afterOne read)
      next => cases run

/-- An argument begins where it is read, under the name of the first native argument, and stands
for as many as its kind says. -/
theorem Takes.place {ds : List ArgDecl} {arg : WrapperArg} (takes : lib.Takes index t t' ds arg) :
    arg.nativeIndex = index ∧ ds.length = arg.kind.width ∧
      ∃ d rest, ds = d :: rest ∧ arg.name = Ident.escape d.name := by
  cases takes with
  | @paired pointer length kind lengthTag type lengthType between arg pairs _ _ _ made =>
    have width : kind.width = 2 := by
      have paired := ArgTag.mem_of_paired? pairs
      simp only [List.mem_cons, List.not_mem_nil, or_false] at paired
      rcases paired with rfl | rfl | rfl <;> rfl
    unfold pairedArgument at made
    dsimp only at made
    split at made
    next =>
      obtain ⟨item, _, rfl⟩ := Option.map_eq_some_iff.1 made
      exact ⟨rfl, width.symm, pointer, [length], rfl, rfl⟩
    next =>
      cases made
      exact ⟨rfl, width.symm, pointer, [length], rfl, rfl⟩
  | @error d | @panic d => exact ⟨rfl, rfl, d, [], rfl, rfl⟩
  | @normal d type =>
    refine ⟨rfl, ?_, d, [], rfl, rfl⟩
    simp only [normalArgument]
    split
    next => rfl
    next => split <;> rfl

end Library

/-- The arguments from position `start` on stand for the native ones up to `stop`, each for as many
as its kind says. -/
inductive Tiles (stop : Nat) : Nat → List WrapperArg → Prop where
  | nil : Tiles stop stop []
  | cons {arg args} : Tiles stop (arg.nativeIndex + arg.kind.width) args →
      Tiles stop arg.nativeIndex (arg :: args)

theorem ArgKind.width_pos (kind : ArgKind) : 0 < kind.width := by
  cases kind <;> decide

/-- Later arguments stand for later native ones. -/
theorem Tiles.increasing {stop start : Nat} {args : List WrapperArg}
    (tiles : Tiles stop start args) :
    (∀ arg ∈ args, start ≤ arg.nativeIndex) ∧
      args.Pairwise (·.nativeIndex < ·.nativeIndex) := by
  induction tiles with
  | nil => simp
  | @cons first args _ ih =>
    obtain ⟨after, increasing⟩ := ih
    have width := first.kind.width_pos
    refine ⟨List.forall_mem_cons.2 ⟨Nat.le_refl _, fun arg member => ?_⟩,
      List.pairwise_cons.2 ⟨fun arg member => ?_, increasing⟩⟩
    · have := after arg member
      omega
    · have := after arg member
      omega

namespace Library

variable {lib : Library} {index : Nat} {t t' : TypeTable} {ds : List ArgDecl}
  {args : List WrapperArg}

theorem Reads.tiles (reads : lib.Reads index t t' ds args) :
    Tiles (index + ds.length) index args := by
  induction reads with
  | nil => exact .nil
  | @cons index t between t' ds rest arg args takes _ ih =>
    obtain ⟨here, width, _⟩ := takes.place
    rw [List.length_append, ← Nat.add_assoc]
    subst here
    rw [width] at ih ⊢
    exact .cons ih

/-- Every argument has the name of the native one at its position. -/
theorem Reads.named (reads : lib.Reads index t t' ds args) {arg : WrapperArg}
    (member : arg ∈ args) : index ≤ arg.nativeIndex ∧
      ∃ d, ds[arg.nativeIndex - index]? = some d ∧ arg.name = Ident.escape d.name := by
  induction reads with
  | nil => cases member
  | @cons index t between t' ds rest arg' args takes _ ih =>
    obtain ⟨here, width, d, others, rfl, name⟩ := takes.place
    rcases List.mem_cons.1 member with rfl | later
    · subst here
      exact ⟨Nat.le_refl _, d, by simp, name⟩
    · obtain ⟨after, d', found, name⟩ := ih later
      refine ⟨by omega, d', ?_, name⟩
      rw [List.getElem?_append_right (by omega)]
      rwa [show arg.nativeIndex - index - (d :: others).length =
        arg.nativeIndex - (index + (d :: others).length) by omega]

end Library

def CallArg.source? : CallArg → Option String
  | .text name _ | .slice name _ | .blob name _ | .length name _ => some name
  | .pointer name .. | .direct name => some name
  | .error | .panic => none

def CallArg.isLength : CallArg → Bool
  | .length .. => true
  | _ => false

/-- An argument is passed by its own name, with something behind it, or by its record. -/
def WrapperArg.Builds (arg : WrapperArg) (e : CallArg) : Prop :=
  match arg.kind with
  | .errorOut => e.render = "&mut error"
  | .panicOut => e.render = "&mut panic"
  | _ => e.source? = some arg.name ∧ ∃ rest, e.render = arg.name ++ rest

theorem CallArg.pointerText_builds (name : String) (isConst isNullable : Bool)
    (member target : String) :
    ∃ rest, pointerText name isConst isNullable member target = name ++ rest := by
  unfold pointerText
  dsimp only
  split
  next => exact ⟨_, by simp only [String.append_assoc]; rfl⟩
  next =>
    split
    next => exact ⟨"", by simp⟩
    next => exact ⟨_, rfl⟩

namespace Analysis

variable {a : Analysis} {arg : WrapperArg}

/-- The parameters are the visible arguments, and some references have a lifetime. -/
theorem params_signature (a : Analysis) (w : Wrapper) (safe : Bool) : ∃ named : WrapperArg → Bool,
    (a.signature w safe).params = w.visibleArgs.map fun arg =>
      (arg.name, a.paramType arg safe (if named arg then "'a" else "")) :=
  ⟨_, rfl⟩

theorem length_callArgs (a : Analysis) (arg : WrapperArg) :
    (a.callArgs arg).length = arg.kind.width := by
  unfold callArgs
  split
  case h_4 kind => split <;> simp [ArgKind.width, kind]
  all_goals simp_all [ArgKind.width]

theorem lengthArg_builds (a : Analysis) (arg : WrapperArg) :
    ∃ rest, (a.lengthArg arg).render = arg.name ++ ".len()" ++ rest := by
  unfold lengthArg
  cases arg.lengthType.bind _ with
  | none => exact ⟨"", by simp [CallArg.render]⟩
  | some type =>
    have converted : ".len() as " = ".len()" ++ " as " := rfl
    exact ⟨" as " ++ type, by simp only [CallArg.render, converted, String.append_assoc]⟩

/-- Whatever is passed for an argument is built from it. -/
theorem callArgs_builds {e : CallArg} (member : e ∈ a.callArgs arg) : arg.Builds e := by
  have pair {pointer : CallArg} (source : pointer.source? = some arg.name)
      (builds : ∃ rest, pointer.render = arg.name ++ rest)
      (member : e ∈ [pointer, a.lengthArg arg]) :
      e.source? = some arg.name ∧ ∃ rest, e.render = arg.name ++ rest := by
    rcases List.mem_cons.1 member with rfl | isLength
    · exact ⟨source, builds⟩
    · rw [List.mem_singleton.1 isLength]
      obtain ⟨rest, text⟩ := a.lengthArg_builds arg
      exact ⟨rfl, ".len()" ++ rest, by rw [text, String.append_assoc]⟩
  unfold callArgs at member
  unfold WrapperArg.Builds
  cases kind : arg.kind <;> rw [kind] at member <;> dsimp only at member ⊢
  case string => exact pair rfl ⟨_, by simp only [CallArg.render, String.append_assoc]; rfl⟩ member
  case slice => exact pair rfl ⟨_, rfl⟩ member
  case blob => exact pair rfl ⟨_, rfl⟩ member
  case pointer =>
    split at member
    next =>
      rw [List.mem_singleton.1 member]
      exact ⟨rfl, "", by simp [CallArg.render]⟩
    next =>
      rw [List.mem_singleton.1 member]
      exact ⟨rfl, CallArg.pointerText_builds ..⟩
  case errorOut => rw [List.mem_singleton.1 member]; rfl
  case panicOut => rw [List.mem_singleton.1 member]; rfl
  all_goals
    rw [List.mem_singleton.1 member]
    exact ⟨rfl, "", by simp [CallArg.render]⟩

/-- Behind a pointer that comes with its length, that is passed. -/
theorem isLength_callArgs {k : Nat} {e : CallArg} (found : (a.callArgs arg)[k]? = some e) :
    (e.isLength ↔ k = 1) ∧ (k = 1 → ∃ rest, e.render = arg.name ++ ".len()" ++ rest) := by
  have pair {pointer : CallArg} (first : pointer.isLength = false)
      (found : [pointer, a.lengthArg arg][k]? = some e) :
      (e.isLength ↔ k = 1) ∧ (k = 1 → ∃ rest, e.render = arg.name ++ ".len()" ++ rest) := by
    match k, found with
    | 0, found =>
      cases found
      exact ⟨by simp [first], nofun⟩
    | 1, found =>
      cases found
      exact ⟨by simp [lengthArg, CallArg.isLength], fun _ => a.lengthArg_builds arg⟩
  have single {only : CallArg} (other : only.isLength = false)
      (found : [only][k]? = some e) :
      (e.isLength ↔ k = 1) ∧ (k = 1 → ∃ rest, e.render = arg.name ++ ".len()" ++ rest) := by
    match k, found with
    | 0, found =>
      cases found
      exact ⟨by simp [other], nofun⟩
  unfold callArgs at found
  cases kind : arg.kind <;> rw [kind] at found <;> dsimp only at found
  case string | slice | blob => exact pair rfl found
  case pointer => split at found <;> exact single rfl found
  all_goals exact single rfl found

end Analysis

/-- The expressions of an argument are passed at the positions that it stands for. -/
theorem Tiles.callArgs {stop start : Nat} {args : List WrapperArg} (tiles : Tiles stop start args)
    (a : Analysis) : start + (args.flatMap a.callArgs).length = stop ∧
      ∀ arg ∈ args, start ≤ arg.nativeIndex ∧ ∀ k < arg.kind.width,
        (args.flatMap a.callArgs)[arg.nativeIndex - start + k]? = (a.callArgs arg)[k]? := by
  induction tiles with
  | nil => simp
  | @cons first args _ ih =>
    obtain ⟨total, places⟩ := ih
    have width := a.length_callArgs first
    rw [List.flatMap_cons]
    refine ⟨by rw [List.length_append]; omega, fun arg member => ?_⟩
    rcases List.mem_cons.1 member with rfl | later
    · refine ⟨Nat.le_refl _, fun k inside => ?_⟩
      rw [Nat.sub_self, Nat.zero_add, List.getElem?_append_left (by omega)]
    · obtain ⟨after, place⟩ := places arg later
      refine ⟨by omega, fun k inside => ?_⟩
      rw [List.getElem?_append_right (by omega), ← place k inside]
      congr 1
      omega

/-- No argument of a function is lost, duplicated or moved on its way to the native call. -/
structure InPlace (a : Analysis) (records : Records) (f : FunctionDecl) (w : Wrapper) : Prop where
  /-- The arguments cover the native ones without gaps. -/
  tiles : Tiles f.args.length 0 w.args
  /-- Each has the name of the native one at its position. -/
  named : ∀ arg ∈ w.args, ∃ d, f.args[arg.nativeIndex]? = some d ∧ arg.name = Ident.escape d.name
  /-- Each native argument is given one expression. -/
  total : (a.nativeCall records w).args.length = f.args.length
  /-- It is built from the argument that stands there, -/
  placed : ∀ arg ∈ w.args, ∀ k < arg.kind.width, ∃ e,
    (a.nativeCall records w).args[arg.nativeIndex + k]? = some e ∧ arg.Builds e
  /-- and a length comes second. -/
  lengths : ∀ arg ∈ w.args, ∀ k < arg.kind.width, ∀ e,
    (a.nativeCall records w).args[arg.nativeIndex + k]? = some e →
      (e.isLength ↔ k = 1) ∧ (k = 1 → ∃ rest, e.render = arg.name ++ ".len()" ++ rest)

namespace Library

variable {lib : Library} {roots : List Root} {f : FunctionDecl} {t t' : TypeTable} {w : Wrapper}

def bareWrapper (lib : Library) (t : TypeTable) (f : FunctionDecl) (args : List WrapperArg)
    (result : TypeId) (returnShape : ReturnShape) : Wrapper where
  native := f.name
  name := Ident.escape f.shortName
  args
  result
  returnShape
  isRaw := (t.node (t.leaf result)).isRaw || args.any (·.isRaw) || lib.config.isRawOnly f.name
  rawOnly := lib.config.isRawOnly f.name
  exposed := f.kind = .normal && !f.isInline && !f.isFfi
  linked := !f.isInline
  fallible := args.any (·.kind = .errorOut)

/-- What a wrapper is made of; only those with an entry point are looked at for a method. -/
theorem wrapper_cases (run : on (lib.wrapper roots f) t = (.ok w, t')) :
    ∃ between args result shape method, lib.Reads 0 t between f.args args ∧
      on (lib.resolve f.returnType) between = (.ok result, t') ∧
      (if (lib.bareWrapper t' f args result shape).exposed then
        Library.method t' f (lib.bareWrapper t' f args result shape) = .ok method
      else method = none) ∧
      w = { lib.bareWrapper t' f args result shape with method } := by
  unfold wrapper at run
  obtain ⟨args, between, read, run⟩ := on_bind_eq_ok.1 run
  obtain ⟨result, after, resolved, run⟩ := on_bind_eq_ok.1 run
  have reads := reads_of_arguments read
  rw [on_get_bind] at run
  obtain ⟨shape, _, run⟩ := on_liftOutcome_bind_eq_ok.1 run
  dsimp only at run
  split at run
  next exposed =>
    obtain ⟨method, made, run⟩ := on_liftOutcome_bind_eq_ok.1 run
    cases run
    refine ⟨between, args, result, shape, method, reads, resolved, ?_, rfl⟩
    rw [bareWrapper, if_pos exposed]
    exact made
  next hidden =>
    cases run
    refine ⟨between, args, result, shape, none, reads, resolved, ?_, rfl⟩
    rw [bareWrapper, if_neg hidden]

/-- A wrapper has its arguments, its result and then whether it is split. -/
theorem parts_of_wrapper (run : on (lib.wrapper roots f) t = (.ok w, t')) :
    ∃ between, lib.Reads 0 t between f.args w.args ∧
      on (lib.resolve f.returnType) between = (.ok w.result, t') ∧
      w.isRaw = ((t'.node (t'.leaf w.result)).isRaw || w.args.any (·.isRaw) ||
        lib.config.isRawOnly f.name) := by
  obtain ⟨between, args, result, shape, method, reads, resolved, _, rfl⟩ := wrapper_cases run
  exact ⟨between, reads, resolved, rfl⟩

/-- A wrapper without a raw entry point takes no raw shapes. -/
theorem plain_of_wrapper (run : on (lib.wrapper roots f) t = (.ok w, t'))
    (split : w.isRaw = false) {arg : WrapperArg} (member : arg ∈ w.args) : arg.isRaw = false := by
  obtain ⟨_, _, _, made⟩ := parts_of_wrapper run
  rw [split, eq_comm, Bool.or_eq_false_iff, Bool.or_eq_false_iff] at made
  simpa using List.any_eq_false.1 made.1.2 arg member

theorem reads_of_wrapper (run : on (lib.wrapper roots f) t = (.ok w, t')) :
    ∃ between, lib.Reads 0 t between f.args w.args := by
  obtain ⟨between, reads, _⟩ := parts_of_wrapper run
  exact ⟨between, reads⟩

theorem Reads.inPlace (reads : lib.Reads 0 t t' f.args w.args) (a : Analysis)
    (records : Records) : InPlace a records f w := by
  have tiles : Tiles f.args.length 0 w.args := by simpa using reads.tiles
  obtain ⟨total, places⟩ := tiles.callArgs a
  have place {arg : WrapperArg} (member : arg ∈ w.args) {k : Nat} (inside : k < arg.kind.width) :
      (a.nativeCall records w).args[arg.nativeIndex + k]? = (a.callArgs arg)[k]? := by
    simpa [Analysis.nativeCall] using (places arg member).2 k inside
  constructor
  case tiles => exact tiles
  case named =>
    intro arg member
    obtain ⟨_, d, found, name⟩ := reads.named member
    exact ⟨d, by simpa using found, name⟩
  case total => simpa [Analysis.nativeCall] using total
  case placed =>
    intro arg member k inside
    have bound : k < (a.callArgs arg).length := by rwa [a.length_callArgs]
    rw [place member inside, List.getElem?_eq_getElem bound]
    exact ⟨_, rfl, Analysis.callArgs_builds (List.getElem_mem bound)⟩
  case lengths =>
    intro arg member k inside e found
    rw [place member inside] at found
    exact Analysis.isLength_callArgs found

def loading : Library where
  description := {
    types := ⟨[("bool", { kind := .primitive }),
      ("char", { kind := .primitive }),
      ("char*", { kind := .pointer, inner := some "char", isConst := true }),
      ("error", { kind := .struct }),
      ("error*", { kind := .pointer, inner := some "error" }),
      ("opts", { kind := .struct }),
      ("opts*", { kind := .pointer, inner := some "opts", isNullable := true }),
      ("size_t", { kind := .primitive }),
      ("void", { kind := .primitive })], by decide⟩
    structs := ⟨[
      ("error", {
        name := "error"
        shortName := "error"
        fields := [{ name := "failed", type := "bool" }]
        isPod := true }),
      ("opts", { name := "opts", shortName := "opts", isInput := true })], by decide⟩
    functions := ⟨[("load", {
      name := "load"
      shortName := "load"
      returnType := "void"
      args := [
        { name := "path", type := "char*", tag := .stringPointer },
        { name := "path_len", type := "size_t", tag := .stringLength },
        { name := "opts", type := "opts*" },
        { name := "error", type := "error*", tag := .error }] })], by decide⟩
    declarations := [⟨.struct, "error"⟩, ⟨.struct, "opts"⟩, ⟨.function, "load"⟩] }
  config := { link := "x", errors := some { record := "error", failure := "failed" } }

end Library

end Bindery
