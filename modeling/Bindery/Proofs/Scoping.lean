import Bindery.Proofs.Calling
import Mathlib.Logic.Function.Basic

/-!
# Scopes of bodies

A body binds names before its call: records, an arena, and the lowered forms of its arguments. A
name denotes what it was bound to last, so a parameter whose name a body binds cannot be passed on
from there.
-/
namespace Bindery

open Typing

inductive Denotation where
  /-- The argument of the caller that begins at a native index. -/
  | argument (index : Nat)
  /-- A record or an arena that the body makes under a name. -/
  | made (name : String)
  | lowered (value arena : Denotation)

abbrev Scope := String → Option Denotation

inductive Bound where
  | zeroed
  | arena
  | moved (name : String)
  | lowered (name : String)

structure Let where
  name : String
  isMut : Bool
  type : Option String
  value : Bound

def Bound.text : Bound → String
  | zeroed => Initializer.zeroed.text
  | arena => "Arena::new()"
  | moved name => name
  | lowered name => name ++ ".lower_mut(&mut arena)"

def Bound.isFresh : Bound → Bool
  | zeroed | arena => true
  | moved _ | lowered _ => false

namespace Let

def step (l : Let) : Step :=
  .line ((if l.isMut then "let mut " else "let ") ++ l.name ++
    (match l.type with
      | none => ""
      | some type => ": " ++ type) ++ " = " ++ l.value.text ++ ";")

def denotes (scope : Scope) (l : Let) : Option Denotation :=
  match l.value with
  | .zeroed | .arena => some (.made l.name)
  | .moved name => scope name
  | .lowered name => do return .lowered (← scope name) (← scope "arena")

/-- A let hides what its name has denoted before. -/
def bind (scope : Scope) (l : Let) : Scope := Function.update scope l.name (l.denotes scope)

def bindAll (scope : Scope) (lets : List Let) : Scope := lets.foldl bind scope

variable {scope : Scope} {lets : List Let} {name : String}

@[simp] theorem bindAll_nil (scope : Scope) : bindAll scope [] = scope := rfl

theorem bindAll_cons (scope : Scope) (l : Let) (lets : List Let) :
    bindAll scope (l :: lets) = bindAll (bind scope l) lets := rfl

theorem bindAll_append (scope : Scope) (first last : List Let) :
    bindAll scope (first ++ last) = bindAll (bindAll scope first) last := List.foldl_append

theorem bindAll_of_free (free : ∀ l ∈ lets, l.name ≠ name) :
    bindAll scope lets name = scope name := by
  induction lets generalizing scope with
  | nil => rfl
  | cons l lets ih =>
    obtain ⟨here, later⟩ := List.forall_mem_cons.1 free
    rw [bindAll_cons, ih later, bind, Function.update_of_ne here.symm]

/-- Behind new values, an argument is in scope where no let has taken its name. -/
theorem bindAll_fresh_iff {i : Nat} (fresh : ∀ l ∈ lets, l.value.isFresh) :
    bindAll scope lets name = some (.argument i) ↔
      (∀ l ∈ lets, l.name ≠ name) ∧ scope name = some (.argument i) := by
  induction lets generalizing scope with
  | nil => simp
  | cons l lets ih =>
    obtain ⟨here, later⟩ := List.forall_mem_cons.1 fresh
    have made : l.denotes scope = some (.made l.name) := by
      unfold denotes
      cases value : l.value <;> rw [value] at here <;> first | rfl | cases here
    rw [bindAll_cons, ih later, List.forall_mem_cons, bind, made]
    by_cases same : l.name = name
    · simp [same]
    · rw [Function.update_of_ne (Ne.symm same)]
      simp [same]

end Let

/-! ### Bodies -/

/-- The records of a body, which begin as zero bits. -/
def NativeCall.lets (c : NativeCall) : List Let :=
  (c.panic.toList.map fun p => ⟨"panic", true, some p.type, .zeroed⟩) ++
    c.error.toList.map fun e => ⟨"error", true, some e.type, .zeroed⟩

/-- A raw argument is moved and then lowered. -/
def ForwardArg.lets : ForwardArg → List Let
  | .same _ => []
  | .lowered name exclusive _ _ =>
    [⟨name ++ "_mut", true, none, .moved name⟩,
     ⟨name ++ "_raw", exclusive, none, .lowered (name ++ "_mut")⟩]

/-- An expression in the call of a native function is written behind the name that it reads. -/
def CallArg.Reads (e : CallArg) (name : String) : Prop :=
  e.source? = some name ∧ ∃ rest, e.render = name ++ rest

def LoweringCall.lets (c : LoweringCall) : List Let :=
  (if c.args.any (·.isLowered) then [⟨"arena", true, none, .arena⟩] else []) ++
    c.args.flatMap ForwardArg.lets

namespace FunctionItem

def lets : FunctionItem → List Let
  | .safe _ _ c | .raw _ _ c => c.lets
  | .lowering _ _ c => c.lets

def Opens (f : FunctionItem) : Prop :=
  ∃ doc header before after rest, f.steps =
    doc ++ [.braces header (f.lets.map Let.step ++ .line (before ++ f.call ++ after) :: rest)]

end FunctionItem

theorem NativeCall.zeroed_eq (name type : String) :
    zeroed name type = Let.step ⟨name, true, some type, .zeroed⟩ := by
  simp only [zeroed, Let.step, Bound.text, if_true, String.append_assoc]

theorem NativeCall.steps_lets (c : NativeCall) : ∃ before after rest,
    c.steps = c.lets.map Let.step ++ .line (before ++ c.call ++ after) :: rest := by
  obtain ⟨before, after, line⟩ := c.states_line.around
  obtain ⟨rest, steps⟩ := c.steps_line
  refine ⟨before, after, rest, ?_⟩
  rw [steps, line]
  simp [lets, zeroed_eq, Function.comp_def]

theorem ForwardArg.steps_lets (f : ForwardArg) : f.steps = f.lets.map Let.step := by
  cases f with
  | same => rfl
  | lowered name exclusive isPointer isNullable =>
    have moved : "_mut = " = "_mut" ++ " = " := rfl
    have lowered : "_raw = " = "_raw" ++ " = " := rfl
    have through : "_mut.lower_mut(&mut arena);" =
        "_mut" ++ (".lower_mut(&mut arena)" ++ ";") := rfl
    have binder : "let " ++ (if exclusive then "mut " else "") =
        if exclusive then "let mut " else "let " := by cases exclusive <;> rfl
    simp only [steps, lets, Let.step, Bound.text, List.map_cons, List.map_nil, if_true, moved,
      lowered, through, binder, String.append_assoc, String.empty_append]

theorem LoweringCall.steps_lets (c : LoweringCall) :
    c.steps (c.args.any (·.isLowered)) =
      c.lets.map Let.step ++ [.line ("unsafe \x7b " ++ c.call ++ " \x7d")] := by
  have opened : (if c.args.any (·.isLowered) then [Step.line "let mut arena = Arena::new();"]
      else []) = (if c.args.any (·.isLowered) then [⟨"arena", true, none, .arena⟩]
        else ([] : List Let)).map Let.step := by
    split <;> rfl
  have closed : ") \x7d" = ")" ++ " \x7d" := rfl
  have each : c.args.flatMap ForwardArg.steps = (c.args.flatMap ForwardArg.lets).map Let.step := by
    rw [List.map_flatMap, funext ForwardArg.steps_lets]
  simp only [steps, lets, call, List.map_append, opened, each, closed, String.append_assoc]

/-- Every function opens with its lets and then calls. -/
theorem FunctionItem.opens (f : FunctionItem) : f.Opens := by
  cases f with
  | safe name s c =>
    obtain ⟨before, after, rest, steps⟩ := c.steps_lets
    exact ⟨[], s.header "pub fn" name s.paramTexts, before, after, rest,
      by rw [FunctionItem.steps, steps]; rfl⟩
  | raw name s c =>
    obtain ⟨before, after, rest, steps⟩ := c.steps_lets
    exact ⟨[.line "/// # Safety", .line "///",
        .line "/// Raw arguments are handed to the native library unchecked."],
      s.header "pub unsafe fn" (name ++ "_raw") s.paramTexts, before, after, rest,
      by rw [FunctionItem.steps, steps]; rfl⟩
  | lowering name s c =>
    exact ⟨[], s.header "pub fn" name s.paramTexts, "unsafe \x7b ", " \x7d", [],
      by rw [FunctionItem.steps, c.steps_lets]; rfl⟩

/-! ### Arguments that are lowered in order -/

def WrapperArg.locals (arg : WrapperArg) : List String :=
  if arg.isRaw then [arg.name ++ "_mut", arg.name ++ "_raw"] else []

/-- An argument that stands before another one neither hides it nor is hidden by it: its locals are
bound when the other is passed on, and those of the other unless it has been lowered before. -/
def WrapperArg.Clear (first second : WrapperArg) : Prop :=
  second.name ∉ first.locals ∧ (first.isRaw = false → first.name ∉ second.locals)

def WrapperArg.own (arg : WrapperArg) : Denotation :=
  if arg.isRaw then .lowered (.argument arg.nativeIndex) (.made "arena")
  else .argument arg.nativeIndex

def WrapperArg.PassedIn (scope : Scope) (arg : WrapperArg) : Prop :=
  scope (Analysis.forwardArg arg).reads = some arg.own

def arenaOf (args : List WrapperArg) : List Let :=
  if args.any (·.isRaw) then [⟨"arena", true, none, .arena⟩] else []

def lowerings (args : List WrapperArg) : List Let :=
  args.flatMap fun arg => (Analysis.forwardArg arg).lets

section Lowerings

variable {scope : Scope} {args : List WrapperArg} {arg : WrapperArg} {name : String}

theorem append_mut_ne_append_raw (first second : String) : first ++ "_mut" ≠ second ++ "_raw" := by
  intro same
  have last := congrArg (fun text : String => text.toList.getLast?) same
  simp at last

theorem arena_not_mem_locals (arg : WrapperArg) : "arena" ∉ arg.locals := by
  unfold WrapperArg.locals
  split
  next =>
    simp only [List.mem_cons, List.not_mem_nil, or_false, not_or]
    constructor <;> intro same <;>
    · have last := congrArg (fun text : String => text.toList.getLast?) same
      simp at last
  next => exact List.not_mem_nil

theorem mem_locals_iff :
    name ∈ arg.locals ↔ arg.isRaw ∧ (name = arg.name ++ "_mut" ∨ name = arg.name ++ "_raw") := by
  unfold WrapperArg.locals
  cases arg.isRaw <;> simp

/-- Where nothing is lowered, nothing is hidden. -/
theorem clear_of_plain (plain : ∀ arg ∈ args, arg.isRaw = false) :
    (args.any (·.isRaw) → ∀ arg ∈ args, arg.name ≠ "arena") ∧
      args.Pairwise WrapperArg.Clear := by
  constructor
  · intro lowered
    obtain ⟨arg, member, raw⟩ := List.any_eq_true.1 lowered
    cases (plain arg member).symm.trans raw
  · have bare (arg : WrapperArg) (member : arg ∈ args) (name : String) : name ∉ arg.locals := by
      intro inside
      cases (plain arg member).symm.trans (mem_locals_iff.1 inside).1
    exact List.pairwise_of_forall_mem_list fun first member second later =>
      ⟨bare first member _, fun _ => bare second later _⟩

theorem name_eq_of_mem_locals {first second : WrapperArg}
    (member : second.name ++ "_raw" ∈ first.locals ∨ second.name ++ "_mut" ∈ first.locals) :
    first.isRaw ∧ second.name = first.name := by
  unfold WrapperArg.locals at member
  split at member
  next raw =>
    simp only [List.mem_cons, List.not_mem_nil, or_false, String.append_left_inj] at member
    refine ⟨raw, ?_⟩
    rcases member with (same | same) | same | same
    · exact absurd same.symm (append_mut_ne_append_raw _ _)
    · exact same
    · exact same
    · exact absurd same (append_mut_ne_append_raw _ _)
  next => simp at member

theorem lets_of_raw (raw : arg.isRaw) : ∃ exclusive, (Analysis.forwardArg arg).lets =
    [⟨arg.name ++ "_mut", true, none, .moved arg.name⟩,
     ⟨arg.name ++ "_raw", exclusive, none, .lowered (arg.name ++ "_mut")⟩] := by
  unfold Analysis.forwardArg
  rw [if_pos raw]
  exact ⟨_, rfl⟩

theorem lets_of_not_raw (raw : arg.isRaw = false) : (Analysis.forwardArg arg).lets = [] := by
  simp [Analysis.forwardArg, raw, ForwardArg.lets]

/-- Names that are no locals of the arguments keep what they denote. -/
theorem bindAll_of_not_local (free : ∀ arg ∈ args, name ∉ arg.locals) :
    Let.bindAll scope (lowerings args) name = scope name := by
  refine Let.bindAll_of_free fun l member same => ?_
  obtain ⟨arg, inside, member⟩ := List.mem_flatMap.1 member
  refine free arg inside ?_
  subst same
  cases raw : arg.isRaw with
  | true =>
    obtain ⟨exclusive, lets⟩ := lets_of_raw raw
    rw [lets] at member
    simp only [List.mem_cons, List.not_mem_nil, or_false] at member
    rcases member with rfl | rfl <;> simp [WrapperArg.locals, raw]
  | false =>
    rw [lets_of_not_raw raw] at member
    cases member

/-- One argument is lowered: its locals denote it, and nothing else changes. -/
theorem bindAll_lowering (raw : arg.isRaw) (arena : scope "arena" = some (.made "arena")) :
    ∃ after, Let.bindAll scope (Analysis.forwardArg arg).lets = after ∧
      after (arg.name ++ "_mut") = scope arg.name ∧
      after (arg.name ++ "_raw") = (scope arg.name).map (.lowered · (.made "arena")) ∧
      ∀ name ∉ arg.locals, after name = scope name := by
  obtain ⟨exclusive, lets⟩ := lets_of_raw raw
  have apart := append_mut_ne_append_raw arg.name arg.name
  have local_mut : "arena" ≠ arg.name ++ "_mut" := fun same =>
    arena_not_mem_locals arg (by simp [WrapperArg.locals, raw, ← same])
  have moved : Let.bind scope ⟨arg.name ++ "_mut", true, none, .moved arg.name⟩ =
      Function.update scope (arg.name ++ "_mut") (scope arg.name) := rfl
  rw [lets]
  refine ⟨_, rfl, ?_, ?_, fun name free => ?_⟩
  · rw [Let.bindAll_cons, moved, Let.bindAll_cons, Let.bindAll_nil, Let.bind,
      Function.update_of_ne apart, Function.update_self]
  · rw [Let.bindAll_cons, moved, Let.bindAll_cons, Let.bindAll_nil, Let.bind,
      Function.update_self, Let.denotes]
    simp only [Function.update_self, Function.update_of_ne local_mut, arena]
    cases scope arg.name <;> rfl
  · simp only [WrapperArg.locals, raw, if_true, List.mem_cons, List.not_mem_nil, or_false,
      not_or] at free
    rw [Let.bindAll_cons, moved, Let.bindAll_cons, Let.bindAll_nil, Let.bind,
      Function.update_of_ne free.2, Function.update_of_ne free.1]

theorem passedIn_of_not_raw (raw : arg.isRaw = false) :
    arg.PassedIn scope ↔ scope arg.name = some (.argument arg.nativeIndex) := by
  simp [WrapperArg.PassedIn, WrapperArg.own, ForwardArg.reads_forwardArg, raw]

theorem passedIn_of_raw (raw : arg.isRaw) : arg.PassedIn scope ↔
    scope (arg.name ++ "_raw") = some (.lowered (.argument arg.nativeIndex) (.made "arena")) := by
  simp [WrapperArg.PassedIn, WrapperArg.own, ForwardArg.reads_forwardArg, raw]

/-- The locals of an argument denote it, so what denotes another one is none of them. -/
theorem not_mem_locals_of_argument {i : Nat} (value : scope name = some (.argument i))
    (passed : arg.PassedIn scope)
    (moved : arg.isRaw → scope (arg.name ++ "_mut") = some (.argument arg.nativeIndex))
    (apart : i ≠ arg.nativeIndex) : name ∉ arg.locals := by
  intro inside
  obtain ⟨raw, same | same⟩ := mem_locals_iff.1 inside
  · rw [same, moved raw, Option.some.injEq, Denotation.argument.injEq] at value
    exact apart value.symm
  · rw [passedIn_of_raw raw, ← same, value] at passed
    cases passed

/-- Two lowered arguments have different locals where both are passed on. -/
theorem raw_not_mem_locals {first : WrapperArg} (raw : first.isRaw) (here : first.PassedIn scope)
    (passed : arg.PassedIn scope) (apart : first.nativeIndex ≠ arg.nativeIndex) :
    first.name ++ "_raw" ∉ arg.locals := by
  intro inside
  obtain ⟨isRaw, same⟩ := name_eq_of_mem_locals (.inl inside)
  rw [passedIn_of_raw raw] at here
  rw [passedIn_of_raw isRaw, ← same, here] at passed
  simp only [Option.some.injEq, Denotation.lowered.injEq, Denotation.argument.injEq] at passed
  exact apart passed.1

theorem lowerings_cons (first : WrapperArg) (args : List WrapperArg) :
    lowerings (first :: args) = (Analysis.forwardArg first).lets ++ lowerings args := rfl

theorem fresh_arenaOf (args : List WrapperArg) : ∀ l ∈ arenaOf args, l.value.isFresh := by
  unfold arenaOf
  split <;> simp [Bound.isFresh]

theorem free_of_arenaOf_iff :
    (∀ l ∈ arenaOf args, l.name ≠ name) ↔ (args.any (·.isRaw) → name ≠ "arena") := by
  unfold arenaOf
  split
  next raw => simp [raw, eq_comm]
  next raw => simp [raw]

/-- There is an arena to lower an argument through. -/
theorem bindAll_arenaOf (member : arg ∈ args) (raw : arg.isRaw) :
    Let.bindAll scope (arenaOf args) "arena" = some (.made "arena") := by
  rw [arenaOf, if_pos (List.any_eq_true.2 ⟨arg, member, raw⟩), Let.bindAll_cons, Let.bindAll_nil,
    Let.bind, Function.update_self]
  rfl

variable (distinct : args.Pairwise (·.nativeIndex ≠ ·.nativeIndex))
  (arena : ∀ arg ∈ args, arg.isRaw → scope "arena" = some (.made "arena"))

include distinct arena

/-- Where no argument hides another one, each is passed on as it is or lowered. -/
theorem passedIn_of_clear (clear : args.Pairwise WrapperArg.Clear)
    (each : ∀ arg ∈ args, scope arg.name = some (.argument arg.nativeIndex)) :
    ∀ arg ∈ args, arg.PassedIn (Let.bindAll scope (lowerings args)) ∧
      (arg.isRaw → Let.bindAll scope (lowerings args) (arg.name ++ "_mut") =
        some (.argument arg.nativeIndex)) := by
  induction args generalizing scope with
  | nil => simp
  | cons first args ih =>
    obtain ⟨others, distinct⟩ := List.pairwise_cons.1 distinct
    obtain ⟨hides, clear⟩ := List.pairwise_cons.1 clear
    obtain ⟨here, later⟩ := List.forall_mem_cons.1 each
    obtain ⟨arena, arenas⟩ := List.forall_mem_cons.1 arena
    rw [lowerings_cons, Let.bindAll_append]
    cases raw : first.isRaw with
    | false =>
      rw [lets_of_not_raw raw]
      refine List.forall_mem_cons.2 ⟨⟨?_, fun isRaw => ?_⟩, ih distinct arenas clear later⟩
      · have free : ∀ arg ∈ args, first.name ∉ arg.locals := fun arg member =>
          (hides arg member).2 raw
        rw [passedIn_of_not_raw raw, bindAll_of_not_local free]
        exact here
      · cases raw.symm.trans isRaw
    | true =>
      obtain ⟨after, bound, moved, lowered, kept⟩ := bindAll_lowering raw (arena raw)
      rw [bound]
      have other : ∀ arg ∈ args, first.name ≠ arg.name := by
        intro arg member same
        have value := here.symm.trans (same ▸ later arg member)
        rw [Option.some.injEq, Denotation.argument.injEq] at value
        exact others arg member value
      refine List.forall_mem_cons.2 ⟨⟨?_, fun _ => ?_⟩, ?_⟩
      · have free : ∀ arg ∈ args, first.name ++ "_raw" ∉ arg.locals := fun arg inside member =>
          other arg inside (name_eq_of_mem_locals (.inl member)).2
        rw [passedIn_of_raw raw, bindAll_of_not_local free, lowered, here]
        rfl
      · have free : ∀ arg ∈ args, first.name ++ "_mut" ∉ arg.locals := fun arg inside member =>
          other arg inside (name_eq_of_mem_locals (.inr member)).2
        rw [bindAll_of_not_local free, moved, here]
      · refine ih distinct (fun arg member isRaw => ?_) clear fun arg member => ?_
        · rw [kept "arena" (arena_not_mem_locals first)]
          exact arena raw
        · rw [kept arg.name (hides arg member).1]
          exact later arg member

/-- Where each argument is passed on as it is or lowered, it is in scope and no other hides it. -/
theorem clear_of_passedIn (passed : ∀ arg ∈ args,
      arg.PassedIn (Let.bindAll scope (lowerings args))) :
    args.Pairwise WrapperArg.Clear ∧
      ∀ arg ∈ args, scope arg.name = some (.argument arg.nativeIndex) := by
  induction args generalizing scope with
  | nil => simp
  | cons first args ih =>
    obtain ⟨others, distinct⟩ := List.pairwise_cons.1 distinct
    obtain ⟨arena, arenas⟩ := List.forall_mem_cons.1 arena
    rw [lowerings_cons, Let.bindAll_append] at passed
    obtain ⟨here, later⟩ := List.forall_mem_cons.1 passed
    cases raw : first.isRaw with
    | false =>
      rw [lets_of_not_raw raw, Let.bindAll_nil] at here later
      rw [passedIn_of_not_raw raw] at here
      obtain ⟨clear, each⟩ := ih distinct arenas later
      have hides : ∀ arg ∈ args, first.name ∉ arg.locals := by
        intro arg member
        obtain ⟨own, moved⟩ := passedIn_of_clear distinct arenas clear each arg member
        exact not_mem_locals_of_argument here own moved (others arg member)
      rw [bindAll_of_not_local hides] at here
      refine ⟨List.pairwise_cons.2 ⟨fun arg member => ⟨?_, fun _ => hides arg member⟩, clear⟩,
        List.forall_mem_cons.2 ⟨here, each⟩⟩
      intro inside
      cases raw.symm.trans (mem_locals_iff.1 inside).1
    | true =>
      obtain ⟨after, bound, moved, lowered, kept⟩ := bindAll_lowering raw (arena raw)
      rw [bound] at here later
      have arenas : ∀ arg ∈ args, arg.isRaw → after "arena" = some (.made "arena") := by
        intro _ _ _
        rw [kept "arena" (arena_not_mem_locals first)]
        exact arena raw
      obtain ⟨clear, each⟩ := ih distinct arenas later
      have free : ∀ arg ∈ args, first.name ++ "_raw" ∉ arg.locals := fun arg member =>
        raw_not_mem_locals raw here (later arg member) (others arg member)
      rw [passedIn_of_raw raw, bindAll_of_not_local free] at here
      obtain ⟨value, found, same⟩ := Option.map_eq_some_iff.1 (lowered.symm.trans here)
      cases same
      have hidden : ∀ arg ∈ args, arg.name ∉ first.locals := fun arg member =>
        not_mem_locals_of_argument (each arg member) ((passedIn_of_raw raw).2 here)
          (fun _ => moved.trans found) (others arg member).symm
      refine ⟨List.pairwise_cons.2 ⟨fun arg member => ⟨hidden arg member, fun notRaw => ?_⟩, clear⟩,
        List.forall_mem_cons.2 ⟨found, fun arg member => ?_⟩⟩
      · cases raw.symm.trans notRaw
      · rw [← kept arg.name (hidden arg member)]
        exact each arg member

end Lowerings

/-! ### Wrappers -/

theorem forall_mem_imp_comm {α : Type} {p : Prop} {q : α → Prop} {as : List α} :
    (∀ a ∈ as, p → q a) ↔ (p → ∀ a ∈ as, q a) :=
  ⟨fun each given a member => each a member given, fun each a member given => each given a member⟩

def scopeOf (args : List WrapperArg) : Scope := fun name =>
  (args.find? (·.name = name)).map fun arg => .argument arg.nativeIndex

/-- Parameters denote their own arguments if their names differ. -/
theorem scopeOf_iff {args : List WrapperArg}
    (distinct : args.Pairwise (·.nativeIndex ≠ ·.nativeIndex)) :
    (∀ arg ∈ args, scopeOf args arg.name = some (.argument arg.nativeIndex)) ↔
      (args.map (·.name)).Nodup := by
  induction args with
  | nil => simp
  | cons first args ih =>
    obtain ⟨others, distinct⟩ := List.pairwise_cons.1 distinct
    have later (arg : WrapperArg) (member : arg ∈ args) :
        scopeOf (first :: args) arg.name = some (.argument arg.nativeIndex) ↔
          first.name ≠ arg.name ∧ scopeOf args arg.name = some (.argument arg.nativeIndex) := by
      unfold scopeOf
      by_cases same : first.name = arg.name
      · simp [same, others arg member]
      · simp [same]
    rw [List.forall_mem_cons, List.map_cons, List.nodup_cons, ← ih distinct]
    simp only [List.mem_map, not_exists, not_and]
    constructor
    · rintro ⟨_, passed⟩
      refine ⟨fun arg member same => ?_, fun arg member => ?_⟩
      · exact ((later arg member).1 (passed arg member)).1 same.symm
      · exact ((later arg member).1 (passed arg member)).2
    · rintro ⟨other, passed⟩
      refine ⟨by simp [scopeOf], fun arg member => (later arg member).2 ⟨?_, passed arg member⟩⟩
      exact fun same => other arg member same.symm

/-- Every expression in the call of a body denotes the argument of the caller that it is passed for,
or its lowered form. -/
def FunctionItem.Denotes (w : Wrapper) : FunctionItem → Prop
  | .safe _ _ c | .raw _ _ c => ∀ arg ∈ w.visibleArgs, ∀ k < arg.kind.width, ∃ e name,
    c.args[arg.nativeIndex + k]? = some e ∧ e.Reads name ∧
      Let.bindAll (scopeOf w.visibleArgs) c.lets name = some (.argument arg.nativeIndex)
  | .lowering _ _ c => List.Forall₂ (fun arg passed =>
      (∃ before after, passed.text = before ++ passed.reads ++ after) ∧
        Let.bindAll (scopeOf w.visibleArgs) c.lets passed.reads = some arg.own) w.visibleArgs c.args

/-- No body hides a parameter that it still refers to. -/
structure Wrapper.Hygienic (w : Wrapper) : Prop where
  names : (w.visibleArgs.map (·.name)).Nodup
  panic : w.hasPanic → ∀ arg ∈ w.visibleArgs, arg.name ≠ "panic"
  error : w.fallible → ∀ arg ∈ w.visibleArgs, arg.name ≠ "error"
  arena : w.rawOnly = false → w.visibleArgs.any (·.isRaw) → ∀ arg ∈ w.visibleArgs,
    arg.name ≠ "arena"
  clear : w.rawOnly = false → w.visibleArgs.Pairwise WrapperArg.Clear

/-- The names of records matter to every body, and the others only where arguments are lowered. -/
theorem Wrapper.hygienic_iff {w : Wrapper} : w.Hygienic ↔
    (((w.hasPanic → ∀ arg ∈ w.visibleArgs, arg.name ≠ "panic") ∧
      (w.fallible → ∀ arg ∈ w.visibleArgs, arg.name ≠ "error")) ∧
      (w.visibleArgs.map (·.name)).Nodup) ∧
    (w.rawOnly = false →
      (w.visibleArgs.any (·.isRaw) → ∀ arg ∈ w.visibleArgs, arg.name ≠ "arena") ∧
        w.visibleArgs.Pairwise WrapperArg.Clear) := by
  constructor
  · intro hygienic
    exact ⟨⟨⟨hygienic.panic, hygienic.error⟩, hygienic.names⟩,
      fun safe => ⟨hygienic.arena safe, hygienic.clear safe⟩⟩
  · rintro ⟨⟨⟨panic, error⟩, names⟩, lowered⟩
    exact ⟨names, panic, error, fun safe => (lowered safe).1, fun safe => (lowered safe).2⟩

namespace Analysis

variable {a : Analysis} {records : Records} {w : Wrapper} {f : FunctionDecl}

theorem reads_of_builds {arg : WrapperArg} {e : CallArg} (builds : arg.Builds e)
    (shown : arg.kind.isVisible) : e.Reads arg.name := by
  unfold WrapperArg.Builds at builds
  cases kind : arg.kind <;> rw [kind] at builds shown <;>
    first | exact builds | cases shown

theorem denotes_native_iff (inPlace : InPlace a records f w) :
    (∀ arg ∈ w.visibleArgs, ∀ k < arg.kind.width, ∃ e name,
      (a.nativeCall records w).args[arg.nativeIndex + k]? = some e ∧ e.Reads name ∧
        Let.bindAll (scopeOf w.visibleArgs) (a.nativeCall records w).lets name =
          some (.argument arg.nativeIndex)) ↔
      ∀ arg ∈ w.visibleArgs, (∀ l ∈ (a.nativeCall records w).lets, l.name ≠ arg.name) ∧
        scopeOf w.visibleArgs arg.name = some (.argument arg.nativeIndex) := by
  have fresh : ∀ l ∈ (a.nativeCall records w).lets, l.value.isFresh := by
    simp [NativeCall.lets, or_imp, forall_and, Bound.isFresh]
  refine forall₂_congr fun arg visible => ?_
  obtain ⟨member, shown⟩ := List.mem_filter.1 visible
  rw [← Let.bindAll_fresh_iff fresh]
  constructor
  · intro passed
    obtain ⟨e, name, place, reads, value⟩ := passed 0 arg.kind.width_pos
    obtain ⟨e', place', builds⟩ := inPlace.placed arg member 0 arg.kind.width_pos
    cases place.symm.trans place'
    cases reads.1.symm.trans (reads_of_builds builds shown).1
    exact value
  · intro value k inside
    obtain ⟨e, place, builds⟩ := inPlace.placed arg member k inside
    exact ⟨e, arg.name, place, reads_of_builds builds shown, value⟩

theorem isLowered_forwardArg (arg : WrapperArg) : (forwardArg arg).isLowered = arg.isRaw := by
  unfold forwardArg
  cases arg.isRaw <;> rfl

theorem denotes_lowering_iff (distinct : w.visibleArgs.Pairwise (·.nativeIndex ≠ ·.nativeIndex)) :
    List.Forall₂ (fun arg (passed : ForwardArg) =>
        (∃ before after, passed.text = before ++ passed.reads ++ after) ∧
          Let.bindAll (scopeOf w.visibleArgs)
            (LoweringCall.lets ⟨w.name, w.visibleArgs.map forwardArg⟩) passed.reads = some arg.own)
      w.visibleArgs (w.visibleArgs.map forwardArg) ↔
      (w.visibleArgs.any (·.isRaw) → ∀ arg ∈ w.visibleArgs, arg.name ≠ "arena") ∧
        (w.visibleArgs.map (·.name)).Nodup ∧ w.visibleArgs.Pairwise WrapperArg.Clear := by
  have lets : LoweringCall.lets ⟨w.name, w.visibleArgs.map forwardArg⟩ =
      arenaOf w.visibleArgs ++ lowerings w.visibleArgs := by
    simp only [LoweringCall.lets, List.any_map, Function.comp_def, isLowered_forwardArg,
      List.flatMap_map]
    rfl
  have arena : ∀ arg ∈ w.visibleArgs, arg.isRaw →
      Let.bindAll (scopeOf w.visibleArgs) (arenaOf w.visibleArgs) "arena" =
        some (.made "arena") := fun _ member raw => bindAll_arenaOf member raw
  simp only [ForwardArg.text_reads, true_and]
  rw [List.forall₂_map_right_iff, List.forall₂_same, lets, Let.bindAll_append]
  have each : (∀ arg ∈ w.visibleArgs, Let.bindAll (scopeOf w.visibleArgs)
        (arenaOf w.visibleArgs) arg.name = some (.argument arg.nativeIndex)) ↔
      (w.visibleArgs.any (·.isRaw) → ∀ arg ∈ w.visibleArgs, arg.name ≠ "arena") ∧
        (w.visibleArgs.map (·.name)).Nodup := by
    simp only [Let.bindAll_fresh_iff (fresh_arenaOf _), free_of_arenaOf_iff]
    rw [forall₂_and, scopeOf_iff distinct, forall_mem_imp_comm]
  rw [← and_assoc, ← each]
  constructor
  · intro passed
    obtain ⟨clear, inScope⟩ := clear_of_passedIn distinct arena passed
    exact ⟨inScope, clear⟩
  · rintro ⟨inScope, clear⟩ arg member
    exact (passedIn_of_clear distinct arena clear inScope arg member).1

end Analysis

namespace Library

variable {lib : Library} {index : Nat} {t t' : TypeTable} {ds : List ArgDecl} {f : FunctionDecl}
  {args : List WrapperArg} {a : Analysis} {w : Wrapper} {records : Records}

/-- Arguments for records are read only where the configuration names these. -/
theorem Reads.configured (reads : lib.Reads index t t' ds args) :
    (args.any (·.kind = .panicOut) → lib.config.panics.isSome) ∧
      (args.any (·.kind = .errorOut) → lib.config.errors.isSome) := by
  induction reads with
  | nil => simp
  | @cons index t between t' ds rest arg args takes _ ih =>
    have here : (arg.kind = .panicOut → lib.config.panics.isSome) ∧
        (arg.kind = .errorOut → lib.config.errors.isSome) := by
      cases takes with
      | paired pairs _ _ _ made =>
        rw [pairedArgument_kind made]
        have paired := ArgTag.mem_of_paired? pairs
        constructor <;> rintro rfl <;> simp at paired
      | error _ given => exact ⟨nofun, fun _ => given⟩
      | panic _ given => exact ⟨fun _ => given, nofun⟩
      | @normal d type =>
        rcases normalArgument_cases between (argument between index d type) with ⟨kind, _⟩ | kind
        · rw [kind]
          exact ⟨nofun, nofun⟩
        · constructor <;> intro record <;> simp [record] at kind
    simp only [List.any_cons, Bool.or_eq_true, decide_eq_true_eq]
    exact ⟨fun some => some.elim here.1 ih.1, fun some => some.elim here.2 ih.2⟩

/-- Where an option is mapped, there is a result exactly if there was something to map. -/
theorem isSome_of_mapM {α β : Type} {f : α → Outcome β} {x : Option α} {y : Option β}
    (run : x.mapM f = .ok y) : y.isSome = x.isSome := by
  cases x with
  | none =>
    cases run
    rfl
  | some x =>
    obtain ⟨value, _, same⟩ := bind_eq_ok_iff.1 run
    cases same
    rfl

theorem isSome_of_records (recorded : a.records = .ok records) :
    records.panic.isSome = a.library.config.panics.isSome ∧
      records.error.isSome = a.library.config.errors.isSome := by
  obtain ⟨error, errors, rest⟩ := bind_eq_ok_iff.1 recorded
  obtain ⟨panic, panics, same⟩ := bind_eq_ok_iff.1 rest
  cases same
  exact ⟨isSome_of_mapM panics, isSome_of_mapM errors⟩

/-- The records of a call are those that its wrapper has arguments for. -/
theorem free_of_records_iff (panics : w.hasPanic → records.panic.isSome)
    (errors : w.fallible → records.error.isSome) (name : String) :
    (∀ l ∈ (a.nativeCall records w).lets, l.name ≠ name) ↔
      (w.hasPanic → name ≠ "panic") ∧ (w.fallible → name ≠ "error") := by
  have named (p : Option PanicCheck) (e : Option ErrorCheck) :
      (∀ l ∈ (p.toList.map fun p => (⟨"panic", true, some p.type, .zeroed⟩ : Let)) ++
          e.toList.map fun e => (⟨"error", true, some e.type, .zeroed⟩ : Let), l.name ≠ name) ↔
        (p.isSome → name ≠ "panic") ∧ (e.isSome → name ≠ "error") := by
    cases p <;> cases e <;> simp [eq_comm]
  have panic : (if w.hasPanic then records.panic else none).isSome ↔ w.hasPanic := by
    split
    next some => exact iff_of_true (panics some) some
    next none => simp [none]
  have error : (if w.fallible then records.error else none).isSome ↔ w.fallible := by
    split
    next some => exact iff_of_true (errors some) some
    next none => simp [none]
  rw [NativeCall.lets, named, Analysis.nativeCall, panic, error]

/-- The bodies of a wrapper begin with lets and a call, and no expression in a call is captured
exactly if no let and no other parameter hides a parameter that is still passed on. -/
theorem bodies_hygienic_iff (success : lib.analyze = .ok a) (recorded : a.records = .ok records)
    (wrapped : w ∈ a.wrappers) (exposed : w.exposed) :
    (∀ item ∈ a.functionItems records w, item.Opens) ∧
      ((∀ item ∈ a.functionItems records w, item.Denotes w) ↔ w.Hygienic) := by
  refine ⟨fun item _ => item.opens, ?_⟩
  obtain ⟨t, analyzed⟩ := lib.analyzed success
  obtain ⟨f, declared, run⟩ := exists_left_of_forall₂ analyzed.wrappers wrapped
  obtain ⟨between, reads⟩ := reads_of_wrapper run
  have fallible : w.fallible = w.args.any (·.kind = .errorOut) := by
    obtain ⟨_, _, _, _, _, _, _, _, rfl⟩ := wrapper_cases run
    rfl
  have inPlace := reads.inPlace a records
  have distinct : w.visibleArgs.Pairwise (·.nativeIndex ≠ ·.nativeIndex) :=
    (inPlace.tiles.increasing.2.imp Nat.ne_of_lt).filter _
  obtain ⟨panics, errors⟩ := reads.configured
  obtain ⟨panic, error⟩ := isSome_of_records recorded
  rw [← fallible] at errors
  rw [← analyzed.library, ← panic] at panics
  rw [← analyzed.library, ← error] at errors
  have native : (∀ arg ∈ w.visibleArgs, (∀ l ∈ (a.nativeCall records w).lets, l.name ≠ arg.name) ∧
        scopeOf w.visibleArgs arg.name = some (.argument arg.nativeIndex)) ↔
      ((w.hasPanic → ∀ arg ∈ w.visibleArgs, arg.name ≠ "panic") ∧
        (w.fallible → ∀ arg ∈ w.visibleArgs, arg.name ≠ "error")) ∧
        (w.visibleArgs.map (·.name)).Nodup := by
    simp only [free_of_records_iff panics errors]
    rw [forall₂_and, scopeOf_iff distinct, forall₂_and, forall_mem_imp_comm, forall_mem_imp_comm]
  have call := (Analysis.denotes_native_iff inPlace).trans native
  unfold Analysis.functionItems
  rw [exposed, Bool.not_true, if_neg Bool.false_ne_true, Wrapper.hygienic_iff]
  cases raw : w.isRaw with
  | false =>
    have plain : ∀ arg ∈ w.visibleArgs, arg.isRaw = false := fun arg visible =>
      plain_of_wrapper run raw (List.mem_filter.1 visible).1
    rw [if_neg Bool.false_ne_true, List.forall_mem_singleton]
    exact call.trans (and_iff_left fun _ => clear_of_plain plain).symm
  | true =>
    rw [if_pos rfl, List.forall_mem_cons]
    cases rawOnly : w.rawOnly with
    | true =>
      simp only [if_true, List.not_mem_nil, false_imp_iff, implies_true, and_true]
      exact call.trans (and_iff_left nofun).symm
    | false =>
      rw [if_neg Bool.false_ne_true, List.forall_mem_singleton]
      refine (and_congr call (Analysis.denotes_lowering_iff distinct)).trans ?_
      refine and_congr_right fun ⟨_, names⟩ => ?_
      rw [forall_prop_of_true rfl, and_iff_right names]

def errorLog : Library where
  description := {
    types := ⟨[("bool", { kind := .primitive }),
      ("error", { kind := .struct }),
      ("error*", { kind := .pointer, inner := some "error" }),
      ("void", { kind := .primitive })], by decide⟩
    structs := ⟨[("error", {
      name := "error"
      shortName := "error"
      fields := [{ name := "failed", type := "bool" }]
      isPod := true })], by decide⟩
    functions := ⟨[("log_report", {
      name := "log_report"
      shortName := "report"
      returnType := "void"
      args := [{ name := "error", type := "error" },
        { name := "status", type := "error*", tag := .error }] })], by decide⟩
    declarations := [⟨.struct, "error"⟩, ⟨.function, "log_report"⟩] }
  config := { link := "log", errors := some { record := "error", failure := "failed" } }

/-- The record for the error of the function hides the error that it is given. -/
theorem report_captured : ∃ a records w, errorLog.analyze = .ok a ∧ a.records = .ok records ∧
    w ∈ a.wrappers ∧ w.exposed ∧ (a.nativeCall records w).args.map CallArg.render =
      ["error", "&mut error"] ∧
    ((∀ item ∈ a.functionItems records w, item.Opens) ∧
      ¬∀ item ∈ a.functionItems records w, item.Denotes w) := by
  have checked : errorLog.analyze.toOption.any (fun a => a.records.toOption.any fun records =>
      a.wrappers.any fun w => w.exposed ∧ w.fallible ∧
        (a.nativeCall records w).args.map CallArg.render = ["error", "&mut error"] ∧
        w.visibleArgs.map (·.name) = ["error"]) := by decide +kernel
  obtain ⟨a, success, checked⟩ := ok_of_any checked
  obtain ⟨records, recorded, checked⟩ := ok_of_any checked
  obtain ⟨w, wrapped, checked⟩ := List.any_eq_true.1 checked
  obtain ⟨exposed, fallible, args, names⟩ := of_decide_eq_true checked
  obtain ⟨opens, hygienic⟩ := bodies_hygienic_iff success recorded wrapped exposed
  refine ⟨a, records, w, success, recorded, wrapped, exposed, args, opens, fun denotes => ?_⟩
  have named : "error" ∈ w.visibleArgs.map (·.name) := by simp [names]
  obtain ⟨arg, visible, same⟩ := List.mem_map.1 named
  exact (hygienic.1 denotes).error fallible arg visible same

end Library

end Bindery
