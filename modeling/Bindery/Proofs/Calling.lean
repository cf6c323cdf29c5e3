import Bindery.Proofs.Items

/-!
# Entry points and what they call

A function is called through one entry point, or through one over raw shapes and another one that
lowers shapes and calls the first. Each is written as a block, with its parameters in the header and
its call in a line of the body. No argument is lost, duplicated or moved on the way.
-/
namespace Bindery

open Typing

/-! ### Texts -/

/-- A header declares a function with these parameters, under the result of its signature. -/
def Signature.Heads (s : Signature) (start name : String) (params : List String)
    (header : String) : Prop :=
  ∃ generics ∈ ["", "<'a>"], header = start ++ " " ++ name ++ generics ++ "(" ++
    ", ".intercalate params ++ ")" ++ s.result.elim "" (" -> " ++ ·)

theorem Signature.heads_header (s : Signature) (start name : String) (params : List String) :
    s.Heads start name params (s.header start name params) := by
  refine ⟨if s.borrows then "<'a>" else "", ?_, ?_⟩
  · split <;> simp
  · unfold header
    cases s.result <;> rfl

def NativeCall.call (c : NativeCall) : String :=
  c.native ++ "(" ++ ", ".intercalate (c.args.map CallArg.render) ++ ")"

def LoweringCall.call (c : LoweringCall) : String :=
  c.wrapper ++ "_raw(" ++ ", ".intercalate (c.args.map ForwardArg.text) ++ ")"

/-- A call gives the value of a body, is a statement of its own or gives the result. -/
def States (line call : String) : Prop :=
  line ∈ ["unsafe \x7b " ++ call ++ " \x7d", "unsafe \x7b " ++ call ++ " \x7d;",
    "let result = unsafe \x7b " ++ call ++ " \x7d;"]

theorem States.around {line call : String} (states : States line call) :
    ∃ before after, line = before ++ call ++ after := by
  simp only [States, List.mem_cons, List.not_mem_nil, or_false] at states
  rcases states with rfl | rfl | rfl <;> exact ⟨_, _, rfl⟩

def NativeCall.line (c : NativeCall) : String :=
  if c.returnShape = .void then "unsafe \x7b " ++ c.call ++ " \x7d;"
  else "let result = unsafe \x7b " ++ c.call ++ " \x7d;"

theorem NativeCall.states_line (c : NativeCall) : States c.line c.call := by
  unfold line
  split <;> simp [States]

/-- The records of a body are made before its call. -/
theorem NativeCall.steps_line (c : NativeCall) : ∃ rest, c.steps =
    ((c.panic.toList.map fun p => zeroed "panic" p.type) ++
      c.error.toList.map fun e => zeroed "error" e.type) ++ .line c.line :: rest := by
  have line : (if c.returnShape = .void then
        "unsafe \x7b " ++ c.native ++ "(" ++ ", ".intercalate (c.args.map CallArg.render) ++
          ") \x7d" ++ ";"
      else "let result = " ++ ("unsafe \x7b " ++ c.native ++ "(" ++
        ", ".intercalate (c.args.map CallArg.render) ++ ") \x7d") ++ ";") = c.line := by
    have closed : ") \x7d" = ")" ++ " \x7d" := rfl
    have ended : " \x7d;" = " \x7d" ++ ";" := rfl
    have opened : "let result = unsafe \x7b " = "let result = " ++ "unsafe \x7b " := rfl
    unfold NativeCall.line call
    simp only [closed, ended, opened, String.append_assoc]
  unfold steps
  rw [← line]
  cases c.panic <;> cases c.error <;> exact ⟨_, by simp; rfl⟩

namespace ForwardArg

def reads : ForwardArg → String
  | .same name => name
  | .lowered name .. => name ++ "_raw"

theorem reads_forwardArg (arg : WrapperArg) :
    (Analysis.forwardArg arg).reads = if arg.isRaw then arg.name ++ "_raw" else arg.name := by
  unfold Analysis.forwardArg
  split <;> rfl

/-- What is passed on is written around the name that it reads. -/
theorem text_reads (f : ForwardArg) : ∃ before after, f.text = before ++ f.reads ++ after := by
  cases f with
  | same name => exact ⟨"", "", by simp [text, reads]⟩
  | lowered name exclusive isPointer isNullable =>
    dsimp only [text, reads]
    cases isPointer with
    | false => exact ⟨"", "", by simp⟩
    | true =>
      cases isNullable with
      | true =>
        exact ⟨"Some(&" ++ (if exclusive then "mut " else ""), ")", by
          simp only [String.append_assoc]; rfl⟩
      | false =>
        exact ⟨"&" ++ (if exclusive then "mut " else ""), "", by
          simp [String.append_assoc]⟩

end ForwardArg

/-! ### Entry points -/

namespace FunctionItem

def call : FunctionItem → String
  | .safe _ _ c | .raw _ _ c => c.call
  | .lowering _ _ c => c.call

def Heads : FunctionItem → String → Prop
  | .safe name s _ | .lowering name s _ =>
    s.Heads "pub fn" name (s.params.map fun p => p.1 ++ ": " ++ p.2)
  | .raw name s _ =>
    s.Heads "pub unsafe fn" (name ++ "_raw") (s.params.map fun p => p.1 ++ ": " ++ p.2)

/-- The function is written as a block, and a line of its body makes the call. -/
def Written (f : FunctionItem) : Prop :=
  ∃ header body line, .braces header body ∈ (Item.function f).steps ∧ f.Heads header ∧
    .line line ∈ body ∧ States line f.call

theorem written (f : FunctionItem) : f.Written := by
  have native (c : NativeCall) : .line c.line ∈ c.steps := by
    obtain ⟨rest, steps⟩ := c.steps_line
    simp [steps]
  cases f with
  | safe name s c =>
    exact ⟨_, c.steps, c.line, List.mem_singleton_self _, s.heads_header .., native c,
      c.states_line⟩
  | raw name s c =>
    exact ⟨_, c.steps, c.line, List.mem_of_getLast? rfl, s.heads_header .., native c,
      c.states_line⟩
  | lowering name s c =>
    refine ⟨_, c.steps _, "unsafe \x7b " ++ c.call ++ " \x7d", List.mem_singleton_self _,
      s.heads_header .., ?_, by simp [States, call]⟩
    have closed : ") \x7d" = ")" ++ " \x7d" := rfl
    simp [LoweringCall.steps, LoweringCall.call, closed, String.append_assoc]

end FunctionItem

namespace Analysis

variable {a : Analysis} {records : Records} {w : Wrapper}

/-- The parameters of every entry point are the visible arguments, in order. -/
theorem names_signature (a : Analysis) (w : Wrapper) (safe : Bool) :
    (a.signature w safe).params.map (·.1) = w.visibleArgs.map (·.name) := by
  obtain ⟨_, params⟩ := a.params_signature w safe
  simp [params]

/-- A call of the entry point over raw shapes gives each of its parameters one expression, which
reads the parameter or its lowered form. -/
structure LowersTo (w : Wrapper) (raw : Signature) (call : LoweringCall) : Prop where
  callee : call.wrapper = w.name
  args : List.Forall₂ (fun param passed => passed.reads ∈ [param.1, param.1 ++ "_raw"] ∧
    ∃ before after, passed.text = before ++ passed.reads ++ after) raw.params call.args

inductive EntryPoints (a : Analysis) (records : Records) (w : Wrapper) :
    List FunctionItem → Prop where
  | hidden : w.exposed = false → EntryPoints a records w []
  | safe : w.exposed → w.isRaw = false →
      EntryPoints a records w [.safe w.name (a.signature w true) (a.nativeCall records w)]
  | raw : w.exposed → w.isRaw → w.rawOnly →
      EntryPoints a records w [.raw w.name (a.signature w false) (a.nativeCall records w)]
  /-- Beside the entry point over raw shapes stands one that lowers shapes and calls it. -/
  | lowering {call} : w.exposed → w.isRaw → w.rawOnly = false →
      LowersTo w (a.signature w false) call →
      EntryPoints a records w [.raw w.name (a.signature w false) (a.nativeCall records w),
        .lowering w.name (a.signature w true) call]

theorem lowersTo_forwardArgs (a : Analysis) (w : Wrapper) : LowersTo w (a.signature w false)
    { wrapper := w.name, args := w.visibleArgs.map forwardArg } := by
  obtain ⟨_, params⟩ := a.params_signature w false
  refine ⟨rfl, ?_⟩
  rw [params]
  simp only [List.forall₂_map_left_iff, List.forall₂_map_right_iff, List.forall₂_same]
  intro arg _
  refine ⟨?_, (forwardArg arg).text_reads⟩
  rw [ForwardArg.reads_forwardArg]
  split <;> simp

theorem entryPoints_functionItems (a : Analysis) (records : Records) (w : Wrapper) :
    a.EntryPoints records w (a.functionItems records w) := by
  unfold functionItems
  cases exposed : w.exposed with
  | false => exact .hidden exposed
  | true =>
    cases raw : w.isRaw with
    | false => exact .safe exposed raw
    | true =>
      cases rawOnly : w.rawOnly with
      | false => exact .lowering exposed raw rawOnly (a.lowersTo_forwardArgs w)
      | true => exact .raw exposed raw rawOnly

/-- No argument is lost, duplicated or moved between a native function and the calls that are
emitted for it. -/
structure CallsInPlace (a : Analysis) (records : Records) (f : FunctionDecl) (w : Wrapper) : Prop
    extends InPlace a records f w where
  native : (a.nativeCall records w).native = f.name
  params : ∀ safe, (a.signature w safe).params.map (·.1) = w.visibleArgs.map (·.name)
  /-- These are the entry points, and each is written with its parameters and its call. -/
  entries : a.EntryPoints records w (a.functionItems records w)
  written : ∀ item ∈ a.functionItems records w, item.Written
  /-- In the output of an analysis, all entry points stand. -/
  emitted : w ∈ a.wrappers → a.records = .ok records → ∀ items, a.items = .ok items →
    ∀ item ∈ a.functionItems records w, .function item ∈ items

end Analysis

namespace Library

variable {lib : Library} {roots : List Root} {f : FunctionDecl} {t t' : TypeTable} {w : Wrapper}

/-- Arguments stay in place in every wrapper, whatever it is emitted with. -/
theorem wrapper_in_place (run : on (lib.wrapper roots f) t = (.ok w, t')) (a : Analysis)
    (records : Records) : a.CallsInPlace records f w := by
  obtain ⟨between, reads⟩ := reads_of_wrapper run
  constructor
  case toInPlace => exact reads.inPlace a records
  case native => exact (wrapper_stands run).1
  case params => exact a.names_signature w
  case entries => exact a.entryPoints_functionItems records w
  case written => exact fun item _ => item.written
  case emitted =>
    intro wrapped recorded items emitted item made
    exact (Analysis.mem_items_iff emitted).2 (.function wrapped recorded made)

/-- Four native arguments are called for by three, one of them hidden, and the options are lowered
for the entry point over raw shapes. -/
theorem load_in_place : ∃ a records items w call, loading.analyze = .ok a ∧
    a.records = .ok records ∧ a.items = .ok items ∧ w ∈ a.wrappers ∧
    w.args.map (·.nativeIndex) = [0, 2, 3] ∧
    a.functionItems records w = [.raw "load" (a.signature w false) (a.nativeCall records w),
      .lowering "load" (a.signature w true) call] ∧
    (a.nativeCall records w).args.map CallArg.render = ["path.as_ptr()", "path.len()",
      "opts.map_or(ptr::null_mut(), |r| r as *mut RawOpts)", "&mut error"] ∧
    call.args.map ForwardArg.text = ["path", "Some(&mut opts_raw)"] ∧
    .function (.lowering "load" (a.signature w true) call) ∈ items ∧
    ∃ f ∈ loading.declaredFunctions, a.CallsInPlace records f w := by
  have checked : loading.analyze.toOption.any (fun a => a.records.toOption.any fun records =>
      a.items.toOption.any fun _ => a.wrappers.any fun w => w.args.map (·.nativeIndex) = [0, 2, 3] ∧
        (w.name = "load" ∧ w.exposed ∧ w.isRaw ∧ w.rawOnly = false) ∧
        (a.nativeCall records w).args.map CallArg.render = ["path.as_ptr()", "path.len()",
          "opts.map_or(ptr::null_mut(), |r| r as *mut RawOpts)", "&mut error"] ∧
        (w.visibleArgs.map Analysis.forwardArg).map ForwardArg.text =
          ["path", "Some(&mut opts_raw)"]) := by decide +kernel
  obtain ⟨a, success, checked⟩ := ok_of_any checked
  obtain ⟨records, recorded, checked⟩ := ok_of_any checked
  obtain ⟨items, emitted, checked⟩ := ok_of_any checked
  obtain ⟨w, wrapped, checked⟩ := List.any_eq_true.1 checked
  obtain ⟨indices, ⟨name, exposed, raw, safe⟩, args, forwards⟩ := of_decide_eq_true checked
  obtain ⟨t, analyzed⟩ := loading.analyzed success
  obtain ⟨f, declared, run⟩ := exists_left_of_forall₂ analyzed.wrappers wrapped
  have both : a.functionItems records w =
      [.raw "load" (a.signature w false) (a.nativeCall records w),
        .lowering "load" (a.signature w true)
          { wrapper := "load", args := w.visibleArgs.map Analysis.forwardArg }] := by
    simp [Analysis.functionItems, name, exposed, raw, safe]
  have inPlace : a.CallsInPlace records f w := wrapper_in_place run a records
  have emits : .function (.lowering "load" (a.signature w true)
      { wrapper := "load", args := w.visibleArgs.map Analysis.forwardArg }) ∈ items :=
    inPlace.emitted wrapped recorded items emitted _ (by simp [both])
  exact ⟨a, records, items, w, _, success, recorded, emitted, wrapped, indices, both, args,
    forwards, emits, f, declared, inPlace⟩

end Library

end Bindery
