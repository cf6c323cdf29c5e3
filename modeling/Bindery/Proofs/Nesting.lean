import Bindery.Document

/-!
# Nesting of documents

A tree of steps is written as it is read, each block as its header, its body one level deeper and its
closing line. The depth is a matter of the tree alone and comes back behind every block. A blank step
looks back at what was written last, and that comes down to what stands directly before it in the
tree.
-/
namespace Bindery

/-- What a walk through a tree of steps meets: a text at its depth, or a blank. -/
inductive Row where
  | line (depth : Nat) (text : String)
  | blank
  deriving DecidableEq

namespace Step

mutual

def walk (depth : Nat) : Step → List Row
  | .line text => [.line depth text]
  | .lines text => (Text.lines text.toList).map fun line => .line depth (String.ofList line)
  | .blank => [.blank]
  | .block header close body =>
    .line depth (header ++ " \x7b") :: (walks (depth + 1) body ++ [.line depth close])

def walks (depth : Nat) : List Step → List Row
  | [] => []
  | s :: rest => s.walk depth ++ walks depth rest

end

end Step

/-- Where a blank step leaves an empty entry: neither on an empty page nor behind an empty entry or
one that opens a block. -/
def TakesBlank (page : List String) : Prop :=
  ∃ last ∈ page.getLast?, last ≠ "" ∧ last.toList.getLast? ≠ some '\x7b'

instance : DecidablePred TakesBlank := fun page =>
  inferInstanceAs (Decidable (∃ last ∈ page.getLast?, _))

inductive Writes : List String → List Row → List String → Prop where
  | done {page : List String} : Writes page [] page
  | filled {page final : List String} {rows : List Row} {depth : Nat} {text : String} :
      text ≠ "" →
      Writes (page ++ [String.ofList (List.replicate (4 * depth) ' ') ++ text]) rows final →
      Writes page (.line depth text :: rows) final
  | empty {page final : List String} {rows : List Row} {depth : Nat} :
      Writes (page ++ [""]) rows final → Writes page (.line depth "" :: rows) final
  | blank {page final : List String} {rows : List Row} :
      TakesBlank page → Writes (page ++ [""]) rows final → Writes page (.blank :: rows) final
  | skipped {page final : List String} {rows : List Row} :
      ¬TakesBlank page → Writes page rows final → Writes page (.blank :: rows) final

/-! ### Depth -/

namespace Document

@[simp] theorem depth_enter (d : Document) : d.enter.depth = d.depth + 1 := rfl

@[simp] theorem depth_leave (d : Document) : d.leave.depth = d.depth - 1 := rfl

@[simp] theorem entries_enter (d : Document) : d.enter.entries = d.entries := rfl

@[simp] theorem entries_leave (d : Document) : d.leave.entries = d.entries := rfl

mutual

@[simp] theorem depth_step (d : Document) (s : Step) : (d.step s).depth = d.depth := by
  cases s with
  | line text => exact d.depth_line text
  | lines text => exact d.depth_lines text
  | blank => exact d.depth_blank
  | block header close body => simp [step, depth_steps]

@[simp] theorem depth_steps (d : Document) (body : List Step) : (d.steps body).depth = d.depth := by
  cases body with
  | nil => rfl
  | cons s rest => rw [steps, depth_steps, depth_step]

end

/-! ### Entries -/

theorem line_writes (d : Document) (text : String) {rows : List Row} {final : List String}
    (after : Writes (d.line text).entries.toList rows final) :
    Writes d.entries.toList (.line d.depth text :: rows) final := by
  rw [line, Array.toList_push] at after
  by_cases filled : text = ""
  · subst filled
    exact .empty after
  · rw [if_neg (by simpa using filled)] at after
    exact .filled filled after

theorem lines_writes (d : Document) (lines : List (List Char)) {rows : List Row}
    {final : List String}
    (after : Writes ((lines.map String.ofList).foldl line d).entries.toList rows final) :
    Writes d.entries.toList
      (lines.map (fun line => .line d.depth (String.ofList line)) ++ rows) final := by
  induction lines generalizing d with
  | nil => exact after
  | cons first lines ih => exact line_writes d _ (ih _ after)

theorem blank_writes (d : Document) {rows : List Row} {final : List String}
    (after : Writes d.blank.entries.toList rows final) :
    Writes d.entries.toList (.blank :: rows) final := by
  have back : d.entries.toList.getLast? = d.entries.back? :=
    Array.getLast?_toList d.entries
  unfold blank at after
  split at after
  next none =>
    refine .skipped ?_ after
    rintro ⟨last, found, -⟩
    rw [back, none] at found
    cases found
  next last some =>
    split at after
    next closed =>
      refine .skipped ?_ after
      rintro ⟨last', found, filled, other⟩
      cases (back.trans some).symm.trans found
      simp [filled, other] at closed
    next takes =>
      rw [Array.toList_push] at after
      refine .blank ⟨last, back.trans some, ?_⟩ after
      simpa using takes

mutual

/-- The rows of a step are written before what is written behind it. -/
theorem step_writes (d : Document) (s : Step) {rows : List Row} {final : List String}
    (after : Writes (d.step s).entries.toList rows final) :
    Writes d.entries.toList (s.walk d.depth ++ rows) final := by
  cases s with
  | line text => exact line_writes d text after
  | lines text => exact lines_writes d _ after
  | blank => exact blank_writes d after
  | block header close body =>
    have closing := line_writes (leave _) close after
    rw [entries_leave] at closing
    have inside := steps_writes (enter _) body closing
    simpa [Step.walk] using line_writes d _ inside

theorem steps_writes (d : Document) (body : List Step) {rows : List Row} {final : List String}
    (after : Writes (d.steps body).entries.toList rows final) :
    Writes d.entries.toList (Step.walks d.depth body ++ rows) final := by
  cases body with
  | nil => exact after
  | cons s rest =>
    have later := steps_writes (d.step s) rest after
    rw [depth_step] at later
    simpa [Step.walks] using step_writes d s later

end

end Document

theorem Writes.isPrefix {page final : List String} {rows : List Row}
    (written : Writes page rows final) : page <+: final := by
  induction written with
  | done => exact List.prefix_rfl
  | filled _ _ ih | empty _ ih | blank _ _ ih => exact (List.prefix_append _ _).trans ih
  | skipped _ _ ih => exact ih

/-- What is written stays where it is. -/
theorem Document.prefix_steps (d : Document) (body : List Step) :
    d.entries.toList <+: (d.steps body).entries.toList :=
  (d.steps_writes body .done).isPrefix

/-! ### Blanks -/

/-- The entry of a text: behind four spaces for each level, unless it is empty. -/
def Row.entry (depth : Nat) (text : String) : String :=
  if text = "" then "" else String.ofList (List.replicate (4 * depth) ' ') ++ text

def Row.takesBlank : Option Row → Bool
  | some (.line _ text) => text ≠ "" ∧ text.toList.getLast? ≠ some '\x7b'
  | some .blank => false
  | none => false

/-- What rows leave on a page, each seen with the one before it only. -/
def Row.entries (before : Option Row) : List Row → List String
  | [] => []
  | .line depth text :: rows => entry depth text :: entries (some (.line depth text)) rows
  | .blank :: rows => (if takesBlank before then [""] else []) ++ entries (some .blank) rows

section Writes

variable {page final : List String} {rows : List Row} {before : Option Row} {depth : Nat}
  {text : String}

theorem writes_nil_iff : Writes page [] final ↔ final = page := by
  refine ⟨fun written => ?_, fun same => same ▸ .done⟩
  cases written
  rfl

theorem writes_line_iff : Writes page (.line depth text :: rows) final ↔
    Writes (page ++ [Row.entry depth text]) rows final := by
  rw [Row.entry]
  constructor
  · intro written
    cases written with
    | filled filled rest => rwa [if_neg filled]
    | empty rest => exact rest
  · intro rest
    split at rest
    next empty => exact empty ▸ .empty rest
    next filled => exact .filled filled rest

theorem writes_blank_iff : Writes page (.blank :: rows) final ↔
    Writes (page ++ if TakesBlank page then [""] else []) rows final := by
  constructor
  · intro written
    cases written with
    | blank takes rest => rwa [if_pos takes]
    | skipped closed rest => rwa [if_neg closed, List.append_nil]
  · intro rest
    split at rest
    next takes => exact .blank takes rest
    next closed => exact .skipped closed (by simpa using rest)

theorem takesBlank_concat {last : String} : TakesBlank (page ++ [last]) ↔
    last ≠ "" ∧ last.toList.getLast? ≠ some '\x7b' := by
  simp [TakesBlank]

theorem takesBlank_entry : TakesBlank (page ++ [Row.entry depth text]) ↔
    Row.takesBlank (some (.line depth text)) := by
  rw [takesBlank_concat, Row.entry]
  split
  next empty => simp [Row.takesBlank, empty]
  next filled =>
    have last : text.toList ≠ [] := by simpa using filled
    simp [Row.takesBlank, filled, List.getLast?_append, List.getLast?_eq_some_getLast last]

theorem takesBlank_nil : TakesBlank [] ↔ Row.takesBlank none := by
  simp [TakesBlank, Row.takesBlank]

/-- Behind a blank no other one leaves an entry: either it left an empty one, or there was none to
leave. -/
theorem writes_iff (alike : TakesBlank page ↔ Row.takesBlank before) :
    Writes page rows final ↔ final = page ++ Row.entries before rows := by
  induction rows generalizing page before with
  | nil => rw [writes_nil_iff, Row.entries, List.append_nil]
  | cons row rows ih =>
    cases row with
    | line depth text =>
      rw [writes_line_iff, ih takesBlank_entry, Row.entries, List.append_assoc]
      rfl
    | blank =>
      have closed : ¬TakesBlank (page ++ if TakesBlank page then [""] else []) := by
        split
        next => simp [takesBlank_concat]
        next closed => rwa [List.append_nil]
      have alike' : TakesBlank _ ↔ Row.takesBlank (some .blank) :=
        iff_of_false closed Bool.false_ne_true
      rw [writes_blank_iff, ih alike', Row.entries]
      simp [alike]

end Writes

namespace Document

/-- Whether a blank leaves an entry is settled by the row directly before it, at whatever depth. -/
theorem entries_steps (body : List Step) :
    (({} : Document).steps body).entries.toList = Row.entries none (Step.walks 0 body) := by
  have written := steps_writes {} body (.done)
  rw [List.append_nil] at written
  exact (writes_iff takesBlank_nil).1 written

example : (({} : Document).steps [.blank, .line "a", .blank, .blank,
    .braces "b" [.blank, .lines "c\n\nd", .blank], .line ""]).entries.toList =
      ["a", "", "b \x7b", "    c", "", "    d", "", "\x7d", ""] := by decide +kernel

/-- The depth is the same behind a block as before it, and one more within. What stands on the page
at last is what the rows of the tree write, in its order. -/
theorem steps_nested (body : List Step) :
    (({} : Document).steps body).depth = 0 ∧
    (∀ (d : Document) (header close : String) (inner : List Step),
      (d.step (.block header close inner)).depth = d.depth ∧
        ((d.line (header ++ " \x7b")).enter.steps inner).depth = d.depth + 1) ∧
    ∀ page, Writes [] (Step.walks 0 body) page ↔
      page = (({} : Document).steps body).entries.toList := by
  refine ⟨depth_steps {} body, fun d header close inner => ⟨by simp, by simp⟩, fun page => ?_⟩
  rw [entries_steps, writes_iff takesBlank_nil, List.nil_append]

end Document

end Bindery
