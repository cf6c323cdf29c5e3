import Bindery.Text

/-!
# Documents

Indented text as a tree of steps. A block opens one level of indentation and closes it again, so
the depth after a list of steps is the depth before it.
-/
namespace Bindery

inductive Step where
  | line (text : String)
  /-- One entry per line of the text. -/
  | lines (text : String)
  | blank
  | block (header close : String) (body : List Step)
  deriving Inhabited

def Step.braces (header : String) (body : List Step) : Step := .block header "\x7d" body

structure Document where
  entries : Array String := #[]
  depth : Nat := 0
  deriving DecidableEq, Repr

def indent (depth : Nat) : String := String.ofList (List.replicate (4 * depth) ' ')

namespace Document

def line (d : Document) (text : String) : Document :=
  { d with entries := d.entries.push (if text.isEmpty then "" else indent d.depth ++ text) }

def lines (d : Document) (text : String) : Document :=
  ((Text.lines text.toList).map String.ofList).foldl line d

/-- An empty entry, unless it would start the document or a block or follow another one. -/
def blank (d : Document) : Document :=
  match d.entries.back? with
  | none => d
  | some last =>
    if last.isEmpty || last.toList.getLast? = some '\x7b' then d
    else { d with entries := d.entries.push "" }

def enter (d : Document) : Document := { d with depth := d.depth + 1 }

def leave (d : Document) : Document := { d with depth := d.depth - 1 }

mutual

def step (d : Document) : Step → Document
  | .line text => d.line text
  | .lines text => d.lines text
  | .blank => d.blank
  | .block header close body => (((d.line (header ++ " \x7b")).enter.steps body).leave).line close

def steps (d : Document) : List Step → Document
  | [] => d
  | s :: rest => (d.step s).steps rest

end

def text (d : Document) : String := "\n".intercalate d.entries.toList ++ "\n"

end Document

def render (body : List Step) : String := ((({} : Document).steps body)).text

@[simp] theorem Document.depth_line (d : Document) (text : String) :
    (d.line text).depth = d.depth := rfl

@[simp] theorem Document.depth_lines (d : Document) (text : String) :
    (d.lines text).depth = d.depth := by
  unfold lines
  induction (Text.lines text.toList).map String.ofList generalizing d with
  | nil => rfl
  | cons t ts ih => simp [ih]

@[simp] theorem Document.depth_blank (d : Document) : d.blank.depth = d.depth := by
  unfold blank
  split
  · rfl
  · split <;> rfl

end Bindery
