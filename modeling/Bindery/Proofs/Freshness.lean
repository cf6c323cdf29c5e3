import Bindery.Command.Basic
import Bindery.Proofs.Linkage
import Bindery.Proofs.Nesting

/-!
# Digests of generated texts

The digest of the input stands in the second line of every generated text, and no line before it is
taken for one, so what is generated is found up to date whatever names and texts it holds.
-/
namespace Bindery

namespace Text

theorem splitOn_line {separator : Char} {line : List Char} (single : separator ∉ line)
    (rest : List Char) :
    splitOn separator (line ++ separator :: rest) = line :: splitOn separator rest := by
  rw [splitOn_eq, splitOn_eq, List.splitOn_append_cons_self_of_not_mem single]

theorem dropReturn_of_not_mem {line : List Char} (plain : '\r' ∉ line) : dropReturn line = line :=
  if_neg fun last => plain (List.mem_of_getLast? last)

/-- A line that is closed by a line feed is the first one. -/
theorem lines_line {line : List Char} (single : '\n' ∉ line) (plain : '\r' ∉ line)
    (rest : List Char) : lines (line ++ '\n' :: rest) = line :: lines rest := by
  have pieces := splitOn_ne_nil '\n' rest
  simp only [lines, splitOn_line single rest, List.dropLast_cons_of_ne_nil pieces, List.map_cons,
    dropReturn_of_not_mem plain, List.getLast?_cons_of_ne_nil pieces, List.cons_append]

theorem trim_of_no_blank {text : List Char} (solid : ∀ c ∈ text, isBlank c = false) :
    trim text = text := by
  have kept {cs : List Char} (solid : ∀ c ∈ cs, isBlank c = false) : cs.dropWhile isBlank = cs := by
    cases cs with
    | nil => rfl
    | cons c cs => simp [solid c List.mem_cons_self]
  rw [trim, kept solid, kept fun c member => solid c (List.mem_reverse.1 member),
    List.reverse_reverse]

end Text

/-- Two lines that a text begins with are its first ones. -/
theorem render_lines {first second : String} (written : first.isEmpty = false)
    (written' : second.isEmpty = false) (rest : List Step) :
    ∃ behind, (render (.line first :: .line second :: rest)).toList =
      first.toList ++ '\n' :: (second.toList ++ '\n' :: behind) := by
  have top (text : String) : indent 0 ++ text = text := by simp [indent]
  have begins : ((({} : Document).line first).line second).entries.toList = [first, second] := by
    simp [Document.line, written, written', top]
  obtain ⟨more, entries⟩ := ((({} : Document).line first).line second).prefix_steps rest
  rw [begins] at entries
  have text : render (.line first :: .line second :: rest) =
      "\n".intercalate (first :: second :: more) ++ "\n" := by
    simp only [render, Document.steps, Document.step, Document.text, ← entries, List.cons_append,
      List.nil_append]
  rw [text]
  cases more with
  | nil => exact ⟨[], by simp [String.intercalate_cons_cons]⟩
  | cons e more =>
    exact ⟨("\n".intercalate (e :: more) ++ "\n").toList, by simp [String.intercalate_cons_cons]⟩

namespace Digest

def hexDigits : List Char := "0123456789abcdef".toList

theorem hexDigit_mem {n : Nat} (small : n < 16) : Sha256.hexDigit n ∈ hexDigits := by
  revert n
  decide

theorem mem_ofText {text : String} {c : Char} (member : c ∈ (ofText text).toList) :
    c ∈ hexDigits := by
  simp only [ofText, ofBytes, Sha256.hex, String.toList_ofList, List.mem_flatMap, Sha256.hexByte,
    List.mem_cons, List.not_mem_nil, or_false] at member
  obtain ⟨b, _, rfl | rfl⟩ := member
  · exact hexDigit_mem (Nat.div_lt_of_lt_mul b.toNat_lt)
  · exact hexDigit_mem (Nat.mod_lt _ (by decide))

/-- A digest behind the mark of its line is read back, whatever line is before it. -/
theorem recorded?_lines {digest head : String} (hex : ∀ c ∈ digest.toList, c ∈ hexDigits)
    (single : '\n' ∉ head.toList) (plain : '\r' ∉ head.toList)
    (other : marker.toList.isPrefixOf head.toList = false) {source : String} {behind : List Char}
    (begins : source.toList = head.toList ++ '\n' :: ((line digest).toList ++ '\n' :: behind)) :
    recorded? source = some digest := by
  have apart (c : Char) (odd : c ∉ marker.toList ++ hexDigits) : c ∉ (line digest).toList := by
    rw [line, String.toList_append]
    exact fun member => odd (List.mem_append.2 ((List.mem_append.1 member).imp id (hex c)))
  have solid : ∀ c ∈ digest.toList, Text.isBlank c = false := by
    have digits : hexDigits.all fun c => !Text.isBlank c := by decide
    exact fun c member => by simpa using List.all_eq_true.1 digits c (hex c member)
  have read : ofLine? (line digest).toList = some digest := by
    have begins : marker.toList.isPrefixOf (line digest).toList := by
      rw [line, String.toList_append, List.isPrefixOf_iff_prefix]
      exact List.prefix_append _ _
    rw [ofLine?, if_pos begins, line, String.toList_append, ← String.length_toList,
      List.drop_left, Text.trim_of_no_blank solid, String.ofList_toList]
  rw [recorded?, begins, Text.lines_line single plain,
    Text.lines_line (apart _ (by decide)) (apart _ (by decide)), List.take_succ_cons,
    List.take_succ_cons, List.findSome?_cons, List.findSome?_cons, ofLine?,
    if_neg (by simp [other]), read]

end Digest

/-- Whatever is generated records the digest of its input. -/
theorem recorded?_of_generate {input source : String} {config : Config}
    (success : generate input config = .ok source) :
    Digest.recorded? source = some (Digest.ofText input) := by
  obtain ⟨lib, a, items, generates⟩ := generates_of_generate success
  obtain ⟨prelude, rfl⟩ := generates.written
  have marked : (Digest.line (Digest.ofText input)).isEmpty = false := by
    simp [Digest.line, Digest.marker]
  obtain ⟨behind, begins⟩ :=
    @render_lines ("// Generated by ferrule " ++ version ++ ". Do not edit.") _ (by decide) marked _
  exact Digest.recorded?_lines (fun _ => Digest.mem_ofText) (by decide) (by decide) (by decide)
    begins

/-- What is up to date is exactly what would be generated. -/
theorem freshness_eq_ok_iff {input existing : String} {config : Config} :
    freshness input config existing = .ok () ↔ generate input config = .ok existing := by
  unfold freshness
  dsimp only
  constructor
  · intro fresh
    split at fresh
    next => cases fresh
    next =>
      split at fresh
      next => cases fresh
      next =>
        split at fresh
        next => cases fresh
        next source generated =>
          split at fresh
          next same => rw [generated, same]
          next => cases fresh
  · intro generated
    rw [recorded?_of_generate generated, generated]
    simp

theorem attempt_ok {ε α : Type} (activity : Activity) (path : String) (cause : ε → Cause) (a : α) :
    attempt activity path cause (.ok a : Except ε α) = .ok a := rfl

/-- A generated text is found up to date exactly if it is what its input and configuration give now,
and the digest of the input is read back from whatever is generated. -/
theorem check_accepts_iff {read : String → Except FileFault String} {config : Config}
    {input output text existing : String} (given : read input = .ok text)
    (present : read output = .ok existing) :
    ((∃ effect, (Command.check input output).run read config = .ok effect) ↔
      generate text config = .ok existing) ∧
    ∀ source, generate text config = .ok source →
      Digest.recorded? source = some (Digest.ofText text) := by
  refine ⟨?_, fun source => recorded?_of_generate⟩
  rw [← freshness_eq_ok_iff]
  have text_read : attempt .reading input .file (read input) = .ok text := by
    rw [given, attempt_ok]
  have existing_read : attempt .reading output .file (read output) = .ok existing := by
    rw [present, attempt_ok]
  simp only [Command.run, Command.input, text_read, existing_read, bind, Except.bind]
  constructor
  · rintro ⟨effect, passed⟩
    split at passed
    next fresh => exact fresh
    next => cases passed
    next => cases passed
  · intro fresh
    rw [fresh]
    exact ⟨_, rfl⟩

def filesWith (source : String) : String → Except FileFault String
  | "scenes.json" => .ok Library.scenesText
  | "scenes.rs" => .ok source
  | "edited.rs" => .ok (source ++ "\n")
  | _ => .error .notFound

/-- The text that is generated for the scenes is up to date, and an edited one is not. -/
theorem scenes_up_to_date : ∃ source,
    filesWith source "scenes.json" = .ok Library.scenesText ∧
    filesWith source "scenes.rs" = .ok source ∧
    generate Library.scenesText Library.scenes.config = .ok source ∧
    Digest.recorded? source = some (Digest.ofText Library.scenesText) ∧
    (∃ effect, (Command.check "scenes.json" "scenes.rs").run (filesWith source)
      Library.scenes.config = .ok effect) ∧
    ¬∃ effect, (Command.check "scenes.json" "edited.rs").run (filesWith source)
      Library.scenes.config = .ok effect := by
  have checked : Library.scenes.analyze.toOption.any fun a => a.prelude.toOption.any fun _ =>
      a.items.toOption.any fun _ => true := by decide +kernel
  obtain ⟨a, analysis, checked⟩ := ok_of_any checked
  obtain ⟨prelude, imported, checked⟩ := ok_of_any checked
  obtain ⟨items, emitted, _⟩ := ok_of_any checked
  obtain ⟨source, written⟩ : ∃ source, a.source (Digest.ofText Library.scenesText) = .ok source :=
    ⟨_, Analysis.source_eq_ok_iff.2 ⟨prelude, items, imported, emitted, rfl⟩⟩
  have success := generate_eq_ok_iff.2 ⟨_, a, Library.parse_scenesText, analysis, written⟩
  have fresh := @check_accepts_iff (filesWith source) Library.scenes.config
    "scenes.json" "scenes.rs" _ _ rfl rfl
  have edited := @check_accepts_iff (filesWith source) Library.scenes.config
    "scenes.json" "edited.rs" _ _ rfl rfl
  refine ⟨source, rfl, rfl, success, fresh.2 source success, fresh.1.2 success, fun passed => ?_⟩
  have same := Except.ok.inj (success.symm.trans (edited.1.1 passed))
  simpa using congrArg String.length same

end Bindery
