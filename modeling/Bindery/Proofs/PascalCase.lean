import Bindery.Ownership
import Bindery.Proofs.Casing

/-!
# Names of several words

A name of lower-case words is spelled in lower snake case, in upper snake case or in camel case.
Only a camel case that has no lower-case letter is folded like an upper snake case. So all three are
one name in Pascal case if the first word begins with a letter, and they name the same struct.
-/
namespace Bindery.Ident

theorem toLower_eq_self_iff {c : Char} : c.toLower = c ↔ c.isUpper = false := by
  refine ⟨fun same => ?_, fun flat => Char.toLower_eq_of_not_isUpper (by simp [flat])⟩
  rw [← same, Char.isUpper_toLower_eq_false]

structure Word where
  first : Char
  rest : List Char
  lower : ∀ c ∈ first :: rest, c.isLower ∨ c.isDigit

namespace Word

variable {c : Char}

def chars (w : Word) : List Char := w.first :: w.rest

def raised (w : Word) : List Char := w.first.toUpper :: w.rest

theorem isUpper_of_mem {w : Word} (member : c ∈ w.chars) : c.isUpper = false := by
  refine Bool.eq_false_of_not_eq_true fun upper => ?_
  rcases w.lower c member with lower | digit
  · exact Char.not_isLower_of_isUpper upper lower
  · simp [isDigit_of_isAlpha (isAlpha_of_isUpper upper)] at digit

theorem ne_underscore_of_mem {w : Word} (member : c ∈ w.chars) : c ≠ '_' := by
  rintro rfl
  exact absurd (w.lower '_' member) (by decide)

theorem toLower_of_mem {w : Word} (member : c ∈ w.chars) : c.toLower = c :=
  toLower_eq_self_iff.2 (isUpper_of_mem member)

theorem map_toLower_rest (w : Word) : w.rest.map Char.toLower = w.rest :=
  (List.map_congr_left fun _ member => toLower_of_mem (List.mem_cons_of_mem _ member)).trans
    (List.map_id _)

theorem capitalize_chars (w : Word) : capitalize w.chars = w.raised := by
  rw [chars, capitalize, map_toLower_rest, ite_self, raised]

/-- A word in upper case is folded. -/
theorem capitalize_map_toUpper (w : Word) : capitalize (w.chars.map Char.toUpper) = w.raised := by
  have folded : (w.rest.map Char.toUpper).map Char.toLower = w.rest := by
    rw [List.map_map, ← map_toLower_rest w]
    simp
  have noLower : (w.chars.map Char.toUpper).any Char.isLower = false := by simp
  rw [chars, List.map_cons] at noLower ⊢
  rw [capitalize, noLower, folded, Char.toUpper_toUpper_eq_toUpper, raised]
  rfl

theorem mem_raised {w : Word} (member : c ∈ w.raised) : c = w.first.toUpper ∨ c ∈ w.chars :=
  (List.mem_cons.1 member).imp id (List.mem_cons_of_mem _)

end Word

def snakeChars (words : List Word) : List Char := ['_'].intercalate (words.map Word.chars)

/-- The words without anything between them, where each but the first is raised. -/
def camelChars : List Word → List Char
  | [] => []
  | w :: later => w.chars ++ later.flatMap Word.raised

def snake (words : List Word) : String := String.ofList (snakeChars words)

def camel (words : List Word) : String := String.ofList (camelChars words)

/-! ### Snake case -/

theorem words_intercalate {pieces : List (List Char)} (each : ∀ p ∈ pieces, p ≠ [] ∧ '_' ∉ p) :
    words (['_'].intercalate pieces) = pieces := by
  cases pieces with
  | nil => rfl
  | cons piece pieces =>
    rw [words, Text.splitOn_eq, List.splitOn_intercalate '_' (fun p member => (each p member).2)
      (List.cons_ne_nil _ _), List.filter_eq_self]
    intro p member
    simpa using (each p member).1

/-- The words of a name that is made of words, each spelled in some way. -/
theorem pascalChars_joined {spell : Word → List Char}
    (each : ∀ w, spell w ≠ [] ∧ '_' ∉ spell w ∧ capitalize (spell w) = w.raised)
    (words : List Word) :
    pascalChars (['_'].intercalate (words.map spell)) = words.flatMap Word.raised := by
  have pieces : ∀ p ∈ words.map spell, p ≠ [] ∧ '_' ∉ p := by
    intro p member
    obtain ⟨w, -, rfl⟩ := List.mem_map.1 member
    exact ⟨(each w).1, (each w).2.1⟩
  rw [pascalChars, words_intercalate pieces, List.flatMap_map]
  exact congrArg words.flatMap (funext fun w => (each w).2.2)

theorem pascalChars_snake (words : List Word) :
    pascalChars (snakeChars words) = words.flatMap Word.raised :=
  pascalChars_joined (fun w => ⟨List.cons_ne_nil _ _,
    fun joint => Word.ne_underscore_of_mem joint rfl, w.capitalize_chars⟩) words

/-! ### Upper snake case -/

theorem upperSnakeBehind_joint {p : Char} (single : p ≠ '_') (name : List Char) :
    upperSnakeBehind p ('_' :: name) = '_' :: upperSnakeBehind '_' name := by
  simp [upperSnakeBehind, upperSnakeChars, single]

/-- Without upper-case letters there are no humps. -/
theorem upperSnakeBehind_append {p : Char} {letters : List Char}
    (plain : ∀ c ∈ letters, c ≠ '_' ∧ c.isUpper = false) (name : List Char) :
    upperSnakeBehind p (letters ++ name) = letters.map Char.toUpper ++
      upperSnakeBehind ((p :: letters).getLast (List.cons_ne_nil _ _)) name := by
  induction letters generalizing p with
  | nil => rfl
  | cons c letters ih =>
    obtain ⟨⟨letter, flat⟩, plain⟩ := List.forall_mem_cons.1 plain
    have step : upperSnakeBehind p (c :: (letters ++ name)) =
        c.toUpper :: upperSnakeBehind c (letters ++ name) := by
      simp [upperSnakeBehind, upperSnakeChars, letter, flat]
    rw [List.cons_append, step, ih plain, List.map_cons, List.cons_append,
      List.getLast_cons (List.cons_ne_nil _ _)]

/-- The words stay, each in upper case. -/
theorem upperSnakeBehind_snake (words : List Word) :
    upperSnakeBehind '_' (snakeChars words) =
      ['_'].intercalate (words.map fun w => w.chars.map Char.toUpper) := by
  have plain (w : Word) : ∀ c ∈ w.chars, c ≠ '_' ∧ c.isUpper = false :=
    fun c member => ⟨Word.ne_underscore_of_mem member, Word.isUpper_of_mem member⟩
  match words with
  | [] => rfl
  | [w] => simpa [snakeChars] using upperSnakeBehind_append (p := '_') (plain w) []
  | w :: next :: later =>
    have single : ('_' :: w.chars).getLast (List.cons_ne_nil _ _) ≠ '_' := by
      rw [Word.chars, List.getLast_cons (List.cons_ne_nil _ _)]
      exact Word.ne_underscore_of_mem (w := w) (List.getLast_mem _)
    have rest := upperSnakeBehind_snake (next :: later)
    simp only [snakeChars, List.map_cons, List.intercalate_cons_cons, List.append_assoc,
      List.cons_append, List.nil_append] at rest ⊢
    rw [upperSnakeBehind_append (plain w), upperSnakeBehind_joint single, rest]

theorem pascalChars_upperSnake (words : List Word) :
    pascalChars (upperSnakeBehind '_' (snakeChars words)) = words.flatMap Word.raised := by
  rw [upperSnakeBehind_snake]
  refine pascalChars_joined (fun w => ⟨by simp [Word.chars], fun joint => ?_,
    w.capitalize_map_toUpper⟩) words
  obtain ⟨c, member, upper⟩ := List.mem_map.1 joint
  exact Word.ne_underscore_of_mem member (toUpper_eq_underscore_iff.1 upper)

/-! ### Camel case -/

theorem words_of_not_mem {name : List Char} (whole : '_' ∉ name) (filled : name ≠ []) :
    words name = [name] := by
  have each : ∀ p ∈ [name], p ≠ [] ∧ '_' ∉ p := by simpa using ⟨filled, whole⟩
  simpa using words_intercalate each

theorem underscore_not_mem_camel (words : List Word) : '_' ∉ camelChars words := by
  cases words with
  | nil => exact List.not_mem_nil
  | cons w later =>
    intro joint
    rcases List.mem_append.1 joint with first | next
    · exact Word.ne_underscore_of_mem first rfl
    · obtain ⟨v, -, member⟩ := List.mem_flatMap.1 next
      rcases Word.mem_raised member with upper | member
      · exact Word.ne_underscore_of_mem List.mem_cons_self (toUpper_eq_underscore_iff.1 upper.symm)
      · exact Word.ne_underscore_of_mem member rfl

/-- Camel case without a lower-case letter is folded, which changes it if it has a letter. -/
theorem pascalChars_camel_iff (words : List Word) :
    pascalChars (camelChars words) = words.flatMap Word.raised ↔
      (∃ c ∈ camelChars words, c.isLower) ∨ ∀ c ∈ camelChars words, c.isUpper = false := by
  have whole := underscore_not_mem_camel words
  cases words with
  | nil => simp [camelChars, pascalChars, Ident.words, Text.splitOn]
  | cons w later =>
    let tail := w.rest ++ later.flatMap Word.raised
    have split : camelChars (w :: later) = w.first :: tail := rfl
    have all : (w :: later).flatMap Word.raised = w.first.toUpper :: tail := rfl
    have flat : w.first.isUpper = false := Word.isUpper_of_mem (w := w) List.mem_cons_self
    rw [split] at whole
    rw [split, all, pascalChars, words_of_not_mem whole (List.cons_ne_nil _ _),
      List.flatMap_singleton, capitalize, List.cons.injEq, and_iff_right rfl,
      ← List.any_eq_true, List.forall_mem_cons, and_iff_right flat]
    cases (w.first :: tail).any Char.isLower with
    | true => simp
    | false =>
      have folded := List.map_inj_left (l := tail) (f := Char.toLower) (g := id)
      simpa [toLower_eq_self_iff] using folded

/-! ### Names -/

/-- The Pascal case of a camel case is that of the words, unless it is folded with a letter. -/
theorem toPascal_camel_iff (words : List Word) : toPascal (camel words) = toPascal (snake words) ↔
    (∃ c ∈ camelChars words, c.isLower) ∨ ∀ c ∈ camelChars words, c.isUpper = false := by
  rw [toPascal, toPascal, String.ofList_inj, camel, snake, String.toList_ofList,
    String.toList_ofList, pascalChars_snake, pascalChars_camel_iff]

example : let words : List Word := [⟨'3', [], by simp⟩, ⟨'d', [], by simp⟩]
    toPascal (snake words) = "3D" ∧ toPascal (camel words) = "3d" := by decide +kernel

/-- Lower snake case, upper snake case and camel case. -/
def spellings (words : List Word) : List String :=
  [snake words, toUpperSnake (snake words), camel words]

theorem toPascal_spelling {w : Word} (letter : w.first.isLower) {later : List Word} {name : String}
    (spelled : name ∈ spellings (w :: later)) : toPascal name = toPascal (snake (w :: later)) := by
  simp only [spellings, List.mem_cons, List.not_mem_nil, or_false] at spelled
  rcases spelled with rfl | rfl | rfl
  · rfl
  · rw [toPascal, toPascal, String.ofList_inj, toList_toUpperSnake, snake, String.toList_ofList,
      pascalChars_upperSnake, pascalChars_snake]
  · exact (toPascal_camel_iff _).2 (.inl ⟨w.first, List.mem_cons_self, letter⟩)

/-- Names of one Pascal case name the same structs but for a native name. -/
theorem namesStruct_congr {native pascal name name' : String} (same : toPascal name = toPascal name')
    (other : native ≠ name) (other' : native ≠ name') :
    namesStruct native pascal name = namesStruct native pascal name' := by
  simp [namesStruct, other, other', same]

/-- All spellings of a name whose first word begins with a letter have one Pascal case. So a root
that has none of them as its native name is allocated under all or under none. -/
theorem spellings_alike (w : Word) (later : List Word) (letter : w.first.isLower) :
    ∀ name ∈ spellings (w :: later), ∀ name' ∈ spellings (w :: later),
      toPascal name = toPascal name' ∧
        ∀ r : Root, r.native ∉ spellings (w :: later) →
          r.isAllocatedAs name = r.isAllocatedAs name' := by
  intro name spelled name' spelled'
  have same : toPascal name = toPascal name' :=
    (toPascal_spelling letter spelled).trans (toPascal_spelling letter spelled').symm
  refine ⟨same, fun r foreign => namesStruct_congr same ?_ ?_⟩
  · exact fun native => foreign (native ▸ spelled)
  · exact fun native => foreign (native ▸ spelled')

theorem uv2_3d_alike :
    let uv2 : Word := ⟨'u', ['v', '2'], by simp⟩
    let words : List Word := [uv2, ⟨'3', [], by simp⟩, ⟨'d', ['4'], by simp⟩]
    let root : Root :=
      { native := "mesh_uv2_3_d4", typeId := 0, name := "Uv23D4", handle := "Uv23D4Root"
        retain := "retain_uv", free := "free_uv" }
    uv2.first.isLower ∧ spellings words = ["uv2_3_d4", "UV2_3_D4", "uv23D4"] ∧
      root.native ∉ spellings words ∧ toPascal "uv23D4" = toPascal "UV2_3_D4" ∧
      root.isAllocatedAs "uv2_3_d4" ∧
      root.isAllocatedAs "uv23D4" = root.isAllocatedAs "uv2_3_d4" := by
  intro uv2 words root
  have letter : uv2.first.isLower := by decide
  have all : spellings words = ["uv2_3_d4", "UV2_3_D4", "uv23D4"] := by decide +kernel
  have foreign : root.native ∉ spellings words := by decide +kernel
  have spelled (name : String) (member : name ∈ ["uv2_3_d4", "UV2_3_D4", "uv23D4"]) :
      name ∈ spellings words := all ▸ member
  have alike := spellings_alike uv2 words.tail letter
  have upper := alike _ (spelled "uv23D4" (by decide)) _ (spelled "UV2_3_D4" (by decide))
  have lower := alike _ (spelled "uv23D4" (by decide)) _ (spelled "uv2_3_d4" (by decide))
  exact ⟨letter, all, foreign, upper.1, by decide +kernel, lower.2 root foreign⟩

end Bindery.Ident
