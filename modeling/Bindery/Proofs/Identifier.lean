import Bindery.Proofs.Casing

/-!
# Identifiers

Which names can stand as identifiers: all that are escaped, and what Pascal case makes of a name
that neither begins with a digit nor is the one word that casing makes a keyword of.
-/
namespace Bindery.Ident

variable {name : String} {word : List Char} {c : Char}

/-- The name is not reserved and does not begin with a digit. -/
structure Proper (name : String) : Prop where
  plain : isKeyword name = false
  undigited : name.toList.head?.any Char.isDigit = false

instance : DecidablePred Proper := fun name =>
  decidable_of_iff (isKeyword name = false ∧ name.toList.head?.any Char.isDigit = false)
    ⟨fun ⟨plain, undigited⟩ => ⟨plain, undigited⟩, fun proper => ⟨proper.plain, proper.undigited⟩⟩

/-! ### Keywords -/

/-- Keywords begin with a lower-case letter, but for one. -/
theorem isLower_head_of_isKeyword (reserved : isKeyword name) :
    name = "Self" ∨ name.toList.head?.any Char.isLower := by
  have lower : keywords.all fun k => k = "Self" ∨ k.toList.head?.any Char.isLower := by
    decide +kernel
  exact of_decide_eq_true (holds_of_isKeyword lower reserved)

/-- No keyword has an underscore or the letter that handles and raw layouts are marked with. -/
theorem not_isKeyword_of_mem (foreign : c = '_' ∨ c = 'R') (member : c ∈ name.toList) :
    isKeyword name = false := by
  have none : keywords.all fun k => '_' ∉ k.toList ∧ 'R' ∉ k.toList := by decide +kernel
  refine Bool.eq_false_of_not_eq_true fun reserved => ?_
  have ⟨first, second⟩ := of_decide_eq_true (holds_of_isKeyword none reserved)
  rcases foreign with rfl | rfl
  · exact first member
  · exact second member

/-- With something behind it that keywords do not have, a name is proper unless it begins with a
digit. -/
theorem proper_append_iff {suffix : String} (foreign : c = '_' ∨ c = 'R')
    (suffixed : suffix.toList.head? = some c) :
    Proper (name ++ suffix) ↔ name.toList.head?.any Char.isDigit = false := by
  have member : c ∈ (name ++ suffix).toList := by
    rw [String.toList_append]
    exact List.mem_append_right _ (List.mem_of_head? suffixed)
  have same : (name ++ suffix).toList.head?.any Char.isDigit =
      name.toList.head?.any Char.isDigit := by
    rw [String.toList_append, List.head?_append, suffixed]
    cases name.toList.head? with
    | some => rfl
    | none => rcases foreign with rfl | rfl <;> decide
  exact ⟨fun proper => same ▸ proper.undigited,
    fun undigited => ⟨not_isKeyword_of_mem foreign member, same.trans undigited⟩⟩

/-- What begins with a character that neither keywords have nor numbers begin with. -/
theorem proper_of_head {c : Char} (foreign : c = '_' ∨ c = 'R') (first : name.toList.head? = some c) :
    Proper name where
  plain := not_isKeyword_of_mem foreign (List.mem_of_head? first)
  undigited := by
    rw [first]
    rcases foreign with rfl | rfl <;> decide

theorem undigited_of_isKeyword (reserved : isKeyword name) :
    name.toList.head?.any Char.isDigit = false := by
  rcases isLower_head_of_isKeyword reserved with rfl | lower
  · decide
  · cases first : name.toList.head? with
    | none => rfl
    | some c =>
      rw [first] at lower
      exact isDigit_of_isAlpha (isAlpha_of_isLower lower)

theorem proper_escape (name : String) : Proper (escape name) := by
  unfold escape
  split
  next reserved =>
    exact (proper_append_iff (.inl rfl) rfl).2 (undigited_of_isKeyword reserved)
  next plain =>
    split
    next => exact proper_of_head (.inl rfl) (by simp)
    next undigited => exact ⟨by simpa using plain, by simpa using undigited⟩

/-- The names of parameters that have none. -/
theorem proper_numbered (index : Nat) : Proper ("arg" ++ toString index) := by
  have begins : ("arg" ++ toString index).toList.take 3 = ['a', 'r', 'g'] := by
    rw [String.toList_append]
    rfl
  refine ⟨Bool.eq_false_of_not_eq_true fun reserved => ?_, ?_⟩
  · have none : keywords.all (·.toList.take 3 ≠ ['a', 'r', 'g']) := by decide +kernel
    exact of_decide_eq_true (holds_of_isKeyword none reserved) begins
  · rw [String.toList_append]
    rfl

/-! ### Pascal case -/

def Undigited (name : String) : Prop := (name.toList.find? (· ≠ '_')).any Char.isDigit = false

instance : DecidablePred Undigited := fun _ => inferInstanceAs (Decidable (_ = _))

def selfWords : List (List Char) :=
  [['s', 'e', 'l', 'f'], ['S', 'e', 'l', 'f'], ['S', 'E', 'L', 'F']]

/-- The name neither begins with a digit nor is a single word that becomes a keyword. -/
structure Titled (name : String) : Prop where
  undigited : Undigited name
  plain : words name.toList ∉ selfWords.map ([·])

instance : DecidablePred Titled := fun name =>
  decidable_of_iff (Undigited name ∧ words name.toList ∉ selfWords.map ([·]))
    ⟨fun ⟨undigited, plain⟩ => ⟨undigited, plain⟩, fun titled => ⟨titled.undigited, titled.plain⟩⟩

theorem words_underscore_cons (name : List Char) : words ('_' :: name) = words name := by
  simp [words, Text.splitOn]

theorem exists_words_cons (letter : c ≠ '_') (name : List Char) :
    ∃ rest more, words (c :: name) = (c :: rest) :: more := by
  unfold words
  rw [Text.splitOn, List.foldr_cons, if_neg letter]
  split
  next => exact ⟨[], [], rfl⟩
  next piece pieces _ => exact ⟨piece, pieces.filter (!·.isEmpty), rfl⟩

theorem head?_pascalChars (name : List Char) :
    (pascalChars name).head? = (name.find? (· ≠ '_')).map Char.toUpper := by
  induction name with
  | nil => rfl
  | cons c name ih =>
    by_cases letter : c = '_'
    · subst letter
      rw [pascalChars, words_underscore_cons, ← pascalChars, ih]
      rfl
    · obtain ⟨rest, more, split⟩ := exists_words_cons letter name
      rw [pascalChars, split, List.find?_cons_of_pos (by simpa using letter)]
      rfl

theorem head_capitalize (some : word ≠ []) :
    ∃ c rest, capitalize word = c :: rest ∧ c.isLower = false := by
  cases word with
  | nil => exact absurd rfl some
  | cons c word => exact ⟨_, _, rfl, c.isLower_toUpper_eq_false⟩

theorem toUpper_eq_S_iff : c.toUpper = 'S' ↔ c = 's' ∨ c = 'S' := by
  refine ⟨fun same => ?_, fun either => by rcases either with rfl | rfl <;> rfl⟩
  cases lower : c.isLower with
  | false => exact .inr (toUpper_of_not_isLower lower ▸ same)
  | true =>
    have unchanged := Char.toLower_eq_of_not_isUpper (Char.not_isUpper_of_isLower lower)
    rw [← unchanged, ← c.toLower_toUpper_eq_toLower, same]
    exact .inl rfl

theorem capitalize_eq_self_iff : capitalize word = ['S', 'e', 'l', 'f'] ↔ word ∈ selfWords := by
  refine ⟨fun same => ?_, fun member => ?_⟩
  · cases word with
    | nil => cases same
    | cons c rest =>
      obtain ⟨first, rest'⟩ := List.cons.inj same
      rw [toUpper_eq_S_iff] at first
      split at rest'
      next =>
        subst rest'
        rcases first with rfl | rfl <;> decide
      next noLower =>
        have noLower : ∀ d ∈ c :: rest, d.isLower = false := by simpa using noLower
        obtain ⟨capital, others⟩ := List.forall_mem_cons.1 noLower
        -- All letters were folded, and each is the capital of what it was folded to.
        have capitals : rest = (rest.map Char.toLower).map Char.toUpper := by
          rw [List.map_map, eq_comm]
          refine (List.map_congr_left fun d member => ?_).trans rest.map_id
          rw [Function.comp_apply, d.toUpper_toLower_eq_toUpper]
          exact toUpper_of_not_isLower (others d member)
        rw [rest'] at capitals
        subst capitals
        rcases first with rfl | rfl
        · cases capital
        · decide
  · simp only [selfWords, List.mem_cons, List.not_mem_nil, or_false] at member
    rcases member with rfl | rfl | rfl <;> decide

theorem ne_nil_of_mem_words {name : List Char} (member : word ∈ words name) : word ≠ [] := by
  simpa using (List.mem_filter.1 member).2

/-- Only one word alone becomes the keyword, since every other would begin with a capital letter. -/
theorem toPascal_eq_self_iff (name : String) :
    toPascal name = "Self" ↔ words name.toList ∈ selfWords.map ([·]) := by
  have spelled : "Self" = String.ofList ['S', 'e', 'l', 'f'] := rfl
  rw [toPascal, spelled, String.ofList_inj, pascalChars]
  have some : ∀ word ∈ words name.toList, word ≠ [] := fun _ => ne_nil_of_mem_words
  match words name.toList, some with
  | [], _ => decide
  | [word], _ =>
    rw [List.flatMap_singleton, capitalize_eq_self_iff, List.mem_map_of_injective]
    exact fun _ _ same => List.singleton_inj.1 same
  | first :: second :: more, some =>
    refine iff_of_false (fun same => ?_) (by simp)
    obtain ⟨c, rest, begins, _⟩ := head_capitalize (some first (by simp))
    obtain ⟨d, rest', begins', capital⟩ := head_capitalize (some second (by simp))
    rw [List.flatMap_cons, List.flatMap_cons, begins, begins'] at same
    have tail : rest ++ d :: (rest' ++ more.flatMap capitalize) = ['e', 'l', 'f'] :=
      (List.cons.inj same).2
    have member : d ∈ ['e', 'l', 'f'] := tail ▸ List.mem_append_right _ List.mem_cons_self
    simp only [List.mem_cons, List.not_mem_nil, or_false] at member
    rcases member with rfl | rfl | rfl <;> cases capital

theorem isKeyword_toPascal_iff (name : String) :
    isKeyword (toPascal name) ↔ toPascal name = "Self" := by
  refine ⟨fun reserved => ?_, fun same => by rw [same]; decide⟩
  refine (isLower_head_of_isKeyword reserved).resolve_right fun lower => ?_
  rw [toPascal, String.toList_ofList, head?_pascalChars, Option.any_map] at lower
  obtain ⟨c, _, lower⟩ := (Option.any_eq_true _ _).1 lower
  simp at lower

theorem undigited_iff (name : String) :
    Undigited name ↔ (toPascal name).toList.head?.any Char.isDigit = false := by
  rw [toPascal, String.toList_ofList, head?_pascalChars, Option.any_map]
  simp [Undigited]

theorem proper_toPascal_iff (name : String) : Proper (toPascal name) ↔ Titled name := by
  have plain := not_congr ((isKeyword_toPascal_iff name).trans (toPascal_eq_self_iff name))
  rw [Bool.not_eq_true] at plain
  exact ⟨fun proper => ⟨(undigited_iff name).2 proper.undigited, plain.1 proper.plain⟩,
    fun titled => ⟨plain.2 titled.plain, (undigited_iff name).1 titled.undigited⟩⟩

theorem proper_handle_iff (name : String) : Proper (toPascal name ++ "Root") ↔ Undigited name :=
  (proper_append_iff (.inr rfl) rfl).trans (undigited_iff name).symm

end Bindery.Ident
