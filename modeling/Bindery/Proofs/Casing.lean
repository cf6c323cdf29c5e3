import Bindery.Proofs.Enumeration
import Mathlib

/-!
# Names of constants

What `UPPER_SNAKE` conversion leaves of a name. A hump is an upper-case letter behind a lower-case
one or a digit. Of a lower-case letter behind a digit the conversion itself makes such a hump, so
just the names without one are the same after a second conversion.
-/
namespace Bindery.Ident

variable {name : List Char} {p q c : Char}

/-- No character of the second kind stands directly behind one of the first. -/
def NoneBehind (before kind : Char → Bool) (name : List Char) : Prop :=
  name.IsChain fun a b => ¬(before a ∧ kind b)

instance (before kind : Char → Bool) : DecidablePred (NoneBehind before kind) :=
  fun name => inferInstanceAs (Decidable (name.IsChain _))

section NoneBehind

variable {before kind : Char → Bool}

@[simp] theorem noneBehind_nil : NoneBehind before kind [] := .nil

@[simp] theorem noneBehind_singleton : NoneBehind before kind [c] := .singleton c

theorem noneBehind_cons_cons : NoneBehind before kind (p :: c :: name) ↔
    ¬(before p ∧ kind c) ∧ NoneBehind before kind (c :: name) := List.isChain_cons_cons

/-- In front of a name, a character that is not of the first kind changes nothing. -/
theorem noneBehind_cons (other : before p = false) :
    NoneBehind before kind (p :: name) ↔ NoneBehind before kind name := by
  cases name with
  | nil => simp
  | cons c name => simp [noneBehind_cons_cons, other]

end NoneBehind

/-- Words of upper-case letters and other characters, with single underscores between them. -/
structure UpperSnake (name : List Char) : Prop where
  noLower : ∀ c ∈ name, c.isLower = false
  /-- Nor is there an underscore in front. -/
  single : NoneBehind (· = '_') (· = '_') ('_' :: name)

instance : DecidablePred UpperSnake := fun name =>
  decidable_of_iff (name.all (!·.isLower) ∧ NoneBehind (· = '_') (· = '_') ('_' :: name))
    ⟨fun ⟨noLower, single⟩ => ⟨by simpa using noLower, single⟩,
      fun snake => ⟨by simpa using snake.noLower, snake.single⟩⟩

/-! ### Characters -/

theorem isDigit_of_isAlpha (alpha : c.isAlpha) : c.isDigit = false := by
  simp [Char.isAlpha, Char.isUpper, Char.isLower, Char.isDigit, UInt32.le_iff_toNat_le] at alpha ⊢
  omega

theorem ne_underscore_of_isAlpha (alpha : c.isAlpha) : c ≠ '_' := by
  rintro rfl
  exact absurd alpha (by decide)

theorem isAlpha_of_isLower (lower : c.isLower) : c.isAlpha := by simp [Char.isAlpha, lower]

theorem isAlpha_of_isUpper (upper : c.isUpper) : c.isAlpha := by simp [Char.isAlpha, upper]

theorem toUpper_of_not_isLower (other : c.isLower = false) : c.toUpper = c :=
  Char.toUpper_eq_of_not_isLower (by simp [other])

@[simp] theorem isDigit_toUpper (c : Char) : c.toUpper.isDigit = c.isDigit := by
  cases lower : c.isLower with
  | true =>
    have alpha := isAlpha_of_isLower lower
    rw [isDigit_of_isAlpha alpha, isDigit_of_isAlpha (by simpa using alpha)]
  | false => rw [toUpper_of_not_isLower lower]

theorem toUpper_eq_underscore_iff : c.toUpper = '_' ↔ c = '_' := by
  cases lower : c.isLower with
  | true =>
    have alpha := isAlpha_of_isLower lower
    exact iff_of_false (ne_underscore_of_isAlpha (by simpa using alpha))
      (ne_underscore_of_isAlpha alpha)
  | false => rw [toUpper_of_not_isLower lower]

theorem toUpper_eq_self_iff : c.toUpper = c ↔ c.isLower = false := by
  refine ⟨fun same => ?_, toUpper_of_not_isLower⟩
  rw [← same, Char.isLower_toUpper_eq_false]

/-! ### Conversion -/

/-- What is converted behind a character. A name is converted as if it stood behind an
underscore. -/
def upperSnakeBehind (p : Char) (name : List Char) : List Char :=
  upperSnakeChars (p = '_') (p.isLower || p.isDigit) name

inductive Piece (p : Char) : Char → List Char → Prop where
  | doubled : p = '_' → Piece p '_' []
  | joint : p ≠ '_' → Piece p '_' ['_']
  | hump {c : Char} : c.isUpper → p.isLower ∨ p.isDigit → Piece p c ['_', c]
  | plain {c : Char} : c ≠ '_' → ¬(c.isUpper ∧ (p.isLower ∨ p.isDigit)) → Piece p c [c.toUpper]

@[simp] theorem upperSnakeBehind_nil (p : Char) : upperSnakeBehind p [] = [] := rfl

theorem upperSnakeBehind_cons (p c : Char) (name : List Char) :
    ∃ piece, Piece p c piece ∧ upperSnakeBehind p (c :: name) = piece ++ upperSnakeBehind c name := by
  simp only [upperSnakeBehind, upperSnakeChars, decide_eq_true_eq]
  split
  next joint =>
    subst joint
    split
    next doubled => exact ⟨[], .doubled doubled, rfl⟩
    next single => exact ⟨['_'], .joint single, rfl⟩
  next letter =>
    split
    next hump =>
      rw [Bool.and_eq_true, Bool.or_eq_true] at hump
      have other : c.isLower = false ∧ c.isDigit = false :=
        ⟨by simpa using Char.not_isLower_of_isUpper hump.1,
          isDigit_of_isAlpha (isAlpha_of_isUpper hump.1)⟩
      exact ⟨['_', c], .hump hump.1 hump.2, by simp [letter, other]⟩
    next flat =>
      rw [Bool.and_eq_true, Bool.or_eq_true] at flat
      exact ⟨[c.toUpper], .plain letter flat, by simp [letter]⟩

theorem noLower_upperSnakeBehind (p : Char) (name : List Char) :
    ∀ c ∈ upperSnakeBehind p name, c.isLower = false := by
  induction name generalizing p with
  | nil => simp
  | cons c name ih =>
    obtain ⟨piece, piecewise, same⟩ := upperSnakeBehind_cons p c name
    rw [same]
    intro d member
    rcases List.mem_append.1 member with here | later
    · cases piecewise with
      | doubled => cases here
      | joint =>
        rw [List.mem_singleton.1 here]
        rfl
      | hump upper =>
        simp only [List.mem_cons, List.not_mem_nil, or_false] at here
        rcases here with rfl | rfl
        · rfl
        · simpa using Char.not_isLower_of_isUpper upper
      | plain => simp [List.mem_singleton.1 here]
    · exact ih c d later

/-- Behind `q`, which stands for `p` in what was converted before. -/
theorem single_upperSnakeBehind (same : q = '_' ↔ p = '_') (name : List Char) :
    NoneBehind (· = '_') (· = '_') (q :: upperSnakeBehind p name) := by
  induction name generalizing p q with
  | nil => simp
  | cons c name ih =>
    obtain ⟨piece, piecewise, converted⟩ := upperSnakeBehind_cons p c name
    rw [converted]
    cases piecewise with
    | doubled doubled => exact ih (by simp [same.2 doubled])
    | joint single =>
      refine noneBehind_cons_cons.2 ⟨?_, ih .rfl⟩
      simp [mt same.1 single]
    | hump upper behind =>
      have letter := ne_underscore_of_isAlpha (isAlpha_of_isUpper upper)
      have single : p ≠ '_' := by
        rintro rfl
        revert behind
        decide
      refine noneBehind_cons_cons.2 ⟨by simp [mt same.1 single], ?_⟩
      exact noneBehind_cons_cons.2 ⟨by simp [letter], ih .rfl⟩
    | plain letter =>
      refine noneBehind_cons_cons.2 ⟨?_, ih toUpper_eq_underscore_iff⟩
      simp [toUpper_eq_underscore_iff, letter]

/-- The upper-case letters behind digits come of lower-case letters behind digits: in front of the
others there is an underscore now. -/
theorem noneBehind_upperSnakeBehind_iff (p : Char) (name : List Char) :
    NoneBehind Char.isDigit Char.isUpper (p.toUpper :: upperSnakeBehind p name) ↔
      NoneBehind Char.isDigit Char.isLower (p :: name) := by
  induction name generalizing p with
  | nil => simp
  | cons c name ih =>
    obtain ⟨piece, piecewise, converted⟩ := upperSnakeBehind_cons p c name
    have next' := ih c
    rw [converted, noneBehind_cons_cons (p := p)]
    cases piecewise with
    | doubled doubled =>
      subst doubled
      simpa using next'
    | joint =>
      rw [List.cons_append, List.nil_append, noneBehind_cons_cons]
      exact and_congr (by simp) next'
    | hump upper behind =>
      have letter := isAlpha_of_isUpper upper
      have other : c.isLower = false := by simpa using Char.not_isLower_of_isUpper upper
      rw [toUpper_of_not_isLower other] at next'
      rw [List.cons_append, List.cons_append, List.nil_append, noneBehind_cons_cons,
        noneBehind_cons_cons, next']
      simp [other]
    | plain letter flat =>
      rw [List.cons_append, List.nil_append, noneBehind_cons_cons, next']
      refine and_congr_left' (not_congr ?_)
      rw [isDigit_toUpper, Char.isUpper_toUpper_eq_isAlpha]
      refine and_congr_right fun digit => ?_
      have notUpper : c.isUpper = false := by
        by_contra upper
        exact flat ⟨by simpa using upper, .inr digit⟩
      simp [Char.isAlpha, notUpper]

/-- A conversion that changes nothing finds nothing to change at any character. -/
theorem upperSnakeBehind_eq_self_iff (other : p.isLower = false) :
    upperSnakeBehind p name = name ↔ (∀ c ∈ name, c.isLower = false) ∧
      NoneBehind (· = '_') (· = '_') (p :: name) ∧
      NoneBehind Char.isDigit Char.isUpper (p :: name) := by
  induction name generalizing p with
  | nil => simp
  | cons c name ih =>
    obtain ⟨piece, piecewise, converted⟩ := upperSnakeBehind_cons p c name
    rw [converted, noneBehind_cons_cons, noneBehind_cons_cons, List.forall_mem_cons]
    cases piecewise with
    | doubled doubled =>
      -- What is converted behind an underscore does not begin with one.
      refine iff_of_false (fun same => ?_) (by simp [doubled])
      have single := single_upperSnakeBehind (q := '_') (p := '_') .rfl name
      rw [List.nil_append] at same
      rw [same, noneBehind_cons_cons] at single
      simp at single
    | joint single =>
      rw [List.cons_append, List.nil_append, List.cons.injEq, ih rfl]
      simp [single]
    | hump upper behind =>
      have letter := ne_underscore_of_isAlpha (isAlpha_of_isUpper upper)
      have digit : p.isDigit := behind.resolve_left (by simp [other])
      refine iff_of_false (fun same => ?_) (by simp [digit, upper])
      exact letter (List.cons.inj same).1.symm
    | plain letter flat =>
      rw [List.cons_append, List.nil_append, List.cons.injEq, toUpper_eq_self_iff]
      have whole : ¬(p.isDigit ∧ c.isUpper) := fun both => flat ⟨both.2, .inr both.1⟩
      by_cases lower : c.isLower = false
      · rw [ih lower]
        simp [lower, letter, whole]
      · simp [lower]

theorem Piece.unique {piece piece' : List Char} (first : Piece p c piece)
    (second : Piece p c piece') : piece = piece' := by
  have letter {d : Char} (upper : d.isUpper) : d ≠ '_' :=
    ne_underscore_of_isAlpha (isAlpha_of_isUpper upper)
  cases first with
  | doubled doubled =>
    cases second with
    | doubled => rfl
    | joint single => exact absurd doubled single
    | hump upper => exact absurd rfl (letter upper)
    | plain other => exact absurd rfl other
  | joint single =>
    cases second with
    | doubled doubled => exact absurd doubled single
    | joint => rfl
    | hump upper => exact absurd rfl (letter upper)
    | plain other => exact absurd rfl other
  | hump upper behind =>
    cases second with
    | doubled | joint => exact absurd rfl (letter upper)
    | hump => rfl
    | plain _ flat => exact absurd ⟨upper, behind⟩ flat
  | plain other flat =>
    cases second with
    | doubled | joint => exact absurd rfl other
    | hump upper behind => exact absurd ⟨upper, behind⟩ flat
    | plain => rfl

/-- A letter behind a digit is a hump in the upper-case spelling, and nothing else is. -/
theorem piece_toUpper (p c : Char) : Piece p.toUpper c.toUpper
    (if c = '_' then if p = '_' then [] else ['_']
      else if p.isDigit ∧ c.isAlpha then ['_', c.toUpper] else [c.toUpper]) := by
  split
  next joint =>
    subst joint
    split
    next doubled => exact .doubled (toUpper_eq_underscore_iff.2 doubled)
    next single => exact .joint (mt toUpper_eq_underscore_iff.1 single)
  next letter =>
    split
    next hump => exact .hump (by simp [hump.2]) (.inr (by simp [hump.1]))
    next flat =>
      have plain := Piece.plain (p := p.toUpper) (mt toUpper_eq_underscore_iff.1 letter)
        (by simpa [and_comm] using flat)
      rwa [Char.toUpper_toUpper_eq_toUpper] at plain

/-- The upper-case spelling is converted alike if it has the humps of the name, and no other. -/
theorem upperSnakeBehind_map_toUpper_iff (p : Char) (name : List Char) :
    upperSnakeBehind p.toUpper (name.map Char.toUpper) = upperSnakeBehind p name ↔
      NoneBehind Char.isLower Char.isUpper (p :: name) ∧
        NoneBehind Char.isDigit Char.isLower (p :: name) := by
  induction name generalizing p with
  | nil => simp
  | cons c name ih =>
    obtain ⟨piece, piecewise, converted⟩ := upperSnakeBehind_cons p c name
    obtain ⟨piece', piecewise', converted'⟩ :=
      upperSnakeBehind_cons p.toUpper c.toUpper (name.map Char.toUpper)
    obtain rfl := piecewise'.unique (piece_toUpper p c)
    rw [List.map_cons, converted, converted', noneBehind_cons_cons, noneBehind_cons_cons]
    have rest := ih c
    cases piecewise with
    | doubled doubled => simpa [doubled] using rest
    | joint single => simpa [single] using rest
    | hump upper behind =>
      have alpha := isAlpha_of_isUpper upper
      have letter := ne_underscore_of_isAlpha alpha
      have other : c.isLower = false := by simpa using Char.not_isLower_of_isUpper upper
      rw [toUpper_of_not_isLower other] at rest ⊢
      cases lower : p.isLower with
      | true =>
        have digit := isDigit_of_isAlpha (isAlpha_of_isLower lower)
        simp [letter, digit, upper]
      | false =>
        have digit : p.isDigit := behind.resolve_left (by simp [lower])
        simpa [letter, alpha, digit, other] using rest
    | plain letter flat =>
      by_cases hump : p.isDigit ∧ c.isAlpha
      · have lower : c.isLower := by
          have notUpper : ¬c.isUpper := fun upper => flat ⟨upper, .inr hump.1⟩
          simpa [Char.isAlpha, notUpper] using hump.2
        have differs : c.toUpper ≠ '_' := mt toUpper_eq_underscore_iff.1 letter
        simp [letter, hump, lower, Ne.symm differs]
      · have noHump : ¬(p.isDigit ∧ c.isLower) :=
          fun both => hump ⟨both.1, isAlpha_of_isLower both.2⟩
        have noCamel : ¬(p.isLower ∧ c.isUpper) := fun both => flat ⟨both.2, .inl both.1⟩
        simpa only [if_neg letter, if_neg hump, noHump, noCamel, not_false_eq_true, true_and,
          List.append_cancel_left_eq] using rest

/-! ### Names -/

theorem toList_toUpperSnake (name : String) :
    (toUpperSnake name).toList = upperSnakeBehind '_' name.toList :=
  String.toList_ofList

theorem upperSnake_toUpperSnake (name : String) : UpperSnake (toUpperSnake name).toList where
  noLower := by
    rw [toList_toUpperSnake]
    exact noLower_upperSnakeBehind '_' name.toList
  single := by
    rw [toList_toUpperSnake]
    exact single_upperSnakeBehind .rfl name.toList

/-- The names that conversion leaves as they are. -/
theorem toUpperSnake_eq_self_iff (name : String) : toUpperSnake name = name ↔
    UpperSnake name.toList ∧ NoneBehind Char.isDigit Char.isUpper name.toList := by
  rw [← String.toList_inj, toList_toUpperSnake, upperSnakeBehind_eq_self_iff rfl,
    @noneBehind_cons _ _ _ Char.isUpper rfl, ← and_assoc]
  exact and_congr_left' ⟨fun ⟨noLower, single⟩ => ⟨noLower, single⟩,
    fun snake => ⟨snake.noLower, snake.single⟩⟩

theorem holds_of_isKeyword {name : String} {p : String → Bool} (all : keywords.all p)
    (reserved : isKeyword name) : p name :=
  List.all_eq_true.1 all name (List.contains_iff_mem.1 reserved)

theorem not_isKeyword_of_noLower {name : String} (noLower : ∀ c ∈ name.toList, c.isLower = false) :
    isKeyword name = false := by
  have lower : keywords.all (·.toList.any Char.isLower) := by decide +kernel
  refine Bool.eq_false_of_not_eq_true fun reserved => ?_
  obtain ⟨c, member, lower⟩ := List.any_eq_true.1 (holds_of_isKeyword lower reserved)
  simp [noLower c member] at lower

/-- A name in `UPPER_SNAKE` is kept unless it begins with a digit or is split behind one. -/
theorem valueName_eq_self_iff {name : String} (snake : UpperSnake name.toList) :
    Enumeration.valueName true name = name ↔
      NoneBehind Char.isDigit Char.isUpper name.toList ∧
        name.toList.head?.any Char.isDigit = false := by
  have plain := not_isKeyword_of_noLower (upperSnake_toUpperSnake name).noLower
  have kept := toUpperSnake_eq_self_iff name
  rw [and_iff_right snake] at kept
  simp only [Enumeration.valueName, if_true, escape, plain, Bool.false_eq_true, if_false]
  split
  next digit =>
    refine iff_of_false (fun same => ?_) fun ⟨whole, other⟩ => ?_
    · -- The underscore in front of the digit cannot have been there before.
      have single := snake.single
      rw [← same] at single
      simp [noneBehind_cons_cons] at single
    · rw [kept.2 whole] at digit
      simp [digit] at other
  next other =>
    rw [kept]
    refine ⟨fun whole => ⟨whole, ?_⟩, And.left⟩
    rw [kept.2 whole] at other
    simpa using other

/-- A conversion undoes nothing of an earlier one exactly if no lower-case letter stands behind a
digit. A flag keeps a name that is in `UPPER_SNAKE`, unless it begins with a digit or has an
upper-case letter behind one. A name and its upper-case spelling are converted alike if the name has
no hump behind a lower-case letter and no lower-case letter behind a digit. -/
theorem toUpperSnake_again_iff :
    (∀ name, toUpperSnake (toUpperSnake name) = toUpperSnake name ↔
      NoneBehind Char.isDigit Char.isLower name.toList) ∧
    (∀ constants, ∀ v ∈ Enumeration.select true constants, ∃ c ∈ constants,
      v.nativeName = c.name ∧ (UpperSnake c.shortName.toList → (v.name = c.shortName ↔
        NoneBehind Char.isDigit Char.isUpper c.shortName.toList ∧
          c.shortName.toList.head?.any Char.isDigit = false))) ∧
    (∀ name, toUpperSnake name.toUpper = toUpperSnake name ↔
      NoneBehind Char.isLower Char.isUpper name.toList ∧
        NoneBehind Char.isDigit Char.isLower name.toList) := by
  refine ⟨fun name => ?_, fun constants v member => ?_, fun name => ?_⟩
  · have whole := noneBehind_upperSnakeBehind_iff '_' name.toList
    rw [toUpperSnake_eq_self_iff, and_iff_right (upperSnake_toUpperSnake name), toList_toUpperSnake,
      ← noneBehind_cons (p := '_') rfl, ← @noneBehind_cons _ '_' _ Char.isLower rfl]
    exact whole
  · obtain ⟨all, lists, same⟩ := Enumeration.exists_lists_select true constants
    rw [same, if_pos rfl] at member
    obtain ⟨c, first, rfl⟩ := lists.first v (List.mem_filter.1 member).1
    exact ⟨c, (List.mem_filter.1 first.mem).1, rfl, valueName_eq_self_iff⟩
  · rw [← String.toList_inj, toList_toUpperSnake, toList_toUpperSnake, String.toUpper,
      String.toList_map, ← @noneBehind_cons _ '_' _ Char.isUpper rfl,
      ← @noneBehind_cons _ '_' _ Char.isLower rfl]
    exact upperSnakeBehind_map_toUpper_iff '_' name.toList

/-- With an underscore behind the digit, the name is kept. -/
theorem uv2_set_kept :
    let set : ConstantDecl := { name := "LAYER_UV2_SET", shortName := "UV2_SET", value := 1 }
    let flag : EnumValue := { name := "UV2_SET", nativeName := "LAYER_UV2_SET", value := 1 }
    flag ∈ Enumeration.select true [set] ∧ UpperSnake set.shortName.toList ∧
      flag.name = set.shortName ∧ toUpperSnake (toUpperSnake "uv2_set") = toUpperSnake "uv2_set" ∧
      toUpperSnake "uv2_set".toUpper = toUpperSnake "uv2_set" := by
  intro set flag
  have member : flag ∈ Enumeration.select true [set] := by decide +kernel
  have snake : UpperSnake set.shortName.toList := by decide +kernel
  obtain ⟨again, kept, spelling⟩ := toUpperSnake_again_iff
  obtain ⟨c, only, -, keeps⟩ := kept [set] flag member
  obtain rfl := List.mem_singleton.1 only
  exact ⟨member, snake, (keeps snake).2 (by decide +kernel), (again _).2 (by decide +kernel),
    (spelling _).2 (by decide +kernel)⟩

/-- Without it the name is split at the second conversion, and so is the flag that has it. -/
theorem uv2set_split :
    toUpperSnake "uv2set" = "UV2SET" ∧ toUpperSnake (toUpperSnake "uv2set") ≠ "UV2SET" ∧
      toUpperSnake "uv2set".toUpper ≠ toUpperSnake "uv2set" ∧ UpperSnake "UV2SET".toList ∧
      Enumeration.select true [{ name := "LAYER_UV2SET", shortName := "UV2SET", value := 1 }] =
        [{ name := "UV2_SET", nativeName := "LAYER_UV2SET", value := 1 }] := by decide +kernel

end Bindery.Ident
