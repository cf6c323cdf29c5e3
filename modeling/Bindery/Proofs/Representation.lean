import Bindery.Item.Enum
import Bindery.Json.Token
import Bindery.Proofs.Enumeration
import Mathlib.Algebra.Ring.Int.Defs

/-!
# Numbers of an enum in 32 bits

What is written of the values of an enum: a closed one has each of them in full, under a
representation that is chosen from their signs alone, and a set of flags has each cut to its low
half.
-/
namespace Bindery

theorem hexValue?_digitChar {n : Nat} (small : n < 16) : Json.hexValue? n.digitChar = some n := by
  revert n
  decide

/-- Digits that are written are read back as the number. -/
theorem hexNumber?_toDigits (n : Nat) : Json.hexNumber? (Nat.toDigits 16 n) = some n := by
  induction n using Nat.strongRecOn with
  | ind n ih =>
    by_cases small : n < 16
    · rw [Nat.toDigits_of_lt_base small]
      simp [Json.hexNumber?, hexValue?_digitChar small]
    · have before := ih (n / 16) (by omega)
      have last := hexValue?_digitChar (n := n % 16) (by omega)
      rw [Nat.toDigits_of_base_le (by decide) (by omega)]
      unfold Json.hexNumber? at before ⊢
      rw [List.foldlM_append, before]
      simp [last]
      omega

namespace Enumeration

variable {v w : Int64} {e : Enumeration}

theorem toNat_flagBits (v : Int64) : ((flagBits v).toNat : Int) = v.toInt % 2 ^ 32 := by
  have signed : v.toInt = (v.toUInt64.toNat : Int) ∨
      v.toInt = (v.toUInt64.toNat : Int) - 2 ^ 64 := by
    unfold Int64.toInt BitVec.toInt
    split
    · exact .inl rfl
    · exact .inr rfl
  unfold flagBits
  rw [UInt64.toNat_toUInt32]
  omega

/-- Nothing is cut off a value that is not negative and has no more than 32 bits. -/
theorem toNat_flagBits_eq_iff :
    ((flagBits v).toNat : Int) = v.toInt ↔ 0 ≤ v.toInt ∧ v.toInt < 2 ^ 32 := by
  rw [toNat_flagBits]
  omega

theorem flagBits_eq_iff : flagBits v = flagBits w ↔ (2 : Int) ^ 32 ∣ v.toInt - w.toInt := by
  have left := toNat_flagBits v
  have right := toNat_flagBits w
  rw [← UInt32.toNat_inj]
  omega

theorem flagBits_eq_zero_iff : flagBits v = 0 ↔ (2 : Int) ^ 32 ∣ v.toInt := by
  have zero := flagBits_eq_iff (v := v) (w := 0)
  rwa [Int64.toInt_zero, Int.sub_zero] at zero

def Fits (representation : String) (n : Int) : Prop :=
  (representation = "u32" ∧ 0 ≤ n ∧ n < 2 ^ 32) ∨
    (representation = "i32" ∧ -2 ^ 31 ≤ n ∧ n < 2 ^ 31)

def FitOne (values : List EnumValue) : Prop :=
  (∀ v ∈ values, 0 ≤ v.value.toInt ∧ v.value.toInt < 2 ^ 32) ∨
    ∀ v ∈ values, -2 ^ 31 ≤ v.value.toInt ∧ v.value.toInt < 2 ^ 31

theorem isSigned_iff : e.isSigned ↔ ∃ v ∈ e.values, v.value.toInt < 0 := by
  unfold isSigned
  simp [List.any_eq_true, Int64.lt_iff_toInt_lt]

/-- The sign alone chooses a representation that holds all values wherever one does. -/
theorem forall_fits_iff :
    (∀ v ∈ e.values, Fits e.representation v.value.toInt) ↔ FitOne e.values := by
  by_cases signed : e.isSigned
  · have some : e.representation = "i32" := if_pos signed
    obtain ⟨least, inside, negative⟩ := isSigned_iff.1 signed
    simp only [Fits, some, FitOne, String.reduceEq, false_and, true_and, false_or]
    refine ⟨.inr, ?_⟩
    rintro (unsigned | signed)
    · exact absurd (unsigned least inside).1 (by omega)
    · exact signed
  · have none : e.representation = "u32" := if_neg signed
    have least : ∀ v ∈ e.values, 0 ≤ v.value.toInt := by
      intro v inside
      by_contra negative
      exact signed (isSigned_iff.2 ⟨v, inside, by omega⟩)
    simp only [Fits, none, FitOne, String.reduceEq, false_and, true_and, or_false]
    refine ⟨.inl, ?_⟩
    rintro (unsigned | signed)
    · exact unsigned
    · intro v inside
      have above := least v inside
      have below := (signed v inside).2
      omega

/-- Values of one representation stay apart when they are cut. -/
theorem FitOne.flagBits_inj {values : List EnumValue} (fit : FitOne values) {a b : EnumValue}
    (inside : a ∈ values) (inside' : b ∈ values) (same : flagBits a.value = flagBits b.value) :
    a.value = b.value := by
  have divides := flagBits_eq_iff.1 same
  rw [← Int64.toInt_inj]
  rcases fit with unsigned | signed
  · have bound := unsigned a inside
    have bound' := unsigned b inside'
    omega
  · have bound := signed a inside
    have bound' := signed b inside'
    omega

theorem FitOne.flagBits_ne_zero {values : List EnumValue} (fit : FitOne values) {a : EnumValue}
    (inside : a ∈ values) (nonzero : a.value ≠ 0) : flagBits a.value ≠ 0 := by
  intro zero
  have divides := flagBits_eq_zero_iff.1 zero
  apply nonzero
  rw [← Int64.toInt_inj, Int64.toInt_zero]
  rcases fit with unsigned | signed
  · have bound := unsigned a inside
    omega
  · have bound := signed a inside
    omega

theorem steps_item_of_closed (closed : e.isFlag = false) : ∃ rest, e.item.steps =
    .line ("#[repr(" ++ e.representation ++ ")]") ::
    .line "#[derive(Clone, Copy, PartialEq, Eq, Hash, Debug)]" ::
    .braces ("pub enum " ++ e.name)
      (e.values.map fun v => .line (v.name ++ " = " ++ toString v.value.toInt ++ ",")) :: rest := by
  rw [item, closed, if_neg Bool.false_ne_true, EnumItem.steps.eq_def]
  dsimp only
  rw [List.map_map]
  exact ⟨_, rfl⟩

theorem steps_item_of_isFlag (flags : e.isFlag) : e.item.steps =
    [.braces "native_flags!" [.braces ("pub struct " ++ e.name) (e.values.map fun v =>
      .line ("const " ++ v.name ++ " = 0x" ++ EnumItem.hexText (flagBits v.value) ++ ";"))]] := by
  rw [item, if_pos flags, EnumItem.steps, List.map_map]
  rfl

end Enumeration

namespace Description

open Enumeration

variable {d : Description} {config : Config} {e : EnumDecl} {en : Enumeration}

/-- A closed enum is written under a representation that holds all its discriminants just where one
of the two does. A flag is written as its value up to multiples of `2 ^ 32`, and as the value itself
just where that is an unsigned number of 32 bits. So two flags may be written alike, and one that is
not zero as zero, though not where one representation holds all values. -/
theorem enumeration_written (run : d.enumeration config e = .ok en) :
    (en.values.map (·.value)).Nodup ∧
    (e.isFlag = false →
      (∃ rest, en.item.steps =
        .line ("#[repr(" ++ en.representation ++ ")]") ::
        .line "#[derive(Clone, Copy, PartialEq, Eq, Hash, Debug)]" ::
        .braces ("pub enum " ++ en.name) (en.values.map fun v =>
          .line (v.name ++ " = " ++ toString v.value.toInt ++ ",")) :: rest) ∧
      ((∀ v ∈ en.values, Fits en.representation v.value.toInt) ↔ FitOne en.values)) ∧
    (e.isFlag →
      en.item.steps = [.braces "native_flags!" [.braces ("pub struct " ++ en.name)
        (en.values.map fun v =>
          .line ("const " ++ v.name ++ " = 0x" ++ EnumItem.hexText (flagBits v.value) ++ ";"))]] ∧
      (∀ v ∈ en.values,
        Json.hexNumber? (EnumItem.hexText (flagBits v.value)).toList =
          some (flagBits v.value).toNat ∧
        ((flagBits v.value).toNat : Int) = v.value.toInt % 2 ^ 32 ∧
        (((flagBits v.value).toNat : Int) = v.value.toInt ↔
          0 ≤ v.value.toInt ∧ v.value.toInt < 2 ^ 32) ∧
        (flagBits v.value = 0 ↔ (2 : Int) ^ 32 ∣ v.value.toInt) ∧
        ∀ w ∈ en.values, flagBits v.value = flagBits w.value ↔
          (2 : Int) ^ 32 ∣ v.value.toInt - w.value.toInt) ∧
      (FitOne en.values → (en.values.map (flagBits ·.value)).Nodup ∧
        ∀ v ∈ en.values, v.value ≠ 0 → flagBits v.value ≠ 0)) := by
  have distinct := enumeration_values_nodup run
  have kind := enumeration_isFlag run
  refine ⟨distinct, fun closed => ?_, fun flags => ⟨?_, fun v _ => ?_, fun fit => ?_⟩⟩
  · exact ⟨steps_item_of_closed (kind.trans closed), forall_fits_iff⟩
  · exact steps_item_of_isFlag (kind.trans flags)
  · refine ⟨?_, toNat_flagBits _, toNat_flagBits_eq_iff, flagBits_eq_zero_iff,
      fun w _ => flagBits_eq_iff⟩
    rw [EnumItem.hexText, String.toList_ofList, hexNumber?_toDigits]
  · refine ⟨?_, fun v => fit.flagBits_ne_zero⟩
    rw [List.nodup_map_iff_inj_on (distinct.of_map _)]
    intro v inside w inside' same
    exact List.inj_on_of_nodup_map distinct inside inside' (fit.flagBits_inj inside inside' same)

def wide : EnumDecl where
  name := "wide"
  shortName := "wide"
  values := ["LOW", "HIGH", "TOP"]
  isFlag := true

def wideFlags : Description where
  constants := .ofList [("LOW", { name := "LOW", shortName := "LOW", value := 1 }),
    ("HIGH", { name := "HIGH", shortName := "HIGH", value := 0x100000001 }),
    ("TOP", { name := "TOP", shortName := "TOP", value := 0x100000000 })]
  enums := .ofList [("wide", wide)]
  declarations := [⟨.enum, "wide"⟩]

/-- Two flags of different values are written alike, and one that is not zero as zero. -/
theorem wideFlags_written : ∃ en low high top,
    wideFlags.enumeration { link := "wide" } wide = .ok en ∧ en.values = [low, high, top] ∧
    low.value ≠ high.value ∧ flagBits low.value = flagBits high.value ∧
    top.value ≠ 0 ∧ flagBits top.value = 0 := by
  have checked : (match wideFlags.enumeration { link := "wide" } wide with
      | .ok en => decide (en.values = [⟨"LOW", "LOW", 1⟩, ⟨"HIGH", "HIGH", 0x100000001⟩,
          ⟨"TOP", "TOP", 0x100000000⟩])
      | .error _ => false) = true := by decide +kernel
  split at checked
  next en run =>
    have values := of_decide_eq_true checked
    obtain ⟨_, each, _⟩ := (enumeration_written run).2.2 rfl
    rw [values] at each
    obtain ⟨_, _, _, _, others⟩ := each ⟨"LOW", "LOW", 1⟩ (by simp)
    obtain ⟨_, _, _, zero, _⟩ := each ⟨"TOP", "TOP", 0x100000000⟩ (by simp)
    refine ⟨_, _, _, _, run, values, by decide, ?_, by decide, ?_⟩
    · exact (others ⟨"HIGH", "HIGH", 0x100000001⟩ (by simp)).2 (by decide)
    · exact zero.2 (by decide)
  next => cases checked

end Description

end Bindery
