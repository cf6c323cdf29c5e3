import Bindery.Native.Inline

/-!
# Inline texts

What is read from a buffer with a text at its front. A text whose stored form begins that of another
one is itself its beginning. So up to the end of the stored text just the cuts between its characters
are read as a text, as that up to the cut, whatever bytes stand behind.
-/
namespace Bindery

def utf8 (s : String) : List UInt8 := s.toUTF8.data.toList

theorem length_utf8 (s : String) : (utf8 s).length = s.utf8ByteSize := by
  simp [utf8]

theorem utf8_append (p q : String) : utf8 (p ++ q) = utf8 p ++ utf8 q := by
  simp [utf8]

/-- A text that is stored as the beginning of another one is its beginning. -/
theorem exists_append_of_utf8_prefix {p s : String} (first : utf8 p <+: utf8 s) :
    ∃ q, s = p ++ q := by
  obtain ⟨rest, whole⟩ := first
  have bytes : p.toByteArray ++ ByteArray.mk rest.toArray = s.toByteArray := by
    apply ByteArray.ext
    apply Array.toList_inj.1
    simpa [utf8] using whole
  have chars : p.toList.utf8Encode ++ ByteArray.mk rest.toArray = s.toList.utf8Encode := by
    simpa using bytes
  obtain ⟨later, all⟩ := List.isPrefix_of_utf8Encode_append_eq_utf8Encode _ chars
  exact ⟨String.ofList later, String.toList_inj.1 (by simpa using all.symm)⟩

/-- The bytes that are read as a text are those it is stored as. -/
theorem fromUTF8?_eq_some_iff {bytes : List UInt8} {s : String} :
    String.fromUTF8? (ByteArray.mk bytes.toArray) = some s ↔ bytes = utf8 s := by
  rw [String.fromUTF8?]
  constructor
  · intro read
    split at read
    next valid =>
      cases read
      rfl
    next => cases read
  · rintro rfl
    have valid : (ByteArray.mk (utf8 s).toArray).IsValidUTF8 := s.isValidUTF8
    rw [dif_pos valid]
    rfl

theorem inlineText_of_take {buffer : List UInt8} {length : Nat} {s : String}
    (stored : buffer.take length = utf8 s) : inlineText buffer length = s := by
  rw [inlineText, fromUTF8?_eq_some_iff.2 stored, Option.getD_some]

theorem inlineText_of_take_ne {buffer : List UInt8} {length : Nat}
    (other : ∀ s, buffer.take length ≠ utf8 s) : inlineText buffer length = "" := by
  cases read : String.fromUTF8? (ByteArray.mk (buffer.take length).toArray) with
  | none => rw [inlineText, read, Option.getD_none]
  | some s => exact absurd (fromUTF8?_eq_some_iff.1 read) (other s)

/-- Up to the end of a stored text, what stands behind it does not count. -/
theorem take_utf8 {s : String} {length : Nat} (within : length ≤ s.utf8ByteSize)
    (rest : List UInt8) : (utf8 s ++ rest).take length = (utf8 s).take length :=
  List.take_append_of_le_length (by rwa [length_utf8])

/-- Cut between two characters, a stored text is read up to there; cut within one, nothing is read.
Behind the end of the buffer there is nothing to cut. -/
theorem inlineText_exact :
    (∀ (s : String) (rest : List UInt8) (length : Nat), length ≤ s.utf8ByteSize →
      (∀ p q, s = p ++ q → p.utf8ByteSize = length → inlineText (utf8 s ++ rest) length = p) ∧
      ((∀ p q, s = p ++ q → p.utf8ByteSize ≠ length) →
        inlineText (utf8 s ++ rest) length = "")) ∧
    ∀ (buffer : List UInt8) (length : Nat), buffer.length ≤ length →
      inlineText buffer length = inlineText buffer buffer.length := by
  refine ⟨fun s rest length within => ⟨?_, fun inside => ?_⟩, fun buffer length =>
    inlineText_of_length_le⟩
  · rintro p q rfl rfl
    apply inlineText_of_take
    rw [take_utf8 within, utf8_append, ← length_utf8, List.take_left]
  · refine inlineText_of_take_ne fun p stored => ?_
    rw [take_utf8 within] at stored
    obtain ⟨q, whole⟩ := exists_append_of_utf8_prefix (stored ▸ List.take_prefix _ _)
    refine inside p q whole ?_
    rw [← length_utf8, ← stored, List.length_take, length_utf8]
    exact Nat.min_eq_left within

/-- The cut at 6 is behind the third character, the one at 8 within the fourth. -/
theorem price_cut :
    let s := "né€😀"
    let buffer := utf8 s ++ [0xff]
    6 ≤ s.utf8ByteSize ∧ s = "né€" ++ "😀" ∧ "né€".utf8ByteSize = 6 ∧ inlineText buffer 6 = "né€" ∧
      8 ≤ s.utf8ByteSize ∧ (∀ p q, s = p ++ q → p.utf8ByteSize ≠ 8) ∧ inlineText buffer 8 = "" ∧
      buffer.length ≤ 18446744073709551615 ∧
      inlineText buffer 18446744073709551615 = inlineText buffer buffer.length := by
  intro s buffer
  have between : 6 ≤ s.utf8ByteSize := by decide +kernel
  have whole : s = "né€" ++ "😀" := by decide +kernel
  have size : "né€".utf8ByteSize = 6 := by decide +kernel
  have within : 8 ≤ s.utf8ByteSize := by decide +kernel
  have inside : ∀ p q, s = p ++ q → p.utf8ByteSize ≠ 8 := by
    intro p q split size
    have cut : (⟨8⟩ : String.Pos.Raw).IsValid s :=
      String.Pos.Raw.isValid_iff_exists_append.2 ⟨p, q, split, String.Pos.Raw.ext size.symm⟩
    exact absurd cut (by decide +kernel)
  have past : buffer.length ≤ 18446744073709551615 := by decide +kernel
  obtain ⟨stored, clamped⟩ := inlineText_exact
  exact ⟨between, whole, size, (stored s [0xff] 6 between).1 _ _ whole size, within, inside,
    (stored s [0xff] 8 within).2 inside, past, clamped buffer _ past⟩

end Bindery
