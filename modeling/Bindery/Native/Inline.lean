/-!
# Inline text

Text in a buffer of fixed size with a length beside it.
-/
namespace Bindery

/-- The stored bytes as text, or nothing where they are none. A length past the end of the buffer
stands for all of it. -/
def inlineText (buffer : List UInt8) (length : Nat) : String :=
  (String.fromUTF8? (ByteArray.mk (buffer.take length).toArray)).getD ""

theorem inlineText_of_length_le {buffer : List UInt8} {length : Nat} (h : buffer.length ≤ length) :
    inlineText buffer length = inlineText buffer buffer.length := by
  simp [inlineText, List.take_of_length_le h]

end Bindery
