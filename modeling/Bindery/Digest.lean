import Bindery.Sha256
import Bindery.Text

/-!
# Input digests

The digest of an interface description stands in a header line of the text generated from it.
-/
namespace Bindery.Digest

def marker : String := "// input-digest: sha256:"

def ofBytes (bytes : List UInt8) : String := Sha256.hex bytes

def ofText (text : String) : String := ofBytes text.toUTF8.toList

def line (digest : String) : String := marker ++ digest

def ofLine? (line : List Char) : Option String :=
  if marker.toList.isPrefixOf line then
    some (String.ofList (Text.trim (line.drop marker.length)))
  else none

/-- The digest recorded in one of the first eight lines. -/
def recorded? (source : String) : Option String :=
  ((Text.lines source.toList).take 8).findSome? ofLine?

end Bindery.Digest
