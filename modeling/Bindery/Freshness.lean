import Bindery.Source

/-!
# Freshness

Whether a generated text is the one that its input and configuration give now.
-/
namespace Bindery

inductive Staleness where
  | noDigest
  | otherInput (recorded expected : String)
  /-- The input gives no text at all. -/
  | refused (error : Error)
  | otherOutput
  deriving DecidableEq, Repr

/-- Compares digests first, which tells a changed input from a changed configuration. -/
def freshness (input : String) (config : Config) (existing : String) : Except Staleness Unit :=
  let expected := Digest.ofText input
  match Digest.recorded? existing with
  | none => .error .noDigest
  | some recorded =>
    if recorded ≠ expected then .error (.otherInput recorded expected)
    else match generate input config with
      | .error e => .error (.refused e)
      | .ok source => if source = existing then .ok () else .error .otherOutput

end Bindery
