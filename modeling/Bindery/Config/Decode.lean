import Bindery.Config.Basic
import Bindery.Record

/-!
# Configurations from values

The argument `strict` says whether a record that is written as a list may not be longer than its
fields.
-/
namespace Bindery

def CallbackConfig.decode (strict : Bool) : Decoder CallbackConfig :=
  Decoder.record strict ["signature", "trampoline"] fun r => do
    let signature ← r.required "signature" Decoder.text
    let trampoline ← r.optional "trampoline" Decoder.text
    return { signature, trampoline }

def ErrorsConfig.decode (strict : Bool) : Decoder ErrorsConfig :=
  Decoder.record strict ["record", "failure"] fun r => do
    let record ← r.required "record" Decoder.text
    let failure ← r.required "failure" Decoder.text
    return { record, failure }

def PanicsConfig.decode (strict : Bool) : Decoder PanicsConfig :=
  Decoder.record strict ["record", "flag", "message"] fun r => do
    let record ← r.required "record" Decoder.text
    let flag ← r.withDefault "flag" Decoder.text "did_panic"
    let message ← r.withDefault "message" Decoder.text "message"
    return { record, flag, message }

def ElementsConfig.decode (strict : Bool) : Decoder ElementsConfig :=
  Decoder.record strict ["base", "discriminant", "kind_enum"] fun r => do
    let base ← r.required "base" Decoder.text
    let discriminant ← r.withDefault "discriminant" Decoder.text "type"
    let kindEnum ← r.required "kind_enum" Decoder.text
    return { base, discriminant, kindEnum }

def TypesConfig.decode (strict : Bool) : Decoder TypesConfig :=
  Decoder.record strict ["primitives", "string", "blob", "ignore", "default_derive", "raw_lifetime"]
    fun r => do
      let primitives ← r.table "primitives" Decoder.text
      let string ← r.optional "string" Decoder.text
      let blob ← r.optional "blob" Decoder.text
      let ignore ← r.list "ignore" Decoder.text
      let defaultDerive ← r.list "default_derive" Decoder.text
      let rawLifetime ← r.list "raw_lifetime" Decoder.text
      return { primitives, string, blob, ignore, defaultDerive, rawLifetime }

namespace Config

/-- The sections of the library, the prelude and the functions hold few fields each and have no
record of their own. -/
def decode (strict : Bool) : Decoder Config :=
  Decoder.record strict ["library", "prelude", "types", "functions", "callbacks", "errors",
      "panics", "elements"] fun r => do
    let link ← r.required "library" <| Decoder.record strict ["link"] fun s =>
      s.required "link" Decoder.text
    let (preludeModule, preludeImports) ← r.withDefault "prelude"
      (Decoder.record strict ["module", "imports"] fun s => do
        return (← s.optional "module" Decoder.text, ← s.list "imports" Decoder.text)) (none, [])
    let types ← r.withDefault "types" (TypesConfig.decode strict) {}
    let rawOnly ← r.withDefault "functions"
      (Decoder.record strict ["raw_only"] fun s => s.list "raw_only" Decoder.text) []
    let callbacks ← r.table "callbacks" (CallbackConfig.decode strict)
    let errors ← r.optional "errors" (ErrorsConfig.decode strict)
    let panics ← r.optional "panics" (PanicsConfig.decode strict)
    let elements ← r.optional "elements" (ElementsConfig.decode strict)
    return { link, preludeModule, preludeImports, types, rawOnly, callbacks, errors, panics,
             elements }

end Config

end Bindery
