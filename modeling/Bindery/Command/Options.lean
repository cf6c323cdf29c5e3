import Bindery.Command.Request

/-!
# Command line options

A command is its name and named options, in any order and each at most once.
-/
namespace Bindery

inductive UsageFault where
  | noCommand
  | unknownCommand (name : String)
  | unknownOption (name : String)
  | repeated (name : String)
  | noValue (name : String)
  | missing (name : String)
  | badFormat (value : String)
  deriving DecidableEq, Repr

def UsageFault.message : UsageFault → String
  | noCommand => "a command is needed: generate, check or inspect"
  | unknownCommand name => s!"unknown command '{name}'"
  | unknownOption name => s!"unexpected argument '{name}'"
  | repeated name => s!"the argument '--{name}' cannot be used more than once"
  | noValue name => s!"a value is required for '--{name}'"
  | missing name => s!"the argument '--{name}' is required"
  | badFormat value => s!"invalid value '{value}' for '--format': text or json"

abbrev Options := List (String × String)

namespace Options

def add (o : Options) (name value : String) : Except UsageFault Options :=
  if (o.lookup name).isSome then .error (.repeated name) else .ok (o ++ [(name, value)])

/-- A value stands behind its option or, after an equals sign, in it. -/
def parse (known : List String) : List String → Except UsageFault Options
  | [] => .ok []
  | word :: rest =>
    match known.find? fun name => word = "--" ++ name with
    | some name =>
      match rest with
      | [] => .error (.noValue name)
      | value :: rest => do (← parse known rest).add name value
    | none =>
      match known.find? fun name => word.startsWith ("--" ++ name ++ "=") with
      | some name => do (← parse known rest).add name ((word.drop (name.length + 3)).toString)
      | none => .error (.unknownOption word)

def require (o : Options) (name : String) : Except UsageFault String :=
  match o.lookup name with
  | some value => .ok value
  | none => .error (.missing name)

def format (o : Options) : Except UsageFault ReportFormat :=
  match o.lookup "format" with
  | none | some "text" => .ok .text
  | some "json" => .ok .json
  | some value => .error (.badFormat value)

end Options

def Request.ofWords (directory : String) : List String → Except UsageFault Request
  | [] => .error .noCommand
  | "generate" :: rest => do
    let o ← Options.parse ["input", "config", "output"] rest
    let command := Command.generate (← o.require "input") (o.lookup "output")
    return { command, config := o.lookup "config", directory }
  | "check" :: rest => do
    let o ← Options.parse ["input", "config", "output"] rest
    let command := Command.check (← o.require "input") (← o.require "output")
    return { command, config := o.lookup "config", directory }
  | "inspect" :: rest => do
    let o ← Options.parse ["input", "config", "format"] rest
    let command := Command.inspect (← o.require "input") (← o.format)
    return { command, config := o.lookup "config", directory }
  | name :: _ => .error (.unknownCommand name)

end Bindery
