import Bindery.Config.Parse
import Bindery.Freshness
import Bindery.Json.Printer
import Bindery.Path
import Bindery.Report

/-!
# Commands

What the program does with a description: generate a text, check one or report on the analysis. A
command reads files through a function and answers with one effect.
-/
namespace Bindery

inductive ReportFormat where
  | text
  | json
  deriving DecidableEq, Repr

inductive Command where
  /-- Without an output the text is printed. -/
  | generate (input : String) (output : Option String)
  | check (input output : String)
  | inspect (input : String) (format : ReportFormat)
  deriving DecidableEq, Repr

inductive Effect where
  | print (text : String)
  | write (path text : String)
  deriving DecidableEq, Repr

inductive Activity where
  | loading
  | reading
  | generating
  | parsing
  | analyzing
  | writing
  deriving DecidableEq, Repr

def Activity.text : Activity → String → String
  | loading, path => s!"loading {path}"
  | reading, path => s!"reading {path}"
  | generating, path => s!"generating from {path}"
  | parsing, path => s!"parsing {path}"
  | analyzing, path => s!"analyzing {path}"
  | writing, path => s!"writing {path}"

inductive Cause where
  | error (e : Error)
  | file (fault : FileFault)
  | noConfig
  | stale (output : String) (staleness : Staleness)
  deriving DecidableEq, Repr

/-- Why a command fails, and what it was doing with which file. -/
structure Failure where
  during : Option (Activity × String) := none
  cause : Cause
  deriving DecidableEq, Repr

def configName : String := "ferrule.toml"

def Staleness.message (output : String) : Staleness → String
  | noDigest => s!"{output} has no input digest; regenerate it"
  | otherInput recorded expected =>
    s!"{output} is stale: generated from sha256:{recorded}, input is sha256:{expected}"
  | refused e => e.message
  | otherOutput => s!"{output} is out of date with the current configuration"

def Cause.message : Cause → String
  | error e => e.message
  | file fault => fault.message
  | noConfig => s!"no {configName} found (pass --config)"
  | stale output staleness => staleness.message output

namespace Failure

def context (f : Failure) : List String :=
  (f.during.map fun (activity, path) => activity.text path).toList

def message (f : Failure) : String := ": ".intercalate (f.context ++ [f.cause.message])

end Failure

/-- A step that names what it does should it fail. -/
def attempt (activity : Activity) (path : String) (cause : ε → Cause) (step : Except ε α) :
    Except Failure α :=
  step.mapError fun e => { during := some (activity, path), cause := cause e }

/-- The configuration that is given, or the nearest one from a directory upward. -/
def configPath (isFile : String → Bool) (given : Option String) (directory : String) :
    Except Failure String :=
  match given with
  | some path => .ok path
  | none =>
    let places := (directory :: Path.parents directory).map (Path.join · configName)
    match places.find? isFile with
    | some path => .ok path
    | none => .error { cause := .noConfig }

def loadConfig (read : String → Except FileFault String) (path : String) :
    Except Failure Config :=
  attempt .loading path .error do
    let text ← (read path).mapError .unreadable
    Config.parse text

def Report.render (r : Report) : ReportFormat → String
  | .text => r.text
  | .json => Json.pretty 0 r.encode ++ "\n"

namespace Command

def input : Command → String
  | generate input _ | check input _ | inspect input _ => input

def run (read : String → Except FileFault String) (config : Config) (c : Command) :
    Except Failure Effect := do
  let text ← attempt .reading c.input .file (read c.input)
  match c with
  | generate input output =>
    let source ← attempt .generating input .error (Bindery.generate text config)
    return match output with
      | some path => .write path source
      | none => .print source
  | check input output =>
    let existing ← attempt .reading output .file (read output)
    match freshness text config existing with
    | .ok () => return .print s!"{output}: up to date\n"
    | .error (.refused e) => throw { during := some (.generating, input), cause := .error e }
    | .error staleness => throw { cause := .stale output staleness }
  | inspect input format =>
    let description ← attempt .parsing input .error (Description.parse text)
    let analysis ← attempt .analyzing input .error ({ description, config } : Library).analyze
    return .print (analysis.report.render format)

end Command

end Bindery
