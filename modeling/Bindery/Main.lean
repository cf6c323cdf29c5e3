import Bindery.Command.Options

/-!
# The program

Reads the files that a command names, runs it and does what it answers.
-/
namespace Bindery

def faultOf : IO.Error → FileFault
  | .noFileOrDirectory .. => .notFound
  | .inappropriateType .. => .isDirectory
  | e => .other (toString e)

def readText (path : String) : IO (Except FileFault String) := do
  try
    let bytes ← IO.FS.readBinFile path
    return match String.fromUTF8? bytes with
      | some text => .ok text
      | none => .error .notText
  catch e => return .error (faultOf e)

def readAll (paths : List String) : IO (String → Except FileFault String) := do
  let files ← paths.mapM fun path => return (path, ← readText path)
  return fun path => (files.lookup path).getD (.error .notFound)

def Command.paths : Command → List String
  | generate input _ | inspect input _ => [input]
  | check input output => [input, output]

def perform : Effect → IO (Except Failure Unit)
  | .print text => do
    IO.print text
    return .ok ()
  | .write path text => do
    try
      IO.FS.writeFile path text
      IO.eprintln s!"Wrote {path} ({text.utf8ByteSize} bytes)"
      return .ok ()
    catch e => return attempt .writing path .file (.error (faultOf e))

def Request.perform (r : Request) : IO (Except Failure Unit) := do
  let places := (r.directory :: Path.parents r.directory).map (Path.join · configName)
  let configs ← readAll (r.config.toList ++ places)
  let isFile (path : String) : Bool := match configs path with
    | .error .notFound | .error .isDirectory => false
    | _ => true
  let plan : Except Failure Config := do
    loadConfig configs (← configPath isFile r.config r.directory)
  match plan with
  | .error f => return .error f
  | .ok config =>
    match r.command.run (← readAll r.command.paths) config with
    | .error f => return .error f
    | .ok effect => Bindery.perform effect

end Bindery

open Bindery

def main (args : List String) : IO UInt32 := do
  let directory := (← IO.currentDir).toString
  match Request.ofWords directory args with
  | .error fault =>
    IO.eprintln s!"error: {fault.message}"
    return 2
  | .ok request =>
    match ← request.perform with
    | .ok () => return 0
    | .error f =>
      IO.eprintln s!"error: {f.message}"
      return 1
