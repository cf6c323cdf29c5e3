import Bindery.Command.Basic
import Bindery.Workspace

/-!
# Commands on a workspace

A command with the files that it reads and writes held as a value.
-/
namespace Bindery

structure Request where
  command : Command
  /-- The configuration to use, in place of the one that is found from the directory upward. -/
  config : Option String := none
  directory : String := ""
  deriving DecidableEq, Repr

structure Done where
  config : String
  printed : String
  workspace : Workspace

/-- A command that fails leaves the workspace as it is. -/
def Workspace.run (w : Workspace) (r : Request) : Except Failure Done := do
  let path ← configPath w.isFile r.config r.directory
  let config ← loadConfig w.read path
  match ← r.command.run w.read config with
  | .print text => return { config := path, printed := text, workspace := w }
  | .write output text =>
    let written ← attempt .writing output .file (w.write output text)
    return { config := path, printed := "", workspace := written }

end Bindery
