import TapeMachine.Machine.Document
import TapeMachine.Workspace.Job
/-!
# Machine files

* `Definition.load` : the definition in a file, named after the file unless the document names it.
-/

namespace TapeMachine

/-- The definition in the file of a path. Messages name the path in normal form. -/
def Definition.load (path : Json) : Job Definition := do
  let path ← Path.ofJson path
  if !(← Job.askFiles (·.probe path.text)) then
    throw (.file (.noMachine path.text))
  let text ← Job.readText path.text
  Job.ofExcept (Definition.ofText text (.str path.stem))

end TapeMachine
