import Highlight.Program

/-!
The command line program: files of the operating system, and reports on standard error.
-/

namespace Highlight

def succeeds (action : IO Unit) : IO Bool := do
  try
    action
    return true
  catch _ => return false

def systemHost : Host IO where
  read path := do
    try return .ok (← IO.FS.readFile (String.ofList path)).toList
    catch
      | .noFileOrDirectory _ _ _ => return .error .missing
      | _ => return .error .unusable
  makeDirectories path :=
    if path.isEmpty then return true else succeeds (IO.FS.createDirAll (String.ofList path))
  write path contents :=
    succeeds (IO.FS.writeFile (String.ofList path) (String.ofList contents))
  rename source target := succeeds (IO.FS.rename (String.ofList source) (String.ofList target))
  remove path := discard (succeeds (IO.FS.removeFile (String.ofList path)))
  report entry := do (← IO.getStderr).putStr (String.ofList entry.line)

end Highlight

def main (arguments : List String) : IO UInt32 := do
  let outcome ← Highlight.Program.run Highlight.systemHost (arguments.map String.toList)
  (← IO.getStdout).putStr (String.ofList outcome.output)
  (← IO.getStderr).putStr (String.ofList outcome.errors)
  return UInt32.ofNat outcome.code
