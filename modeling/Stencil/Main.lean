import Stencil.Command.Run

/-!
# The command line

Reads the files that a request names, and writes its outcome.
-/

set_option autoImplicit false

namespace Stencil.Command

def Request.paths : Request → List Text
  | .render _ options =>
      options.file :: (options.data.toList ++ options.delimiters.toList)
  | .check _ options => options.files ++ options.delimiters.toList
  | .tokens _ options => options.file :: options.delimiters.toList
  | .version | .help => []

/-- Reads a file, if there is one. -/
def readFile? (path : Text) : IO (Option ByteArray) := do
  try
    return some (← IO.FS.readBinFile (String.ofList path))
  catch _ => return none

def readFiles (arguments : List Text) : IO Files := do
  match Request.read arguments with
  | .error _ => return fun _ => none
  | .ok request =>
      let contents ← request.paths.mapM fun path => return (path, ← readFile? path)
      return fun path => (Dictionary.get? contents path).join

end Stencil.Command

def main (arguments : List String) : IO UInt32 := do
  let arguments := arguments.map String.toList
  let outcome := Stencil.Command.run (← Stencil.Command.readFiles arguments) arguments
  (← IO.getStdout).putStr (String.ofList outcome.output)
  (← IO.getStderr).putStr (String.ofList outcome.errors)
  return outcome.code.toUInt32
