import ItabRecovery.CommandLine

/-!
# The program

Reads the file that the arguments name, and writes what `CommandLine` makes of it.
-/

namespace ItabRecovery.CommandLine

def fileError : IO.Error → FileError
  | .noFileOrDirectory .. => .notFound
  | .inappropriateType _ 20 _ => .notDirectory
  | .inappropriateType .. => .isDirectory
  | .permissionDenied .. => .permissionDenied
  | e => .other e.toString

/-- The bytes at a path, or why there are none. -/
def readFile (path : String) : IO (Except FileError ByteArray) := do
  try
    return .ok (← IO.FS.readBinFile path)
  catch e => return .error (fileError e)

/-- Colours are forced or refused by the environment, and else used on terminals only. -/
def usesColor : IO Bool := do
  let isOn (name : String) : IO (Option Bool) := return (← IO.getEnv name).map (· != "0")
  if (← isOn "CLICOLOR_FORCE") == some true then return true
  if (← isOn "NO_COLOR").isSome then return false
  let terminal ← (← IO.getStdout).isTty
  return terminal && (← isOn "CLICOLOR").getD true

def program (args : List String) : IO Outcome := do
  match Request.ofArgs args with
  | none => return .usage
  | some request =>
    let file ← match request.path? with
      | some path => readFile path
      | none => pure (.error .notFound)
    return request.run (← usesColor) file

end ItabRecovery.CommandLine

def main (args : List String) : IO UInt32 := do
  let outcome ← ItabRecovery.CommandLine.program args
  IO.print outcome.stdout
  IO.eprint outcome.stderr
  return outcome.exit.toUInt32
