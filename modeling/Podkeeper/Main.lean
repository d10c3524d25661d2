/-
The command.

The command shows the settings that are in force for its arguments, the environment and the file
that the arguments name, or says why there are none. All decisions are those of
`Settings.layered`; here files and the environment are read and texts are shown.
-/

import Podkeeper.Files.Tree
import Podkeeper.Json.Printer
import Podkeeper.Settings.Startup

open Podkeeper

/-- The wording of a failure to read a file. -/
def fileReason (e : IO.Error) : String :=
  match e with
  | .noFileOrDirectory _ _ _ => FileError.notFound.message
  | .inappropriateType _ _ _ => FileError.isDirectory.message
  | e => toString e

/-- The bytes of a file, or why they cannot be read. -/
def readBytes (path : String) : IO (Except String Bytes) := do
  try
    return .ok (← IO.FS.readBinFile path).toList
  catch e =>
    return .error (fileReason e)

def main (words : List String) : IO UInt32 := do
  match Arguments.parse words with
  | .error misuse =>
    let out ← if misuse.exitCode = 0 then IO.getStdout else IO.getStderr
    out.putStrLn misuse.message
    return misuse.exitCode
  | .ok arguments =>
    let environment ← Settings.environmentNames.mapM fun name => return (name, ← IO.getEnv name)
    let contents ← match arguments.config with
      | some path => readBytes path
      | none => pure (.ok [])
    match Settings.layered (fun _ => contents) (environment.lookup · |>.join) arguments with
    | .ok settings =>
      IO.println settings.encode.render
      return 0
    | .error failed =>
      IO.eprintln failed.text
      return 1
