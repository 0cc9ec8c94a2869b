import Lifecycle.Log.Format
import Lifecycle.Program.Run
import Std.Time.DateTime

/-!
# The program

Reads the files that a run needs, runs `Program.run` and writes what it comes to.
-/

namespace Lifecycle

/-- Whether an error code is that of the system, with either sign. -/
def isSystemCode (code system : UInt32) : Bool := code == system || code == 0 - system

/-- The cause of a failure to read a file. -/
def ReadError.ofIO (e : IO.Error) : ReadError :=
  match e with
  | .noFileOrDirectory _ _ _ => .notFound
  | .inappropriateType _ code _ => if isSystemCode code 21 then .isDirectory else .notDirectory
  | .invalidArgument _ code _ => if isSystemCode code 36 then .nameTooLong else .other (toString e)
  | e => .other (toString e)

/-- The bytes of a file, with the path that they were read from. -/
def readFile (path : String) : IO (String × Except ReadError ByteArray) := do
  if path.contains '\x00' then return (path, .error .nulInPath)
  try
    return (path, .ok (← IO.FS.readBinFile path))
  catch e =>
    return (path, .error (ReadError.ofIO e))

/-- The environment of the process. -/
def processEnvironment : IO Environment := do
  let (_, bytes) ← readFile "/proc/self/environ"
  let text := (bytes.bind textOfBytes).toOption.getD ""
  return ⟨(text.splitOn "\x00").filterMap fun entry =>
    match entry.splitOn "=" with
    | name :: value :: rest => some (name, "=".intercalate (value :: rest))
    | _ => none⟩

/-- The files of a run, read once. -/
def readerOf (files : List (String × Except ReadError ByteArray)) : FileReader := fun path =>
  (files.lookup path).getD (.error .notFound)

end Lifecycle

open Lifecycle in
/-- **The command line of the program.** -/
def main (words : List String) : IO UInt32 := do
  let env ← processEnvironment
  let files ← Environment.standardFiles.mapM readFile
  let manifest := (Program.manifest? (readerOf files) env words).toList
  let files := files ++ (← manifest.mapM readFile)
  let stdout ← IO.getStdout
  let now ← Std.Time.Timestamp.now
  let microseconds := now.toNanosecondsSinceUnixEpoch.val.toNat / 1000
  let outcome :=
    Program.run (readerOf files) env (← stdout.isTty) (timeText microseconds) words
  stdout.putStr outcome.stdout
  (← IO.getStderr).putStr outcome.stderr
  return outcome.exitCode.toUInt32
