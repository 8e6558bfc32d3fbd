import Highlight.Cli

/-!
# The program

Reads the settings from `~/.codelight.toml` when there is such a file, runs the command line on
the real standard input and file system, writes what the run wrote, and exits with its status.
-/

open Highlight

/-- The reason the system gives for an error, in the form `text (os error N)`. -/
def osReason (e : IO.Error) : String :=
  let withCode (details : String) (code : UInt32) : String :=
    details ++ " (os error " ++ toString code ++ ")"
  match e with
  | .noFileOrDirectory _ code _ => withCode "No such file or directory" code
  | .permissionDenied _ code details => withCode details code
  | .inappropriateType _ code details => withCode details code
  | .otherError code details => withCode details code
  | .resourceBusy code details => withCode details code
  | .invalidArgument _ code details => withCode details code
  | _ => toString e

/-- Reads a stream to its end. -/
partial def readStream (s : IO.FS.Stream) (acc : ByteArray) : IO ByteArray := do
  let chunk ← s.read 65536
  if chunk.isEmpty then pure acc else readStream s (acc ++ chunk)

def utf8Text (bytes : ByteArray) : Except Error String :=
  match String.fromUTF8? bytes with
  | some s => .ok s
  | none => .error (.io "stream did not contain valid UTF-8")

def systemSources : Cli.Sources IO where
  stdinText := do
    try
      pure (utf8Text (← readStream (← IO.getStdin) ByteArray.empty))
    catch e => pure (.error (.io (osReason e)))
  fileText := fun path => do
    try
      pure (utf8Text (← IO.FS.readBinFile path))
    catch e => pure (.error (.io (osReason e)))

/-- The settings text, when the home directory has a readable settings file. -/
def readSettings : IO (Option String) := do
  match ← IO.getEnv "HOME" with
  | none => pure none
  | some home =>
    try
      pure (some (← IO.FS.readFile (home ++ "/.codelight.toml")))
    catch _ => pure none

def main (args : List String) : IO UInt32 := do
  let out ← Cli.run systemSources (← readSettings) args
  let stdout ← IO.getStdout
  stdout.putStr out.stdout
  stdout.flush
  let stderr ← IO.getStderr
  stderr.putStr out.stderr
  stderr.flush
  pure out.status.toUInt32
