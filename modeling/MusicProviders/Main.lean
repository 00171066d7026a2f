import MusicProviders.Cli.Run
import Std.Time.DateTime.Timestamp

/-! # The command-line program

Reads the arguments and the credentials in the environment, runs the command, prints
its lines, writes its file, and exits with 0 on success, 1 when the command failed
(after `Error: ` and the failure on standard error) and 2 on a usage error.

This program has no HTTP client: its network answers no request, so a command that
needs a provider stops with that provider's request error.
-/

namespace MusicProviders

namespace Cli

/-- The environment variables the command line reads. -/
def environmentNames : List String :=
  ["DEEZER_ACCESS_TOKEN", "DEEZER_APP_ID", "DEEZER_APP_SECRET", "SOUNDCLOUD_CLIENT_ID",
    "SOUNDCLOUD_AUTHORIZATION"]

/-- Print a run's lines, write its file, and report its failure. -/
def emit (outcome : Option Failure × Report) : IO UInt32 := do
  let (failure, report) := outcome
  for line in report.lines do
    IO.println line
  if let some (path, bytes) := report.file then
    IO.FS.writeBinFile path ⟨bytes.toArray⟩
  match failure with
  | none => pure 0
  | some f =>
    IO.eprintln ("Error: " ++ f.debugText)
    pure 1

/-- Sixteen random bytes. -/
def randomBytes : IO Bytes := do
  let mut bytes := []
  for _ in List.range 16 do
    bytes := bytes ++ [UInt8.ofNat (← IO.rand 0 255)]
  pure bytes

end Cli

end MusicProviders

open MusicProviders in
/-- Run the command line. -/
def main (args : List String) : IO UInt32 := do
  let mut env : List (String × String) := []
  for name in Cli.environmentNames do
    if let some v ← IO.getEnv name then
      env := env ++ [(name, v)]
  let found := env
  match Cli.parseArgs (fun name => List.lookup name found) args with
  | .error .help =>
    IO.println Cli.helpText
    pure 0
  | .error (.usage message) =>
    IO.eprintln ("error: " ++ message ++ "\n\nUsage: musicbridge [OPTIONS] <COMMAND>\n\n" ++
      "For more information, try '--help'.")
    pure 2
  | .ok invocation =>
    match invocation.command with
    | .deezer _ (.auth appId appSecret) =>
      for line in Cli.authPrompt appId appSecret do
        IO.println line
      let line ← (← IO.getStdin).getLine
      Cli.emit (Cli.Run.execute (Cli.finishAuth appId appSecret line) Http.Network.unreachable)
    | command =>
      let now := (← Std.Time.Timestamp.now).toSecondsSinceUnixEpoch.val
      let stamp : Deezer.PlaybackStamp := ⟨now, Cli.uuidOfBytes (← Cli.randomBytes)⟩
      Cli.emit (Cli.Run.execute (Cli.runCommand stamp command) Http.Network.unreachable)
