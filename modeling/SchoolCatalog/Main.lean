import SchoolCatalog.Http.Session
import Std.Time.DateTime.Timestamp

/-!
# The catalog as a program

Reads the settings from the environment, tells where the catalog is served, and answers the requests
that arrive on standard input, a line each.
-/

namespace SchoolCatalog

/-- The variables of a list that are set, with their values. -/
def readVariables (names : List String) : IO Environment :=
  names.filterMapM fun name => do
    return (← IO.getEnv name).map (name, ·)

/-- Surroundings at the present time, with salts of a new seed. -/
def surroundingsNow (settings : Settings) : IO Surroundings := do
  let now := (← Std.Time.Timestamp.now).toSecondsSinceUnixEpoch.val
  let seed ← IO.getRandomBytes 32
  return {
    now := now
    instant := fun n => clockStart + now * 1000000 + n
    salt := Password.saltOf seed.toList
    settings := settings }

/-- Answers line after line until the input ends. -/
partial def serveLines (input output : IO.FS.Stream) (session : Http.Session) : IO Unit := do
  let line ← input.getLine
  if line.isEmpty then return
  let session := { session with around := ← surroundingsNow session.around.settings }
  let (reply, session) := session.step (line.takeWhile (· != '\n')).toString
  output.putStrLn reply
  output.flush
  serveLines input output session

end SchoolCatalog

def main : IO UInt32 := do
  let env ← SchoolCatalog.readVariables
    (SchoolCatalog.Settings.variableNames ++ SchoolCatalog.Launch.variableNames)
  match SchoolCatalog.Settings.ofEnvironment env, SchoolCatalog.Launch.ofEnvironment env with
  | .ok settings, .ok launch =>
    IO.eprintln (launch.title ++ " on " ++ launch.host ++ ":" ++ toString launch.port)
    let around ← SchoolCatalog.surroundingsNow settings
    SchoolCatalog.serveLines (← IO.getStdin) (← IO.getStdout) ⟨around, .fresh⟩
    return 0
  | .error failure, _ =>
    IO.eprintln (failure.message?.getD "")
    return 1
  | _, .error failure =>
    IO.eprintln (failure.message?.getD "")
    return 1
