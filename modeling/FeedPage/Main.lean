-- SUMMARY: The command: settings from the environment, and the page for the requests of the standard input.
import FeedPage.Http
import FeedPage.Publish
import FeedPage.Settings

/-!
# The command

The command reads its settings from the environment and logs them to the standard error. Unless they
are refused, it answers the requests of the standard input, one a line: a method, a space and a
target. Each answer is a status on a line of its own and the bytes of the body. The web that is
published from is empty, because there is no network at hand.
-/

namespace FeedPage.Main

/-- Writes log entries. -/
def writeLog (log : List LogEntry) : IO Unit := do
  for e in log do
    let level := match e.level with
      | .info => "INFO"
      | .error => "ERROR"
    IO.eprintln (level ++ ":root:" ++ String.ofList e.message)

/-- The request of a line. -/
def request (line : Text) : Http.Request :=
  let (method, target) := Text.partition ' ' (Text.trim line)
  { method, target }

/-- Answers the requests of the standard input until it ends. -/
partial def serve (web : Web) : IO Unit := do
  let line ← (← IO.getStdin).getLine
  if line.isEmpty then return
  let o := Http.respond publish (request line.toList) web
  writeLog o.log
  match o.result with
  | .error _ => IO.println "500"
  | .ok response =>
    IO.println (String.ofList (Text.ofNat response.status))
    let output ← IO.getStdout
    output.write ⟨((response.body.getD []).map fun c => UInt8.ofNat c.toNat).toArray⟩
    output.flush
  serve o.web

/-- The variable of the environment. -/
def setting? (name : String) : IO (Option Text) := return (← IO.getEnv name).map String.toList

end FeedPage.Main

open FeedPage in
/-- Serves the page with the settings of the environment. -/
def main : IO Unit := do
  let (settings, log) := Settings.ofEnvironment
    { host := ← Main.setting? "LIBRARY_PAGE_HOST"
      port := ← Main.setting? "LIBRARY_PAGE_PORT"
      debug := ← Main.setting? "LIBRARY_PAGE_DEBUG" }
  Main.writeLog log
  if settings.isSome then Main.serve {}
