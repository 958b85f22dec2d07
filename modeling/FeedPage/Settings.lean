-- SUMMARY: The settings of the server, read from the environment.
import FeedPage.Log
import FeedPage.Text.Case
import FeedPage.Text.Integer

/-!
# Settings

The environment tells host, port and debug mode; each has a default. The port is an integer; a port
that is none is logged, and nothing is served.
-/

namespace FeedPage

/-- The variables of the environment that matter; a variable may be unset. -/
structure Environment where
  host : Option Text := none
  port : Option Text := none
  debug : Option Text := none
  deriving DecidableEq, Repr

/-- How the pages are served. -/
structure Settings where
  host : Text
  port : Int
  debug : Bool
  deriving DecidableEq, Repr

namespace Settings

/-- The host where none is set. -/
def defaultHost : Text := "127.0.0.1".toList

/-- The port where none is set. -/
def defaultPort : Text := "8080".toList

/-- The settings that an environment gives, unless its port is refused, and what is logged. -/
def ofEnvironment (env : Environment) : Option Settings × List LogEntry :=
  let host := env.host.getD defaultHost
  let port := env.port.getD defaultPort
  let debug := Text.lower (env.debug.getD "false".toList) = "true".toList
  match Text.integer? port with
  | none => (none, [.badPort port])
  | some n => (some ⟨host, n, debug⟩, [.serving host n])

end Settings
end FeedPage
