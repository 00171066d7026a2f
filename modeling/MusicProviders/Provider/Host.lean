import MusicProviders.Provider.Error
import MusicProviders.Text.DebugQuote

/-! # Hosts

A host runs provider instances: it knows how many instances of each provider domain it
runs, and it may open interactive sign-in sessions through an authentication helper (a
browser that visits an authorize URL and returns the parameters of the callback).

* `AuthHelper` — the helper's callback URL and what its visit returns: the callback's
  parameters, or a failure.
* `AuthSupport` — a host without sign-in sessions, one that offers them but has no
  helper configured, or one with a helper.
* `Host.instanceCount` — the instance count of a domain, one when not known.
* `Host.authSession` — the helper for a session, or why there is none.
-/

namespace MusicProviders

/-- An authentication helper: where it receives the callback, and what sending the user
to an authorize page gives back: the parameters the callback carries after the user
signed in, or why that failed. -/
structure AuthHelper where
  callbackUrl : String
  callback : Outcome (List (String × String))
deriving DecidableEq, Repr, Inhabited

/-- What a host offers for interactive sign-in. -/
inductive AuthSupport
  /-- No sign-in sessions at all. -/
  | unavailable
  /-- Sign-in sessions, but no helper is configured. -/
  | unconfigured
  /-- Sign-in sessions through this helper. -/
  | helper (h : AuthHelper)
deriving DecidableEq, Repr, Inhabited

/-- A host of provider instances. -/
structure Host where
  /-- Instance counts by domain, in the order they were set. -/
  instances : List (String × Nat)
  auth : AuthSupport
deriving DecidableEq, Repr, Inhabited

namespace Host

/-- A host that knows nothing: one instance of every domain, no sign-in sessions. -/
def minimal : Host := ⟨[], .unavailable⟩

/-- A stand-alone host without instances or helper. -/
def standalone : Host := ⟨[], .unconfigured⟩

/-- Set the instance count of a domain. -/
def withInstances (h : Host) (domain : String) (count : Nat) : Host :=
  { h with instances := (h.instances.filter (·.1 != domain)) ++ [(domain, count)] }

/-- Use an authentication helper. -/
def withAuthHelper (h : Host) (helper : AuthHelper) : Host := { h with auth := .helper helper }

/-- The number of instances of a domain; one when not known. -/
def instanceCount (h : Host) (domain : String) : Nat := (List.lookup domain h.instances).getD 1

/-- The helper for a sign-in session. -/
def authSession (h : Host) (sessionId : String) : Outcome AuthHelper :=
  match h.auth with
  | .unavailable =>
    .error (.notImplemented ("authentication sessions are not available (session " ++ sessionId ++ ")"))
  | .unconfigured =>
    .error (.notImplemented ("no authentication helper configured (session " ++ sessionId ++ ")"))
  | .helper helper => .ok helper

/-- Diagnostic form of a stand-alone host. -/
def debugText (h : Host) : String :=
  let counts := ", ".intercalate (h.instances.map fun (d, n) => Text.debugQuote d ++ ": " ++ toString n)
  let hasHelper := match h.auth with
    | .helper _ => true
    | _ => false
  "StandaloneHost \x7b instances: \x7b" ++ counts ++ "\x7d, auth_helper: " ++ toString hasHelper ++ " \x7d"

end Host

end MusicProviders
