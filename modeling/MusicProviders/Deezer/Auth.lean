import MusicProviders.Provider.Error
import MusicProviders.Text.FormEncode
import MusicProviders.Text.DebugQuote

/-! # Deezer sign-in

Deezer signs users in with OAuth: the user approves the application at the authorize
URL, a relay sends the approval code back to the callback given as `state`, and the code
is exchanged for an access token at the token URL.

* `OAuthApp` — the application's id and secret and the token URL, with
  `OAuthApp.fromEnv` reading id and secret from the environment and
  `OAuthApp.debugText` its diagnostic form.
* `OAuthApp.authorizeUrl` — the authorize URL for a callback.
* `parseAccessToken` — the token in the token URL's answer `access_token=...&...`: the
  text after the first `=` up to the next `=` or `&`, which must not be empty.
-/

namespace MusicProviders

namespace Deezer

/-- Where the user approves the application. -/
def authUrl : String := "https://connect.deezer.com/oauth/auth.php"

/-- Where an approval code is exchanged for a token. -/
def tokenUrl : String := "https://connect.deezer.com/oauth/access_token.php"

/-- The relay that forwards the approval to the callback. -/
def relayUrl : String := "https://deezer.oauth.jonathanbangert.com/"

/-- The permissions asked for. -/
def permissions : String :=
  "basic_access,email,offline_access,manage_library,manage_community,delete_library,listening_history"

/-- The environment variable of the application id. -/
def envAppId : String := "DEEZER_APP_ID"

/-- The environment variable of the application secret. -/
def envAppSecret : String := "DEEZER_APP_SECRET"

/-- An OAuth application. -/
structure OAuthApp where
  appId : String
  appSecret : String
  tokenUrl : String
deriving DecidableEq, Repr, Inhabited

namespace OAuthApp

/-- An application using the standard token URL. -/
def new (appId appSecret : String) : OAuthApp := ⟨appId, appSecret, Deezer.tokenUrl⟩

/-- Read id and secret from an environment; an empty value counts as unset. -/
def fromEnv (env : String → Option String) : Outcome OAuthApp := do
  let read (key : String) : Outcome String :=
    match (env key).filter (!·.isEmpty) with
    | some v => .ok v
    | none => .error (.loginFailed (key ++ " is not set"))
  let appId ← read envAppId
  let appSecret ← read envAppSecret
  pure (new appId appSecret)

/-- The authorize URL: the application, the relay, the permissions and the callback as
form-encoded query parameters. -/
def authorizeUrl (app : OAuthApp) (callbackUrl : String) : String :=
  authUrl ++ "?" ++ Text.formQuery [("app_id", app.appId), ("redirect_uri", relayUrl),
    ("perms", permissions), ("state", callbackUrl)]

/-- The query of the token request for an approval code. -/
def tokenQuery (app : OAuthApp) (code : String) : List (String × String) :=
  [("code", code), ("app_id", app.appId), ("secret", app.appSecret)]

/-- Diagnostic form: the three fields with their values quoted. -/
def debugText (app : OAuthApp) : String :=
  "DeezerOAuth \x7b app_id: " ++ Text.debugQuote app.appId ++ ", app_secret: " ++
    Text.debugQuote app.appSecret ++ ", token_url: " ++ Text.debugQuote app.tokenUrl ++ " \x7d"

end OAuthApp

/-- The text between the first `=` and the next `=` or `&`, when not empty. -/
def parseAccessToken (body : String) : Outcome String :=
  let afterFirst := (body.toList.dropWhile (· ≠ '=')).drop 1
  let hasEquals := body.toList.contains '='
  let token := (afterFirst.takeWhile (· ≠ '=')).takeWhile (· ≠ '&')
  if hasEquals && !token.isEmpty then .ok (String.ofList token)
  else .error (.loginFailed "Invalid auth code")

end Deezer

end MusicProviders
