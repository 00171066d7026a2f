import MusicProviders.Deezer.Auth
import MusicProviders.Provider.Config
import MusicProviders.Provider.Host
import MusicProviders.Http.Exchange

/-! # The Deezer settings form

The form has the access token (required, with an action that signs in) and the log
level. Asking for the form with the action `auth` first runs the OAuth flow: the host
opens a sign-in session for the form's `session_id`, the user is sent to the authorize
page, the callback's `code` is exchanged for a token, and the token is stored in the
values. The values change only when every step succeeds.

* `tokenRequest`, `exchangeCode` — the token request: a status other than 200 is a
  sign-in failure, and the body must hold a token.
* `configEntries` — the form, with the flow when asked for; `FormAnswer` also records
  the authorize page the user was sent to.
-/

namespace MusicProviders

namespace Deezer

/-- The action that signs in. -/
def confActionAuth : String := "auth"

/-- The value naming the host's sign-in session. -/
def confSessionId : String := "session_id"

/-- The answer to a request for the settings form. -/
structure FormAnswer where
  entries : Outcome (List ConfigEntry)
  /-- The values after the request. -/
  values : ConfigValues
  /-- The authorize page the user was sent to, when the flow got that far. -/
  authUrl : Option String
deriving Inhabited

/-- The request that exchanges an approval code for a token. -/
def tokenRequest (app : OAuthApp) (code : String) : Http.Request :=
  (Http.Request.plain .post app.tokenUrl).withQuery (app.tokenQuery code)

/-- Exchange an approval code for an access token. -/
def exchangeCode (app : OAuthApp) (code : String) : Http String := do
  let answer ← Http.send (tokenRequest app code)
  if answer.status ≠ 200 then Http.fail (.loginFailed ("HTTP Error " ++ Http.statusText answer.status))
  else Http.lift (parseAccessToken answer.text)

/-- The form's entries for the given values. -/
def formEntries (values : ConfigValues) : List ConfigEntry :=
  [{ ConfigEntry.new "access_token" .secureString "Access token" with
      required := true
      description := some "You need to authenticate on Deezer."
      action := some confActionAuth
      actionLabel := some "Authenticate with Deezer"
      value := values.get? "access_token" },
    logLevelEntry]

/-- The settings form; with the action `auth`, sign in first and store the new token. -/
def configEntries (host : Host) (app : OAuthApp) (action : Option String)
    (values : ConfigValues) : Exchange FormAnswer := do
  if action != some confActionAuth then pure ⟨.ok (formEntries values), values, none⟩
  else
    match (values.get? confSessionId).bind ConfigValue.asStr? with
    | none => pure ⟨.error (.invalidData "missing session_id"), values, none⟩
    | some sessionId =>
      match host.authSession sessionId with
      | .error e => pure ⟨.error e, values, none⟩
      | .ok helper =>
        let url := app.authorizeUrl helper.callbackUrl
        match helper.callback with
        | .error e => pure ⟨.error e, values, some url⟩
        | .ok params =>
          match List.lookup "code" params with
          | none => pure ⟨.error (.loginFailed "authorization returned no code"), values, some url⟩
          | some code =>
            match ← Http.attempt (exchangeCode app code) with
            | .error e => pure ⟨.error e, values, some url⟩
            | .ok token =>
              let values := values.insert "access_token" (.string token)
              pure ⟨.ok (formEntries values), values, some url⟩

end Deezer

end MusicProviders
