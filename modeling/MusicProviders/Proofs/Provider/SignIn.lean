import MusicProviders.Deezer.Settings
import MusicProviders.Proofs.Http.Failures

/-! # Signing in from the settings form

Asking for Deezer's settings form with the action `auth` runs the OAuth sign-in before
the form is built. The form is atomic on its values: they change only when every step of
the sign-in succeeds, and then only by the new token.

* `Deezer.TokenExchange`, `Deezer.SignIn` — how the token request and the whole sign-in
  end, step by step and without the code of the form: each failing step names its error,
  and a sign-in that goes through gives the token the token request's answer holds. Every
  run has such an ending (`Deezer.signIn_total`).
* `ConfigValues.get?_insert` — storing a value changes that key and no other.
* `Deezer.configEntries_of_signIn` — the form returns the sign-in's failure with the values
  as they were, or stores its token.
* `Deezer.configEntries_changes_only_the_token` — the form, for every action, every values
  map and every behaviour of host, helper and token endpoint.
-/

namespace MusicProviders

namespace ConfigValues

/-- Storing a value under a key changes that key's value and no other. -/
theorem get?_insert (key : String) (v : ConfigValue) (values : ConfigValues) (key' : String) :
    (values.insert key v).get? key' = if key' = key then some v else values.get? key' := by
  induction values with
  | nil =>
    by_cases same : key' = key
    · subst same
      simp [insert, get?]
    · simp [insert, get?, List.lookup_cons, beq_false_of_ne same, same]
  | cons kw rest ih =>
    obtain ⟨k, w⟩ := kw
    unfold insert
    -- the value is stored where the key is, or where the order puts it, or further on
    by_cases same : key' = key
    · subst same
      by_cases here : key' = k
      · simp [here, get?]
      · by_cases before : key' < k
        · simp [here, before, get?]
        · simp only [get?] at ih
          simp [here, before, get?, List.lookup_cons, beq_false_of_ne here, ih]
    · by_cases here : key = k
      · subst here
        simp [get?, List.lookup_cons, beq_false_of_ne same, same]
      · by_cases before : key < k
        · simp [here, before, get?, List.lookup_cons, beq_false_of_ne same, same]
        · simp only [get?] at ih
          by_cases other : key' = k
          · subst other
            simp [here, before, get?, same]
          · simp [here, before, List.lookup_cons, get?, beq_false_of_ne other, same, ih]

end ConfigValues

namespace Deezer

/-! ## The token in the token endpoint's answer -/

theorem parseAccessToken_ne_empty {body token : String}
    (parsed : parseAccessToken body = .ok token) : token ≠ "" := by
  unfold parseAccessToken at parsed
  dsimp only at parsed
  split at parsed
  next found =>
    cases parsed
    intro empty
    simp only [Bool.and_eq_true, Bool.not_eq_true', List.isEmpty_eq_false_iff] at found
    exact found.2 (String.ofList_eq_empty_iff.mp empty)
  next => cases parsed

theorem parseAccessToken_error {body : String} {e : ProviderError}
    (failed : parseAccessToken body = .error e) : e = .loginFailed "Invalid auth code" := by
  unfold parseAccessToken at failed
  dsimp only at failed
  split at failed
  · cases failed
  · cases failed
    rfl

/-! ## How a sign-in ends -/

/-- How the request exchanging an approval code for a token ends, run on `net` from `log`. -/
inductive TokenExchange (app : OAuthApp) (code : String) (net : Http.Network)
    (log : List Http.Request) : Outcome String → Prop
  /-- The request could not be sent; sending names why. -/
  | unsent {e : ProviderError} {log' : List Http.Request} :
      Http.runFrom net log (Http.send (tokenRequest app code)) = (.error e, log') →
      TokenExchange app code net log (.error e)
  /-- The answer has a status other than 200: a rejected login naming the status. -/
  | refused {answer : Http.Response} {log' : List Http.Request} :
      Http.runFrom net log (Http.send (tokenRequest app code)) = (.ok answer, log') →
      answer.status ≠ 200 →
      TokenExchange app code net log (.error (.loginFailed ("HTTP Error " ++ Http.statusText answer.status)))
  /-- The answer has status 200: its body holds the token, or the login is rejected. -/
  | answered {answer : Http.Response} {log' : List Http.Request} :
      Http.runFrom net log (Http.send (tokenRequest app code)) = (.ok answer, log') →
      answer.status = 200 → TokenExchange app code net log (parseAccessToken answer.text)

/-- How the sign-in of the settings form ends, run on `net` from `log`: the values must
name a session by a string, the host must open that session, the helper's visit of the
authorize page must come back with a callback that carries a code, and the code must be
exchanged for a token. -/
inductive SignIn (host : Host) (app : OAuthApp) (values : ConfigValues) (net : Http.Network)
    (log : List Http.Request) : Outcome String → Prop
  /-- No session is named: invalid data. -/
  | noSessionId :
      (values.get? confSessionId).bind ConfigValue.asStr? = none →
      SignIn host app values net log (.error (.invalidData "missing session_id"))
  /-- The host cannot open the session; it names why. -/
  | sessionRefused {sessionId : String} {e : ProviderError} :
      (values.get? confSessionId).bind ConfigValue.asStr? = some sessionId →
      host.authSession sessionId = .error e → SignIn host app values net log (.error e)
  /-- The visit of the authorize page fails; the helper names why. -/
  | visitFailed {sessionId : String} {helper : AuthHelper} {e : ProviderError} :
      (values.get? confSessionId).bind ConfigValue.asStr? = some sessionId →
      host.authSession sessionId = .ok helper → helper.callback = .error e →
      SignIn host app values net log (.error e)
  /-- The callback carries no code: a rejected login. -/
  | noCode {sessionId : String} {helper : AuthHelper} {params : List (String × String)} :
      (values.get? confSessionId).bind ConfigValue.asStr? = some sessionId →
      host.authSession sessionId = .ok helper → helper.callback = .ok params →
      params.lookup "code" = none →
      SignIn host app values net log (.error (.loginFailed "authorization returned no code"))
  /-- The callback's code is exchanged; the sign-in ends as the exchange does. -/
  | exchanged {sessionId : String} {helper : AuthHelper} {params : List (String × String)}
      {code : String} {r : Outcome String} :
      (values.get? confSessionId).bind ConfigValue.asStr? = some sessionId →
      host.authSession sessionId = .ok helper → helper.callback = .ok params →
      params.lookup "code" = some code → TokenExchange app code net log r →
      SignIn host app values net log r

theorem tokenExchange_total (app : OAuthApp) (code : String) (net : Http.Network)
    (log : List Http.Request) : ∃ r, TokenExchange app code net log r := by
  rcases sent : Http.runFrom net log (Http.send (tokenRequest app code)) with ⟨_ | answer, log'⟩
  · exact ⟨_, .unsent sent⟩
  · by_cases ok : answer.status = 200
    · exact ⟨_, .answered sent ok⟩
    · exact ⟨_, .refused sent ok⟩

/-- Every run of the sign-in ends in one of the ways `SignIn` lists. -/
theorem signIn_total (host : Host) (app : OAuthApp) (values : ConfigValues)
    (net : Http.Network) (log : List Http.Request) : ∃ r, SignIn host app values net log r := by
  cases named : (values.get? confSessionId).bind ConfigValue.asStr? with
  | none => exact ⟨_, .noSessionId named⟩
  | some sessionId =>
    cases opened : host.authSession sessionId with
    | error e => exact ⟨_, .sessionRefused named opened⟩
    | ok helper =>
      cases visited : helper.callback with
      | error e => exact ⟨_, .visitFailed named opened visited⟩
      | ok params =>
        cases carried : params.lookup "code" with
        | none => exact ⟨_, .noCode named opened visited carried⟩
        | some code =>
          obtain ⟨r, exchange⟩ := tokenExchange_total app code net log
          exact ⟨r, .exchanged named opened visited carried exchange⟩

theorem TokenExchange.token_ne_empty {app : OAuthApp} {code : String} {net : Http.Network}
    {log : List Http.Request} {r : Outcome String} (exchange : TokenExchange app code net log r) :
    ∀ token, r = .ok token → token ≠ "" := by
  cases exchange with
  | unsent _ => exact fun _ failed => by cases failed
  | refused _ _ => exact fun _ failed => by cases failed
  | answered _ _ => exact fun _ parsed => parseAccessToken_ne_empty parsed

/-- A token the sign-in ends with is never empty. -/
theorem SignIn.token_ne_empty {host : Host} {app : OAuthApp} {values : ConfigValues}
    {net : Http.Network} {log : List Http.Request} {r : Outcome String}
    (signIn : SignIn host app values net log r) : ∀ token, r = .ok token → token ≠ "" := by
  cases signIn with
  | exchanged _ _ _ _ exchange => exact exchange.token_ne_empty
  | _ => exact fun _ failed => by cases failed

/-! ## The form follows the sign-in -/

/-- The token exchange fails or gives its token exactly as `TokenExchange` says. -/
theorem exchangeCode_of_tokenExchange {app : OAuthApp} {code : String} {net : Http.Network}
    {log : List Http.Request} {r : Outcome String} (exchange : TokenExchange app code net log r) :
    (Http.runFrom net log (exchangeCode app code)).1 = r := by
  unfold exchangeCode
  rw [Http.runFrom_bind]
  cases exchange with
  | unsent sent => rw [sent]
  | refused sent refused =>
    rw [sent]
    dsimp only
    rw [if_pos refused, Http.runFrom_fail]
  | answered sent ok =>
    rw [sent]
    dsimp only
    rw [if_neg (fun refused => refused ok), Http.runFrom_lift]

/-- The answer of the form is what it returns and the values it leaves. -/
def formRun (host : Host) (app : OAuthApp) (action : Option String) (values : ConfigValues)
    (net : Http.Network) (log : List Http.Request) : FormAnswer :=
  (((configEntries host app action values).run net).run log).1

/-- With the action `auth`, the form returns the sign-in's failure and keeps the values,
or stores the sign-in's token and shows the values it leaves. -/
theorem configEntries_of_signIn {host : Host} {app : OAuthApp} {values : ConfigValues}
    {net : Http.Network} {log : List Http.Request} {r : Outcome String}
    (signIn : SignIn host app values net log r) :
    (∀ e, r = .error e →
      (formRun host app (some confActionAuth) values net log).entries = .error e ∧
        (formRun host app (some confActionAuth) values net log).values = values) ∧
    (∀ token, r = .ok token →
      (formRun host app (some confActionAuth) values net log).values =
          values.insert "access_token" (.string token) ∧
        (formRun host app (some confActionAuth) values net log).entries =
          .ok (formEntries (values.insert "access_token" (.string token)))) := by
  -- every step but the exchange is a match on known data; the exchange is one bind
  cases signIn with
  | noSessionId named =>
    refine ⟨fun e failed => ?_, fun token signed => by cases signed⟩
    cases failed
    simp [formRun, configEntries, named]
    exact ⟨rfl, rfl⟩
  | sessionRefused named refused =>
    refine ⟨fun e failed => ?_, fun token signed => by cases signed⟩
    cases failed
    simp [formRun, configEntries, named, refused]
    exact ⟨rfl, rfl⟩
  | visitFailed named opened failedVisit =>
    refine ⟨fun e failed => ?_, fun token signed => by cases signed⟩
    cases failed
    simp [formRun, configEntries, named, opened, failedVisit]
    exact ⟨rfl, rfl⟩
  | noCode named opened visited noCode =>
    refine ⟨fun e failed => ?_, fun token signed => by cases signed⟩
    cases failed
    simp [formRun, configEntries, named, opened, visited, noCode]
    exact ⟨rfl, rfl⟩
  | exchanged named opened visited carried exchange =>
    have exchanged := exchangeCode_of_tokenExchange exchange
    simp only [formRun, configEntries, named, opened, visited, carried, bne_self_eq_false,
      Bool.false_eq_true, if_false, Http.exchange_run_bind, Http.run_attempt, exchanged]
    refine ⟨fun e failed => ?_, fun token signed => ?_⟩
    · subst failed
      exact ⟨rfl, rfl⟩
    · subst signed
      exact ⟨rfl, rfl⟩

/-- Without the action `auth`, the form shows the values and changes nothing. -/
theorem configEntries_of_not_auth (host : Host) (app : OAuthApp) {action : Option String}
    (values : ConfigValues) (net : Http.Network) (log : List Http.Request)
    (other : action ≠ some confActionAuth) :
    (formRun host app action values net log).entries = .ok (formEntries values) ∧
      (formRun host app action values net log).values = values := by
  simp only [formRun, configEntries, bne_iff_ne.mpr other, if_true]
  exact ⟨rfl, rfl⟩

/-- The form's access token entry shows the values' access token. -/
theorem formEntries_access_token (values : ConfigValues) :
    ∃ entry ∈ formEntries values, entry.key = "access_token" ∧
      entry.value = values.get? "access_token" :=
  ⟨_, List.mem_cons_self, rfl, rfl⟩

/-- The settings form is atomic on its values. Without the action `auth` it changes
nothing. With it, the sign-in ends in one of the ways `SignIn` lists; a failing step's
error is returned and the values stay as they were; a sign-in that goes through stores its
token, never empty, under `access_token` and changes no other value. A token answer whose
body holds no token rejects the login as an invalid auth code. Whenever the form is
returned, its access token entry shows the access token the values hold after the call. -/
theorem configEntries_changes_only_the_token (host : Host) (app : OAuthApp)
    (action : Option String) (values : ConfigValues) (net : Http.Network)
    (log : List Http.Request) :
    (action ≠ some confActionAuth →
      (formRun host app action values net log).entries = .ok (formEntries values) ∧
        (formRun host app action values net log).values = values) ∧
    (action = some confActionAuth →
      (∃ r, SignIn host app values net log r) ∧
      ∀ r, SignIn host app values net log r →
        (∀ e, r = .error e → (formRun host app action values net log).entries = .error e ∧
          (formRun host app action values net log).values = values) ∧
        (∀ token, r = .ok token → token ≠ "" ∧
          ∀ key, (formRun host app action values net log).values.get? key =
            if key = "access_token" then some (.string token) else values.get? key)) ∧
    (∀ body e, parseAccessToken body = .error e → e = .loginFailed "Invalid auth code") ∧
    (∀ entries, (formRun host app action values net log).entries = .ok entries →
      ∃ entry ∈ entries, entry.key = "access_token" ∧
        entry.value = (formRun host app action values net log).values.get? "access_token") := by
  by_cases auth : action = some confActionAuth
  · subst auth
    refine ⟨fun other => absurd rfl other, fun _ => ⟨signIn_total host app values net log,
      fun r signIn => ⟨(configEntries_of_signIn signIn).1, fun token signed => ?_⟩⟩,
      fun _ _ => parseAccessToken_error, fun entries shown => ?_⟩
    · have stored := ((configEntries_of_signIn signIn).2 token signed).1
      subst signed
      refine ⟨signIn.token_ne_empty token rfl, fun key => ?_⟩
      rw [stored, ConfigValues.get?_insert]
    -- the form is returned only by a sign-in that went through
    · obtain ⟨r, signIn⟩ := signIn_total host app values net log
      cases r with
      | error e =>
        rw [((configEntries_of_signIn signIn).1 e rfl).1] at shown
        cases shown
      | ok token =>
        obtain ⟨stored, form⟩ := (configEntries_of_signIn signIn).2 token rfl
        rw [form] at shown
        cases shown
        rw [stored]
        exact formEntries_access_token _
  · obtain ⟨form, kept⟩ := configEntries_of_not_auth host app values net log auth
    refine ⟨fun _ => ⟨form, kept⟩, fun asked => absurd asked auth,
      fun _ _ => parseAccessToken_error, fun entries shown => ?_⟩
    rw [form] at shown
    cases shown
    rw [kept]
    exact formEntries_access_token _

end Deezer

end MusicProviders
