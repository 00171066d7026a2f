import MusicProviders.Command.Calls
import MusicProviders.Deezer.Provider
import MusicProviders.Soundcloud.Provider
import MusicProviders.Proofs.Http.Failures

/-! # Setting up and unloading provider instances

A host drives an instance by calls; only setting up and unloading change the instance
(`Command.perform_provider`). Setting up either succeeds, and then replaces the instance
by the signed-in one, or fails and leaves the instance as it was; unloading drops the
session and makes the instance unavailable.

* `Reachable k start` — the call states a host can drive an instance to, whatever the
  calls and whatever the network answers; `Reachable.invariant` — what setting up and
  unloading keep holds in all of them.
* `Deezer.Provider.runFrom_setup`, `Soundcloud.Provider.runFrom_setup` — setting up, step
  by step: credentials, (the gateway,) the signed-in user, its id; the first failing step
  decides the failure, and success installs `signedIn`.
* `Deezer.GatewayClient.runFrom_connect_rejected` — the gateway refuses a token whose user
  data has no user id, or the id zero.
* `providers_keep_session_consistent` — the whole lifecycle of both providers.
-/

namespace MusicProviders

open Http

namespace ProviderConfig

/-- A value that is absent, not a string, or the empty string is missing. -/
theorem getStr_eq_none {c : ProviderConfig} {key : String}
    (blank : ∀ text, (c.getValue key).bind ConfigValue.asStr? = some text → text = "") :
    c.getStr key = none := by
  unfold getStr
  cases valued : (c.getValue key).bind ConfigValue.asStr? with
  | none => rfl
  | some text => simp [blank text valued]

end ProviderConfig

/-! ## The calls of a host -/

namespace Command

variable {σ : Type}

/-- What one call does to the instance: setting up replaces it with the set-up instance
when setting up succeeds and leaves it as it is when it fails, unloading replaces it with
the unloaded instance, and every other call leaves it as it is. -/
theorem perform_provider (k : InstanceKind σ) (st : CallState σ) (call : Call)
    (net : Network) (log : List Http.Request) :
    (call = .setup ∧ ((∃ e, (runFrom net log (k.setup st.provider)).1 = .error e ∧
        (((perform k st call).run net).run log).1.2.provider = st.provider) ∨
      (runFrom net log (k.setup st.provider)).1 =
        .ok (((perform k st call).run net).run log).1.2.provider)) ∨
    (call = .unload ∧ (((perform k st call).run net).run log).1.2.provider = k.unload st.provider) ∨
    (call ≠ .setup ∧ call ≠ .unload ∧
      (((perform k st call).run net).run log).1.2.provider = st.provider) := by
  cases call
  case setup =>
    refine .inl ⟨rfl, ?_⟩
    simp only [perform, exchange_run_bind, run_attempt]
    rcases runFrom net log (k.setup st.provider) with ⟨_ | p, log'⟩
    · exact .inl ⟨_, rfl, rfl⟩
    · exact .inr rfl
  case unload => exact .inr (.inl ⟨rfl, rfl⟩)
  -- the two playback calls change only the kept stream details
  case streamDetails id =>
    refine .inr (.inr ⟨nofun, nofun, ?_⟩)
    simp only [perform, exchange_run_bind, run_attempt]
    split <;> rfl
  case audioStream seek itemId size duration =>
    refine .inr (.inr ⟨nofun, nofun, ?_⟩)
    simp only [perform, exchange_run_bind, run_attempt]
    split <;> rfl
  all_goals exact .inr (.inr ⟨nofun, nofun, rfl⟩)

theorem perform_setup_of_error (k : InstanceKind σ) (st : CallState σ) {net : Network}
    {log : List Http.Request} {e : ProviderError} (failed : (runFrom net log (k.setup st.provider)).1 = .error e) :
    (((perform k st .setup).run net).run log).1.2 = st := by
  simp only [perform, exchange_run_bind, run_attempt, failed]
  rfl

/-- The call states a host can drive an instance to from `start`: each step performs one
call, on any network and from any log of answered requests. -/
inductive Reachable (k : InstanceKind σ) (start : CallState σ) : CallState σ → Prop
  | start : Reachable k start start
  | step {st : CallState σ} (call : Call) (net : Network) (log : List Http.Request) :
      Reachable k start st → Reachable k start (((perform k st call).run net).run log).1.2

/-- What holds of the starting instance and is kept by every successful setup and by
unloading holds of the instance in every state a host can drive it to. -/
theorem Reachable.invariant {k : InstanceKind σ} {start st : CallState σ} {Inv : σ → Prop}
    (initial : Inv start.provider)
    (setupKeeps : ∀ p p' net log, Inv p → (runFrom net log (k.setup p)).1 = .ok p' → Inv p')
    (unloadKeeps : ∀ p, Inv p → Inv (k.unload p)) (reached : Reachable k start st) :
    Inv st.provider := by
  induction reached with
  | start => exact initial
  | @step st call net log _ kept =>
    rcases perform_provider k st call net log with
      ⟨_, ⟨_, _, same⟩ | setUp⟩ | ⟨_, unloaded⟩ | ⟨_, _, same⟩
    · exact same ▸ kept
    · exact setupKeeps _ _ net log kept setUp
    · exact unloaded ▸ unloadKeeps _ kept
    · exact same ▸ kept

end Command

/-! ## Deezer -/

namespace Deezer

namespace GatewayClient

/-- The gateway refuses a token whose user data has no user id, or the id zero. -/
theorem runFrom_connect_rejected {net : Network} {log log₁ log₂ : List Http.Request} {token : String}
    {urls : GatewayUrls} {userData : Json}
    (cookie : runFrom net log (fresh token urls).requestSessionCookie = (.ok (), log₁))
    (answered : runFrom net log₁ ((fresh token urls).callApi "deezer.getUserData" none) =
      (.ok userData, log₂))
    (noUser : (valueToU64 ((userData.get? "USER").bind (·.get? "USER_ID"))).getD 0 = 0) :
    runFrom net log (connect token urls) =
      (.error (.loginFailed "Deezer gateway rejected the access token"), log₂) := by
  simp only [connect, runFrom_bind, cookie, refreshUserData, answered, noUser]
  rfl

end GatewayClient

namespace Provider

/-- An available instance has a session. -/
def Consistent (p : Provider) : Prop := p.base.available = true → p.session.isSome

/-- The instance signed in through the API client `api` and the gateway session `gw` as
the user `userId`: its session maps items for the instance's domain and id, that user,
and the gateway's country when it names one; the instance is available. -/
def signedIn (p : Provider) (api : Api) (gw : GatewayClient) (userId : Int) : Provider :=
  { p with
    session := some ⟨api, gw, ⟨p.base.domain, p.base.instanceId, some userId,
      if gw.userCountry.isEmpty then none else some gw.userCountry⟩⟩
    base := { p.base with available := true } }

/-- Setting up, step by step: the access token, the gateway session, the signed-in user
and its id. The first step that fails decides the failure. -/
theorem runFrom_setup (net : Network) (log : List Http.Request) (p : Provider) :
    runFrom net log p.setup =
      match p.base.config.getStr confAccessToken with
      | none => (.error (.loginFailed "Invalid login credentials"), log)
      | some token =>
        match runFrom net log (GatewayClient.connect token .default) with
        | (.error e, log₁) => (.error e, log₁)
        | (.ok gw, log₁) =>
          match runFrom net log₁ (Api.new token).userMe with
          | (.error e, log₂) => (.error e, log₂)
          | (.ok user, log₂) =>
            match user.id with
            | none => (.error (.loginFailed "Deezer returned no user"), log₂)
            | some userId => (.ok (p.signedIn (Api.new token) gw userId), log₂) := by
  unfold setup
  cases p.base.config.getStr confAccessToken with
  | none => rfl
  | some token =>
    simp only [connect, attach, runFrom_bind]
    rcases runFrom net log (GatewayClient.connect token .default) with ⟨_ | gw, log₁⟩
    · rfl
    · dsimp only
      rcases runFrom net log₁ (Api.new token).userMe with ⟨_ | user, log₂⟩
      · rfl
      · dsimp only
        cases user.id <;> rfl

theorem new_consistent (host : Host) (config : ProviderConfig) : (new host config).Consistent := by
  simp [Consistent, new, Instance.new]

theorem unload_consistent (p : Provider) : p.unload.Consistent := by
  simp [Consistent, unload]

theorem signedIn_consistent (p : Provider) (api : Api) (gw : GatewayClient) (userId : Int) :
    (p.signedIn api gw userId).Consistent := by
  simp [Consistent, signedIn]

/-- Without an access token setting up fails at once, before any request. -/
theorem setup_without_token {net : Network} {log : List Http.Request} {p : Provider}
    (noToken : p.base.config.getStr confAccessToken = none) :
    runFrom net log p.setup = (.error (.loginFailed "Invalid login credentials"), log) := by
  rw [runFrom_setup, noToken]

theorem setup_of_connect_error {net : Network} {log log₁ : List Http.Request} {p : Provider}
    {token : String} {e : ProviderError} (hasToken : p.base.config.getStr confAccessToken = some token)
    (failed : runFrom net log (GatewayClient.connect token .default) = (.error e, log₁)) :
    runFrom net log p.setup = (.error e, log₁) := by
  simp only [runFrom_setup, hasToken, failed]

theorem setup_of_user_error {net : Network} {log log₁ log₂ : List Http.Request} {p : Provider}
    {token : String} {gw : GatewayClient} {e : ProviderError}
    (hasToken : p.base.config.getStr confAccessToken = some token)
    (connected : runFrom net log (GatewayClient.connect token .default) = (.ok gw, log₁))
    (failed : runFrom net log₁ (Api.new token).userMe = (.error e, log₂)) :
    runFrom net log p.setup = (.error e, log₂) := by
  simp only [runFrom_setup, hasToken, connected, failed]

theorem setup_of_user_without_id {net : Network} {log log₁ log₂ : List Http.Request}
    {p : Provider} {token : String} {gw : GatewayClient} {user : UserRecord}
    (hasToken : p.base.config.getStr confAccessToken = some token)
    (connected : runFrom net log (GatewayClient.connect token .default) = (.ok gw, log₁))
    (fetched : runFrom net log₁ (Api.new token).userMe = (.ok user, log₂))
    (noId : user.id = none) :
    runFrom net log p.setup = (.error (.loginFailed "Deezer returned no user"), log₂) := by
  simp only [runFrom_setup, hasToken, connected, fetched, noId]

theorem setup_ok {net : Network} {log log' : List Http.Request} {p p' : Provider}
    (setUp : runFrom net log p.setup = (.ok p', log')) :
    ∃ token gw user userId log₁, p.base.config.getStr confAccessToken = some token ∧
      runFrom net log (GatewayClient.connect token .default) = (.ok gw, log₁) ∧
      runFrom net log₁ (Api.new token).userMe = (.ok user, log') ∧ user.id = some userId ∧
      p' = p.signedIn (Api.new token) gw userId := by
  rw [runFrom_setup] at setUp
  split at setUp
  · cases setUp
  · rename_i token hasToken
    split at setUp
    · cases setUp
    · rename_i gw log₁ connected
      split at setUp
      · cases setUp
      · rename_i user log₂ fetched
        split at setUp
        · cases setUp
        · rename_i userId identified
          cases setUp
          exact ⟨token, gw, user, userId, log₁, hasToken, connected, fetched, identified, rfl⟩

theorem setup_keeps_consistent {net : Network} {log : List Http.Request} {p p' : Provider}
    (setUp : (runFrom net log p.setup).1 = .ok p') : p'.Consistent := by
  obtain ⟨_, _, _, _, _, _, _, _, _, rfl⟩ := setup_ok (Prod.ext setUp rfl)
  exact signedIn_consistent _ _ _ _

theorem reachable_consistent {fuel : Nat} {stamp : PlaybackStamp} {host : Host}
    {config : ProviderConfig} {kept : Option StreamDetails} {st : Command.CallState Provider}
    (reached : Command.Reachable (kind fuel stamp) ⟨new host config, kept⟩ st) :
    st.provider.Consistent :=
  Command.Reachable.invariant (new_consistent host config)
    (fun _ _ _ _ _ setUp => setup_keeps_consistent setUp) (fun p _ => unload_consistent p) reached

end Provider

end Deezer

/-! ## SoundCloud -/

namespace Soundcloud.Provider

/-- An available instance has a session. -/
def Consistent (p : Provider) : Prop := p.base.available = true → p.session.isSome

/-- The instance signed in through the API client `api` as the user `userId`: its session
maps items for the instance's domain and id and belongs to that user; the instance is
available. -/
def signedIn (p : Provider) (api : Api) (userId : String) : Provider :=
  { p with
    session := some ⟨api, ⟨p.base.domain, p.base.instanceId⟩, userId⟩
    base := { p.base with available := true } }

/-- Setting up, step by step: the client id and authorization, the signed-in account and
its id. The first step that fails decides the failure. -/
theorem runFrom_setup (net : Network) (log : List Http.Request) (p : Provider) :
    runFrom net log p.setup =
      match p.base.config.getStr confClientId, p.base.config.getStr confAuthorization with
      | some clientId, some authorization =>
        match runFrom net log (Api.new clientId authorization).accountDetails with
        | (.error e, log₁) => (.error e, log₁)
        | (.ok me, log₁) =>
          match me.id with
          | none => (.error (.loginFailed "SoundCloud returned no user"), log₁)
          | some userId => (.ok (p.signedIn (Api.new clientId authorization) userId), log₁)
      | _, _ => (.error (.loginFailed "Invalid login credentials"), log) := by
  unfold setup
  cases p.base.config.getStr confClientId with
  | none => rfl
  | some clientId =>
    cases p.base.config.getStr confAuthorization with
    | none => rfl
    | some authorization =>
      simp only [connect, attach, runFrom_bind]
      rcases runFrom net log (Api.new clientId authorization).accountDetails with ⟨_ | me, log₁⟩
      · rfl
      · dsimp only
        cases me.id <;> rfl

theorem new_consistent (host : Host) (config : ProviderConfig) : (new host config).Consistent := by
  simp [Consistent, new, Instance.new]

theorem unload_consistent (p : Provider) : p.unload.Consistent := by
  simp [Consistent, unload]

theorem signedIn_consistent (p : Provider) (api : Api) (userId : String) :
    (p.signedIn api userId).Consistent := by
  simp [Consistent, signedIn]

/-- Without a client id or without an authorization setting up fails at once, before any
request. -/
theorem setup_without_credentials {net : Network} {log : List Http.Request} {p : Provider}
    (missing : p.base.config.getStr confClientId = none ∨
      p.base.config.getStr confAuthorization = none) :
    runFrom net log p.setup = (.error (.loginFailed "Invalid login credentials"), log) := by
  rw [runFrom_setup]
  rcases missing with noClientId | noAuthorization
  · rw [noClientId]
  · rw [noAuthorization]
    cases p.base.config.getStr confClientId <;> rfl

theorem setup_of_account_error {net : Network} {log log₁ : List Http.Request} {p : Provider}
    {clientId authorization : String} {e : ProviderError}
    (hasClientId : p.base.config.getStr confClientId = some clientId)
    (hasAuthorization : p.base.config.getStr confAuthorization = some authorization)
    (failed : runFrom net log (Api.new clientId authorization).accountDetails = (.error e, log₁)) :
    runFrom net log p.setup = (.error e, log₁) := by
  simp only [runFrom_setup, hasClientId, hasAuthorization, failed]

theorem setup_of_account_without_id {net : Network} {log log₁ : List Http.Request}
    {p : Provider} {clientId authorization : String} {me : UserRecord}
    (hasClientId : p.base.config.getStr confClientId = some clientId)
    (hasAuthorization : p.base.config.getStr confAuthorization = some authorization)
    (fetched : runFrom net log (Api.new clientId authorization).accountDetails = (.ok me, log₁))
    (noId : me.id = none) :
    runFrom net log p.setup = (.error (.loginFailed "SoundCloud returned no user"), log₁) := by
  simp only [runFrom_setup, hasClientId, hasAuthorization, fetched, noId]

theorem setup_ok {net : Network} {log log' : List Http.Request} {p p' : Provider}
    (setUp : runFrom net log p.setup = (.ok p', log')) :
    ∃ clientId authorization me userId, p.base.config.getStr confClientId = some clientId ∧
      p.base.config.getStr confAuthorization = some authorization ∧
      runFrom net log (Api.new clientId authorization).accountDetails = (.ok me, log') ∧
      me.id = some userId ∧ p' = p.signedIn (Api.new clientId authorization) userId := by
  rw [runFrom_setup] at setUp
  split at setUp
  · rename_i clientId authorization hasClientId hasAuthorization
    split at setUp
    · cases setUp
    · rename_i me log₁ fetched
      split at setUp
      · cases setUp
      · rename_i userId identified
        cases setUp
        exact ⟨clientId, authorization, me, userId, hasClientId, hasAuthorization, fetched,
          identified, rfl⟩
  · cases setUp

theorem setup_keeps_consistent {net : Network} {log : List Http.Request} {p p' : Provider}
    (setUp : (runFrom net log p.setup).1 = .ok p') : p'.Consistent := by
  obtain ⟨_, _, _, _, _, _, _, _, rfl⟩ := setup_ok (Prod.ext setUp rfl)
  exact signedIn_consistent _ _ _

theorem reachable_consistent {fuel : Nat} {host : Host} {config : ProviderConfig}
    {kept : Option StreamDetails} {st : Command.CallState Provider}
    (reached : Command.Reachable (kind fuel) ⟨new host config, kept⟩ st) :
    st.provider.Consistent :=
  Command.Reachable.invariant (new_consistent host config)
    (fun _ _ _ _ _ setUp => setup_keeps_consistent setUp) (fun p _ => unload_consistent p) reached

end Soundcloud.Provider

/-! ## Both providers -/

/-- The lifecycle of both providers. Whatever calls a host makes and whatever the network
answers, an available instance has a session. A setup that fails leaves the call state as
it was; it fails on missing or empty credentials, on every failed request, on a user
without an id and, for Deezer, on a gateway user id of zero. A setup that succeeds went
through every step, makes the instance available and installs a session whose mapper
carries the instance's domain and id and the signed-in user (for Deezer also the
gateway's country when it names one). Unloading drops the session and makes the instance
unavailable. -/
theorem providers_keep_session_consistent :
    (∀ {σ : Type} (k : InstanceKind σ) (st : Command.CallState σ) (net : Network)
        (log : List Http.Request) (e : ProviderError),
      (runFrom net log (k.setup st.provider)).1 = .error e →
        (((Command.perform k st .setup).run net).run log).1.2 = st) ∧
    (∀ (fuel : Nat) (stamp : Deezer.PlaybackStamp) (host : Host) (config : ProviderConfig)
        (kept : Option StreamDetails) (st : Command.CallState Deezer.Provider),
      Command.Reachable (Deezer.kind fuel stamp) ⟨Deezer.Provider.new host config, kept⟩ st →
        st.provider.base.available = true → st.provider.session.isSome) ∧
    (∀ (net : Network) (log : List Http.Request) (p : Deezer.Provider),
      (∀ token, (p.base.config.getValue Deezer.confAccessToken).bind ConfigValue.asStr? =
          some token → token = "") →
        runFrom net log p.setup = (.error (.loginFailed "Invalid login credentials"), log)) ∧
    (∀ (net : Network) (log log₁ : List Http.Request) (p : Deezer.Provider) (token : String)
        (e : ProviderError),
      p.base.config.getStr Deezer.confAccessToken = some token →
      runFrom net log (Deezer.GatewayClient.connect token .default) = (.error e, log₁) →
        runFrom net log p.setup = (.error e, log₁)) ∧
    (∀ (net : Network) (log log₁ log₂ : List Http.Request) (token : String)
        (urls : Deezer.GatewayUrls) (userData : Json),
      runFrom net log (Deezer.GatewayClient.fresh token urls).requestSessionCookie =
        (.ok (), log₁) →
      runFrom net log₁ ((Deezer.GatewayClient.fresh token urls).callApi "deezer.getUserData"
        none) = (.ok userData, log₂) →
      (Deezer.valueToU64 ((userData.get? "USER").bind (·.get? "USER_ID"))).getD 0 = 0 →
        runFrom net log (Deezer.GatewayClient.connect token urls) =
          (.error (.loginFailed "Deezer gateway rejected the access token"), log₂)) ∧
    (∀ (net : Network) (log log₁ log₂ : List Http.Request) (p : Deezer.Provider)
        (token : String) (gw : Deezer.GatewayClient) (e : ProviderError),
      p.base.config.getStr Deezer.confAccessToken = some token →
      runFrom net log (Deezer.GatewayClient.connect token .default) = (.ok gw, log₁) →
      runFrom net log₁ (Deezer.Api.new token).userMe = (.error e, log₂) →
        runFrom net log p.setup = (.error e, log₂)) ∧
    (∀ (net : Network) (log log₁ log₂ : List Http.Request) (p : Deezer.Provider)
        (token : String) (gw : Deezer.GatewayClient) (user : Deezer.UserRecord),
      p.base.config.getStr Deezer.confAccessToken = some token →
      runFrom net log (Deezer.GatewayClient.connect token .default) = (.ok gw, log₁) →
      runFrom net log₁ (Deezer.Api.new token).userMe = (.ok user, log₂) → user.id = none →
        runFrom net log p.setup = (.error (.loginFailed "Deezer returned no user"), log₂)) ∧
    (∀ (net : Network) (log log' : List Http.Request) (p p' : Deezer.Provider),
      runFrom net log p.setup = (.ok p', log') →
        p'.base.available = true ∧
        ∃ token gw user userId log₁, p.base.config.getStr Deezer.confAccessToken = some token ∧
          runFrom net log (Deezer.GatewayClient.connect token .default) = (.ok gw, log₁) ∧
          runFrom net log₁ (Deezer.Api.new token).userMe = (.ok user, log') ∧
          user.id = some userId ∧
          ∃ s, p'.session = some s ∧
            s.mapper = ⟨p.base.manifest.domain, p.base.config.instanceId, some userId,
              if gw.userCountry.isEmpty then none else some gw.userCountry⟩) ∧
    (∀ p : Deezer.Provider, p.unload.session = none ∧ p.unload.base.available = false) ∧
    (∀ (fuel : Nat) (host : Host) (config : ProviderConfig) (kept : Option StreamDetails)
        (st : Command.CallState Soundcloud.Provider),
      Command.Reachable (Soundcloud.kind fuel) ⟨Soundcloud.Provider.new host config, kept⟩ st →
        st.provider.base.available = true → st.provider.session.isSome) ∧
    (∀ (net : Network) (log : List Http.Request) (p : Soundcloud.Provider),
      ((∀ clientId, (p.base.config.getValue Soundcloud.confClientId).bind ConfigValue.asStr? =
          some clientId → clientId = "") ∨
        (∀ authorization, (p.base.config.getValue Soundcloud.confAuthorization).bind
          ConfigValue.asStr? = some authorization → authorization = "")) →
        runFrom net log p.setup = (.error (.loginFailed "Invalid login credentials"), log)) ∧
    (∀ (net : Network) (log log₁ : List Http.Request) (p : Soundcloud.Provider)
        (clientId authorization : String) (e : ProviderError),
      p.base.config.getStr Soundcloud.confClientId = some clientId →
      p.base.config.getStr Soundcloud.confAuthorization = some authorization →
      runFrom net log (Soundcloud.Api.new clientId authorization).accountDetails =
        (.error e, log₁) →
        runFrom net log p.setup = (.error e, log₁)) ∧
    (∀ (net : Network) (log log₁ : List Http.Request) (p : Soundcloud.Provider)
        (clientId authorization : String) (me : Soundcloud.UserRecord),
      p.base.config.getStr Soundcloud.confClientId = some clientId →
      p.base.config.getStr Soundcloud.confAuthorization = some authorization →
      runFrom net log (Soundcloud.Api.new clientId authorization).accountDetails =
        (.ok me, log₁) → me.id = none →
        runFrom net log p.setup = (.error (.loginFailed "SoundCloud returned no user"), log₁)) ∧
    (∀ (net : Network) (log log' : List Http.Request) (p p' : Soundcloud.Provider),
      runFrom net log p.setup = (.ok p', log') →
        p'.base.available = true ∧
        ∃ clientId authorization me userId,
          p.base.config.getStr Soundcloud.confClientId = some clientId ∧
          p.base.config.getStr Soundcloud.confAuthorization = some authorization ∧
          runFrom net log (Soundcloud.Api.new clientId authorization).accountDetails =
            (.ok me, log') ∧ me.id = some userId ∧
          ∃ s, p'.session = some s ∧
            s.mapper = ⟨p.base.manifest.domain, p.base.config.instanceId⟩ ∧ s.userId = userId) ∧
    (∀ p : Soundcloud.Provider, p.unload.session = none ∧ p.unload.base.available = false) := by
  refine ⟨fun k st _ _ _ failed => Command.perform_setup_of_error k st failed,
    fun _ _ _ _ _ _ reached => Deezer.Provider.reachable_consistent reached,
    fun _ _ _ blank => Deezer.Provider.setup_without_token (ProviderConfig.getStr_eq_none blank),
    fun _ _ _ _ _ _ => Deezer.Provider.setup_of_connect_error,
    fun _ _ _ _ _ _ _ => Deezer.GatewayClient.runFrom_connect_rejected,
    fun _ _ _ _ _ _ _ _ => Deezer.Provider.setup_of_user_error,
    fun _ _ _ _ _ _ _ _ => Deezer.Provider.setup_of_user_without_id, ?deezerOk,
    fun _ => ⟨rfl, rfl⟩,
    fun _ _ _ _ _ reached => Soundcloud.Provider.reachable_consistent reached, ?soundcloudMissing,
    fun _ _ _ _ _ _ _ => Soundcloud.Provider.setup_of_account_error,
    fun _ _ _ _ _ _ _ => Soundcloud.Provider.setup_of_account_without_id, ?soundcloudOk,
    fun _ => ⟨rfl, rfl⟩⟩
  case deezerOk =>
    intro net log log' p p' setUp
    obtain ⟨token, gw, user, userId, log₁, hasToken, connected, fetched, identified, rfl⟩ :=
      Deezer.Provider.setup_ok setUp
    exact ⟨rfl, token, gw, user, userId, log₁, hasToken, connected, fetched, identified, _, rfl,
      rfl⟩
  case soundcloudMissing =>
    intro net log p blank
    exact Soundcloud.Provider.setup_without_credentials
      (blank.imp ProviderConfig.getStr_eq_none ProviderConfig.getStr_eq_none)
  case soundcloudOk =>
    intro net log log' p p' setUp
    obtain ⟨clientId, authorization, me, userId, hasClientId, hasAuthorization, fetched,
      identified, rfl⟩ := Soundcloud.Provider.setup_ok setUp
    exact ⟨rfl, clientId, authorization, me, userId, hasClientId, hasAuthorization, fetched,
      identified, _, rfl, rfl, rfl⟩

/-! ## A run of calls -/

/-- Deezer's answers to setting up with the token `tok`: the session page, the gateway's
user data of user 5 in France, and the user's record. -/
def deezerSetupNet : Network :=
  ⟨fun _ r =>
    if r.url = "https://api.deezer.com/platform/generic/track/3135556" then some ⟨200, []⟩
    else if r.url = "https://www.deezer.com/ajax/gw-light.php?api_version=1.0&api_token=null" ++
        "&input=3&method=deezer.getUserData" then
      some ⟨200, Bytes.ofString
        "\x7b\"results\":\x7b\"USER\":\x7b\"USER_ID\":5\x7d,\"checkForm\":\"f\",\"COUNTRY\":\"FR\"\x7d\x7d"⟩
    else if r.url = "https://api.deezer.com/user/me?access_token=tok" then
      some ⟨200, Bytes.ofString "\x7b\"id\":5,\"name\":\"ana\"\x7d"⟩
    else none⟩

/-- SoundCloud's answer to the account request of the client `c`: user 7. -/
def soundcloudSetupNet : Network :=
  ⟨fun _ r =>
    if r.url = "https://api-v2.soundcloud.com/me?client_id=c" then
      some ⟨200, Bytes.ofString "\x7b\"id\":7,\"username\":\"ana\"\x7d"⟩
    else none⟩

/-- Both providers through a run of calls. Set up where the vendor answers, an instance is
signed in as the user the vendor names, and its mapper carries the instance's domain and
id (for Deezer also the gateway's country). Set up again where nothing answers, the
call state stays as it was, so after both calls the instance is available and has its
session. Unloaded, it has neither. -/
theorem providers_lifecycle_run :
    ∃ (deezer : Deezer.Provider) (soundcloud : Soundcloud.Provider),
      runFrom deezerSetupNet []
          (Deezer.Provider.new default ⟨"deezer--1", none, [("access_token", .string "tok")]⟩).setup =
        (.ok deezer,
          [(Http.Request.plain .get
                "https://api.deezer.com/platform/generic/track/3135556").withHeader
              "authorization" "Bearer tok",
            ((Http.Request.plain .post "https://www.deezer.com/ajax/gw-light.php").withQuery
              [("api_version", "1.0"), ("api_token", "null"), ("input", "3"),
                ("method", "deezer.getUserData")]).withJson (.object []),
            Http.Request.plain .get "https://api.deezer.com/user/me?access_token=tok"]) ∧
      deezer.base.available = true ∧
      (∃ s, deezer.session = some s ∧ s.mapper = ⟨"deezer", "deezer--1", some 5, some "FR"⟩) ∧
      (((Command.perform (Deezer.kind 3 default) ⟨deezer, none⟩ .setup).run .unreachable).run []).1.2 =
        ⟨deezer, none⟩ ∧
      Command.Reachable (Deezer.kind 3 default)
        ⟨Deezer.Provider.new default ⟨"deezer--1", none, [("access_token", .string "tok")]⟩, none⟩
        ⟨deezer, none⟩ ∧
      deezer.session.isSome ∧ deezer.unload.session = none ∧ deezer.unload.base.available = false ∧
      runFrom soundcloudSetupNet []
          (Soundcloud.Provider.new default ⟨"soundcloud--1", none,
            [("authorization", .string "OAuth a"), ("client_id", .string "c")]⟩).setup =
        (.ok soundcloud,
          [(Http.Request.plain .get "https://api-v2.soundcloud.com/me?client_id=c").withHeader
            "authorization" "OAuth a"]) ∧
      soundcloud.base.available = true ∧
      (∃ s, soundcloud.session = some s ∧ s.mapper = ⟨"soundcloud", "soundcloud--1"⟩ ∧
        s.userId = "7") ∧
      (((Command.perform (Soundcloud.kind 3) ⟨soundcloud, none⟩ .setup).run .unreachable).run []).1.2 =
        ⟨soundcloud, none⟩ ∧
      Command.Reachable (Soundcloud.kind 3)
        ⟨Soundcloud.Provider.new default ⟨"soundcloud--1", none,
          [("authorization", .string "OAuth a"), ("client_id", .string "c")]⟩, none⟩
        ⟨soundcloud, none⟩ ∧
      soundcloud.session.isSome ∧ soundcloud.unload.session = none ∧
      soundcloud.unload.base.available = false := by
  obtain ⟨leavesState, deezerReachable, -, -, -, -, -, deezerOk, deezerUnload, soundcloudReachable,
    -, -, -, soundcloudOk, soundcloudUnload⟩ := providers_keep_session_consistent
  -- the first set-up of each instance, run on its vendor's answers
  have deezerSetUp : runFrom deezerSetupNet []
      (Deezer.Provider.new default ⟨"deezer--1", none, [("access_token", .string "tok")]⟩).setup =
      (.ok ((Deezer.Provider.new default ⟨"deezer--1", none, [("access_token", .string "tok")]⟩).signedIn
          (Deezer.Api.new "tok") ⟨.default, "tok", "f", "", "FR", false⟩ 5),
        [(Http.Request.plain .get
              "https://api.deezer.com/platform/generic/track/3135556").withHeader
            "authorization" "Bearer tok",
          ((Http.Request.plain .post "https://www.deezer.com/ajax/gw-light.php").withQuery
            [("api_version", "1.0"), ("api_token", "null"), ("input", "3"),
              ("method", "deezer.getUserData")]).withJson (.object []),
          Http.Request.plain .get "https://api.deezer.com/user/me?access_token=tok"]) := by
    decide +kernel
  have soundcloudSetUp : runFrom soundcloudSetupNet []
      (Soundcloud.Provider.new default ⟨"soundcloud--1", none,
        [("authorization", .string "OAuth a"), ("client_id", .string "c")]⟩).setup =
      (.ok ((Soundcloud.Provider.new default ⟨"soundcloud--1", none,
          [("authorization", .string "OAuth a"), ("client_id", .string "c")]⟩).signedIn
          (Soundcloud.Api.new "c" "OAuth a") "7"),
        [(Http.Request.plain .get "https://api-v2.soundcloud.com/me?client_id=c").withHeader
          "authorization" "OAuth a"]) := by
    decide +kernel
  -- the second set-up finds nothing to answer its first request
  have deezerRetry : (runFrom .unreachable [] ((Deezer.kind 3 default).setup
      ((Deezer.Provider.new default ⟨"deezer--1", none, [("access_token", .string "tok")]⟩).signedIn
        (Deezer.Api.new "tok") ⟨.default, "tok", "f", "", "FR", false⟩ 5))).1 =
      .error (.request
        "error sending request for url (https://api.deezer.com/platform/generic/track/3135556)") := by
    decide +kernel
  have soundcloudRetry : (runFrom .unreachable [] ((Soundcloud.kind 3).setup
      ((Soundcloud.Provider.new default ⟨"soundcloud--1", none,
        [("authorization", .string "OAuth a"), ("client_id", .string "c")]⟩).signedIn
        (Soundcloud.Api.new "c" "OAuth a") "7"))).1 =
      .error (.request "error sending request for url (https://api-v2.soundcloud.com/me?client_id=c)") := by
    decide +kernel
  have deezerMapper : ∃ s, ((Deezer.Provider.new default
      ⟨"deezer--1", none, [("access_token", .string "tok")]⟩).signedIn
        (Deezer.Api.new "tok") ⟨.default, "tok", "f", "", "FR", false⟩ 5).session = some s ∧
      s.mapper = ⟨"deezer", "deezer--1", some 5, some "FR"⟩ := ⟨_, rfl, rfl⟩
  have soundcloudMapper : ∃ s, ((Soundcloud.Provider.new default ⟨"soundcloud--1", none,
      [("authorization", .string "OAuth a"), ("client_id", .string "c")]⟩).signedIn
        (Soundcloud.Api.new "c" "OAuth a") "7").session = some s ∧
      s.mapper = ⟨"soundcloud", "soundcloud--1"⟩ ∧ s.userId = "7" := ⟨_, rfl, rfl, rfl⟩
  -- from here on the signed-in instances are only named
  generalize (Deezer.Provider.new default ⟨"deezer--1", none, [("access_token", .string "tok")]⟩).signedIn
    (Deezer.Api.new "tok") ⟨.default, "tok", "f", "", "FR", false⟩ 5 = deezer
    at deezerSetUp deezerRetry deezerMapper
  generalize (Soundcloud.Provider.new default ⟨"soundcloud--1", none,
      [("authorization", .string "OAuth a"), ("client_id", .string "c")]⟩).signedIn
    (Soundcloud.Api.new "c" "OAuth a") "7" = soundcloud
    at soundcloudSetUp soundcloudRetry soundcloudMapper
  have deezerKept := leavesState (Deezer.kind 3 default) ⟨deezer, none⟩ .unreachable [] _ deezerRetry
  have soundcloudKept :=
    leavesState (Soundcloud.kind 3) ⟨soundcloud, none⟩ .unreachable [] _ soundcloudRetry
  -- the run of two set-ups: the first signs in, the second changes nothing
  have deezerSigned : Command.Reachable (Deezer.kind 3 default)
      ⟨Deezer.Provider.new default ⟨"deezer--1", none, [("access_token", .string "tok")]⟩, none⟩
      ⟨deezer, none⟩ := by
    have first : Command.Reachable (Deezer.kind 3 default)
        ⟨Deezer.Provider.new default ⟨"deezer--1", none, [("access_token", .string "tok")]⟩, none⟩
        _ :=
      .step .setup deezerSetupNet [] .start
    simp only [Command.perform, exchange_run_bind, run_attempt,
      show (Deezer.kind 3 default).setup = Deezer.Provider.setup from rfl, deezerSetUp] at first
    exact first
  have soundcloudSigned : Command.Reachable (Soundcloud.kind 3)
      ⟨Soundcloud.Provider.new default ⟨"soundcloud--1", none,
        [("authorization", .string "OAuth a"), ("client_id", .string "c")]⟩, none⟩
      ⟨soundcloud, none⟩ := by
    have first : Command.Reachable (Soundcloud.kind 3)
        ⟨Soundcloud.Provider.new default ⟨"soundcloud--1", none,
          [("authorization", .string "OAuth a"), ("client_id", .string "c")]⟩, none⟩ _ :=
      .step .setup soundcloudSetupNet [] .start
    simp only [Command.perform, exchange_run_bind, run_attempt,
      show (Soundcloud.kind 3).setup = Soundcloud.Provider.setup from rfl, soundcloudSetUp] at first
    exact first
  have deezerRun := Command.Reachable.step .setup .unreachable [] deezerSigned
  have soundcloudRun := Command.Reachable.step .setup .unreachable [] soundcloudSigned
  rw [deezerKept] at deezerRun
  rw [soundcloudKept] at soundcloudRun
  exact ⟨deezer, soundcloud, deezerSetUp, (deezerOk _ _ _ _ _ deezerSetUp).1, deezerMapper,
    deezerKept, deezerRun, deezerReachable _ _ _ _ _ _ deezerRun (deezerOk _ _ _ _ _ deezerSetUp).1,
    (deezerUnload deezer).1, (deezerUnload deezer).2, soundcloudSetUp,
    (soundcloudOk _ _ _ _ _ soundcloudSetUp).1, soundcloudMapper, soundcloudKept, soundcloudRun,
    soundcloudReachable _ _ _ _ _ soundcloudRun (soundcloudOk _ _ _ _ _ soundcloudSetUp).1,
    (soundcloudUnload soundcloud).1, (soundcloudUnload soundcloud).2⟩

end MusicProviders
