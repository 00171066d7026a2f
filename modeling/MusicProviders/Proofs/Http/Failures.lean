import MusicProviders.Provider.Listing
import MusicProviders.Deezer.Api
import MusicProviders.Soundcloud.Api
import Mathlib.Tactic.SplitIfs

/-! # What an exchange can fail with

Listings drop the items that fail as invalid data and pass every other failure on, so
whether a failure reaches the caller depends on its kind. This module gives the kinds a
computation can fail with a compositional description:

* `Http.runFrom` — a run of an exchange on a network from a log of answered requests,
  with its equations for `pure`, `bind`, `lift` and `fail`.
* `Http.FailsOnly P x` — every failure of `x`, on every network and from every log,
  satisfies `P`; it is closed under `bind`, so a whole request pipeline is classified
  step by step.
* `Http.send_failsOnly` — sending fails only as a request error (a request that cannot
  be built, or one the network does not answer).
* `ProviderError.IsExchangeFailure` — the kinds the exchange of a request and its
  answer can produce: request, rejected login, missing item, vendor error. None of them
  is invalid data, so `skipMalformed` keeps them (`skipMalformed_of_isExchangeFailure`).
* `Http.ReportsRequest x request` — `x` fails as its request does, apart from malformed
  data; a step after the request that fails only as invalid data keeps it.
* `Deezer.Api.request_failsOnly`, `Soundcloud.Api.request_failsOnly` and the page
  requests of both vendors fail only that way: an answer that is not JSON is a request
  error, an error object or a refused status keeps the kind the vendor reports, and a
  page that does not decode is a vendor error.
-/

namespace MusicProviders

namespace Http

/-- Run an exchange that can fail on a network, from a log of answered requests. -/
def runFrom {α : Type} (net : Network) (log : List Request) (x : Http α) :
    Outcome α × List Request :=
  ((ExceptT.run x).run net).run log

theorem runFrom_bind {α β : Type} (net : Network) (log : List Request) (x : Http α)
    (f : α → Http β) :
    runFrom net log (x >>= f) =
      match runFrom net log x with
      | (.ok a, log') => runFrom net log' (f a)
      | (.error e, log') => (.error e, log') := by
  simp only [runFrom, ExceptT.run_bind, ReaderT.run_bind, StateT.run_bind]
  rcases ((ExceptT.run x).run net).run log with ⟨_ | a, log'⟩ <;> rfl

@[simp] theorem runFrom_pure {α : Type} (net : Network) (log : List Request) (a : α) :
    runFrom net log (pure a) = (.ok a, log) :=
  rfl

@[simp] theorem runFrom_lift {α : Type} (net : Network) (log : List Request) (o : Outcome α) :
    runFrom net log (lift o) = (o, log) := by
  cases o <;> rfl

@[simp] theorem runFrom_fail {α : Type} (net : Network) (log : List Request) (e : ProviderError) :
    runFrom net log (fail e : Http α) = (.error e, log) :=
  rfl

theorem exchange_run_bind {α β : Type} (x : Exchange α) (f : α → Exchange β) (net : Network)
    (log : List Request) :
    ((x >>= f).run net).run log =
      ((f ((x.run net).run log).1).run net).run ((x.run net).run log).2 :=
  rfl

@[simp] theorem run_attempt {α : Type} (net : Network) (log : List Request) (x : Http α) :
    ((attempt x).run net).run log = runFrom net log x :=
  rfl

theorem runFrom_bind_of_error {α β : Type} {net : Network} {log log' : List Request} {x : Http α}
    {e : ProviderError} (failed : runFrom net log x = (.error e, log')) (f : α → Http β) :
    runFrom net log (x >>= f) = (.error e, log') := by
  rw [runFrom_bind, failed]

/-- Mapping the result of a run sends nothing more. -/
theorem runFrom_bind_pure_log {α β : Type} (net : Network) (log : List Request) (x : Http α)
    (f : α → β) :
    (runFrom net log (x >>= fun a => pure (f a))).2 = (runFrom net log x).2 := by
  rw [runFrom_bind]
  rcases runFrom net log x with ⟨_ | a, log'⟩ <;> rfl

theorem runFrom_ofExchange {α : Type} (net : Network) (log : List Request) (x : Exchange α) :
    runFrom net log (ofExchange x) = (.ok ((x.run net).run log).1, ((x.run net).run log).2) :=
  rfl

theorem runFrom_outcome {α : Type} (net : Network) (log : List Request) (x : Http α) :
    runFrom net log (outcome x) = (.ok (runFrom net log x).1, (runFrom net log x).2) :=
  rfl

/-- Every failure of `x`, on every network and from every log, satisfies `P`. -/
def FailsOnly {α : Type} (P : ProviderError → Prop) (x : Http α) : Prop :=
  ∀ net log e, (runFrom net log x).1 = .error e → P e

namespace FailsOnly

variable {P : ProviderError → Prop}

theorem pure {α : Type} (a : α) : FailsOnly P (Pure.pure a : Http α) := by
  intro net log e failed
  cases failed

theorem bind {α β : Type} {x : Http α} {f : α → Http β} (first : FailsOnly P x)
    (rest : ∀ a, FailsOnly P (f a)) : FailsOnly P (x >>= f) := by
  intro net log e failed
  rw [runFrom_bind] at failed
  rcases ran : runFrom net log x with ⟨_ | a, log'⟩
  · rw [ran] at failed
    exact first net log e (by rw [ran]; simpa using failed)
  · rw [ran] at failed
    exact rest a net log' e failed

theorem lift {α : Type} {o : Outcome α} (kind : ∀ e, o = .error e → P e) :
    FailsOnly P (Http.lift o) := by
  intro net log e failed
  rw [runFrom_lift] at failed
  exact kind e failed

theorem fail {α : Type} {e : ProviderError} (kind : P e) :
    FailsOnly P (Http.fail e : Http α) := by
  intro net log e' failed
  cases failed
  exact kind

theorem ofExchange {α : Type} (x : Exchange α) : FailsOnly P (Http.ofExchange x) := by
  intro net log e failed
  cases failed

theorem read : FailsOnly P (MonadReader.read : Http Network) := by
  intro net log e failed
  cases failed

theorem get : FailsOnly P (MonadState.get : Http (List Request)) := by
  intro net log e failed
  cases failed

theorem set (log : List Request) : FailsOnly P (MonadStateOf.set log : Http PUnit) := by
  intro net log' e failed
  cases failed

end FailsOnly

/-- A request that cannot be built is refused as a request error. -/
theorem problem_kind {r : Request} {e : ProviderError} (found : r.problem? = some e) :
    ∃ d, e = .request d := by
  unfold Request.problem? at found
  split at found
  · cases found
    exact ⟨_, rfl⟩
  · split at found
    · cases found
      exact ⟨_, rfl⟩
    · cases found

theorem send_failsOnly (r : Request) {P : ProviderError → Prop}
    (request : ∀ d, P (.request d)) :
    FailsOnly P (send r) := by
  unfold send
  split
  next e found =>
    obtain ⟨d, rfl⟩ := problem_kind found
    exact FailsOnly.fail (request d)
  next =>
    refine FailsOnly.bind FailsOnly.read fun net => FailsOnly.bind FailsOnly.get fun log => ?_
    -- the network either answers, or the request fails naming its URL
    split
    · exact FailsOnly.fail (request _)
    · exact FailsOnly.bind (FailsOnly.set _) fun _ => FailsOnly.pure _

/-- An answer whose body is not JSON is a request error. -/
theorem Response.json_kind {a : Response} {e : ProviderError} (failed : a.json = .error e) :
    ∃ d, e = .request d := by
  unfold Response.json at failed
  split at failed
  · cases failed
    exact ⟨_, rfl⟩
  · split at failed
    · cases failed
    · cases failed
      exact ⟨_, rfl⟩

end Http

namespace ProviderError

/-- The failures the exchange of a request and its answer can produce: the request
could not be sent or its answer not read, or the vendor rejected the login, reported
the item missing or answered with an error. -/
def IsExchangeFailure : ProviderError → Prop
  | .request _ | .loginFailed _ | .notFound _ | .api _ => True
  | _ => False

/-- A vendor record that is malformed: listings skip such items. -/
def IsInvalidData : ProviderError → Prop
  | .invalidData _ => True
  | _ => False

end ProviderError

theorem skipMalformed_of_isInvalidData {α : Type} {e : ProviderError}
    (malformed : e.IsInvalidData) :
    skipMalformed (.error e : Outcome α) = none := by
  cases e <;> first | rfl | exact absurd malformed id

theorem skipMalformed_of_isExchangeFailure {α : Type} {e : ProviderError}
    (exchange : e.IsExchangeFailure) : skipMalformed (.error e : Outcome α) = some (.error e) := by
  cases e <;> first | rfl | exact absurd exchange id

namespace Http

theorem send_failsOnly_exchange (r : Request) :
    FailsOnly ProviderError.IsExchangeFailure (send r) :=
  send_failsOnly r fun _ => trivial

theorem lift_json_failsOnly (a : Response) :
    FailsOnly ProviderError.IsExchangeFailure (lift a.json) :=
  FailsOnly.lift fun _ failed => by
    obtain ⟨d, rfl⟩ := Response.json_kind failed
    trivial

/-- `x` fails as `request` does, apart from malformed data: a failure of the request is
the failure of `x`, with the same log, and every other failure of `x` is invalid data. -/
def ReportsRequest {α β : Type} (x : Http α) (request : Http β) : Prop :=
  ∀ net log e log',
    (runFrom net log request = (.error e, log') → runFrom net log x = (.error e, log')) ∧
      (runFrom net log x = (.error e, log') →
        e.IsInvalidData ∨ runFrom net log request = (.error e, log'))

namespace ReportsRequest

theorem refl {β : Type} (request : Http β) : ReportsRequest request request :=
  fun _ _ _ _ => ⟨id, Or.inr⟩

/-- A step after the request that fails only on malformed data keeps the property. -/
theorem bind {α β γ : Type} {x : Http α} {request : Http β} {k : α → Http γ}
    (reports : ReportsRequest x request)
    (malformed : ∀ a, FailsOnly ProviderError.IsInvalidData (k a)) :
    ReportsRequest (x >>= k) request := by
  intro net log e log'
  constructor
  · intro requestFailed
    exact runFrom_bind_of_error ((reports net log e log').1 requestFailed) k
  · intro failed
    rw [runFrom_bind] at failed
    rcases ran : runFrom net log x with ⟨_ | a, log₁⟩
    · rw [ran] at failed
      cases failed
      exact (reports net log e log').2 ran
    · rw [ran] at failed
      exact Or.inl (malformed a net log₁ e (by simp only at failed; rw [failed]))

end ReportsRequest

end Http

/-! ## Deezer requests -/

namespace Deezer

/-- An error object fails with the kind its code and type name: missing item, rejected
login, or vendor error. -/
theorem checkError_kind {data : Json} {e : ProviderError} (failed : checkError data = .error e) :
    e.IsExchangeFailure := by
  unfold checkError at failed
  split at failed
  · simp only at failed
    split_ifs at failed <;> cases failed <;> trivial
  · cases failed

/-- A page that does not decode is a vendor error. -/
theorem decodePage_kind {v : Json} {e : ProviderError} (failed : decodePage v = .error e) :
    ∃ d, e = .api d := by
  unfold decodePage at failed
  cases decoded : pageDecoder v with
  | error d =>
    rw [decoded] at failed
    cases failed
    exact ⟨_, rfl⟩
  | ok page =>
    rw [decoded] at failed
    cases failed

namespace Api

theorem request_failsOnly (api : Api) (method : Http.Method) (url : String)
    (params : List (String × String)) :
    Http.FailsOnly ProviderError.IsExchangeFailure (api.request method url params) := by
  unfold request
  refine Http.FailsOnly.bind (Http.send_failsOnly_exchange _) fun answer => ?_
  refine Http.FailsOnly.bind (Http.lift_json_failsOnly answer) fun data => ?_
  exact Http.FailsOnly.lift fun _ failed => checkError_kind failed

theorem pages_fetch_failsOnly (api : Api) (path : String) (params : List (String × String))
    (req : PageRequest) :
    Http.FailsOnly ProviderError.IsExchangeFailure ((api.pages path params).fetch req) := by
  refine Http.FailsOnly.bind (api.request_failsOnly _ _ _) fun data => ?_
  refine Http.FailsOnly.bind (Http.FailsOnly.lift fun _ failed => ?_) fun _ => Http.FailsOnly.pure _
  obtain ⟨d, rfl⟩ := decodePage_kind failed
  trivial

end Api

end Deezer

/-! ## SoundCloud requests -/

namespace Soundcloud

/-- A refused status fails as a rejected login, a missing item or a vendor error. -/
theorem checkStatus_kind {status : Nat} {url : String} {e : ProviderError}
    (failed : checkStatus status url = .error e) : e.IsExchangeFailure := by
  unfold checkStatus at failed
  split_ifs at failed <;> cases failed <;> trivial

theorem decodeCollection_kind {v : Json} {e : ProviderError}
    (failed : decodeCollection v = .error e) : ∃ d, e = .api d := by
  unfold decodeCollection at failed
  cases decoded : collectionDecoder v with
  | error d =>
    rw [decoded] at failed
    cases failed
    exact ⟨_, rfl⟩
  | ok page =>
    rw [decoded] at failed
    cases failed

namespace Api

theorem request_failsOnly (api : Api) (url : String) (params : List (String × String)) :
    Http.FailsOnly ProviderError.IsExchangeFailure (api.request url params) := by
  unfold request
  refine Http.FailsOnly.bind (Http.send_failsOnly_exchange _) fun answer => ?_
  refine Http.FailsOnly.bind (Http.FailsOnly.lift fun _ failed => checkStatus_kind failed)
    fun _ => ?_
  exact Http.lift_json_failsOnly answer

theorem pages_fetch_failsOnly (api : Api) (path : String) (params : List (String × String))
    (req : PageRequest) :
    Http.FailsOnly ProviderError.IsExchangeFailure ((api.pages path params).fetch req) := by
  refine Http.FailsOnly.bind (api.request_failsOnly _ _) fun data => ?_
  refine Http.FailsOnly.bind (Http.FailsOnly.lift fun _ failed => ?_) fun _ => Http.FailsOnly.pure _
  obtain ⟨d, rfl⟩ := decodeCollection_kind failed
  trivial

end Api

end Soundcloud

end MusicProviders
