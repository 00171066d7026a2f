/-! # Provider errors

Every fallible provider operation fails with a `ProviderError`: a kind and a detail
text. The kinds tell callers what went wrong (credentials, data shape, missing support,
missing item, vendor refusal, transport, decoding, decryption, local input and output).

* `ProviderError.kindName` — the name of the kind, as answers report it.
* `ProviderError.message` — the human-readable text: a fixed heading per kind and the
  detail.
* `ProviderError.isSoftLookupFailure` — the kinds a single-item lookup turns into an
  absent result instead of a failure.
-/

namespace MusicProviders

/-- Why a provider operation failed, with a detail text. -/
inductive ProviderError
  /-- Credentials are missing, invalid or were rejected by the vendor. -/
  | loginFailed (detail : String)
  /-- A vendor record was missing required fields or had the wrong shape. -/
  | invalidData (detail : String)
  /-- The operation or media type is not supported by this provider. -/
  | notImplemented (detail : String)
  /-- The vendor reported that the requested item does not exist. -/
  | notFound (detail : String)
  /-- The vendor answered with an error message. -/
  | api (detail : String)
  /-- The request could not be sent or its answer not read. -/
  | request (detail : String)
  /-- Text that should have been JSON, or JSON of the wrong shape. -/
  | parse (detail : String)
  /-- Decryption failed. -/
  | crypto (detail : String)
  /-- Local input or output failed. -/
  | io (detail : String)
deriving DecidableEq, Repr, Inhabited

namespace ProviderError

/-- The name of the error kind. -/
def kindName : ProviderError → String
  | .loginFailed _ => "LoginFailed"
  | .invalidData _ => "InvalidData"
  | .notImplemented _ => "NotImplemented"
  | .notFound _ => "NotFound"
  | .api _ => "Api"
  | .request _ => "Request"
  | .parse _ => "Parse"
  | .crypto _ => "Crypto"
  | .io _ => "Io"

/-- The detail text. -/
def detail : ProviderError → String
  | .loginFailed d | .invalidData d | .notImplemented d | .notFound d | .api d
  | .request d | .parse d | .crypto d | .io d => d

/-- The heading that starts the message of each kind. -/
def heading : ProviderError → String
  | .loginFailed _ => "Login failed"
  | .invalidData _ => "Invalid data"
  | .notImplemented _ => "Not implemented"
  | .notFound _ => "Not found"
  | .api _ => "API error"
  | .request _ => "Request error"
  | .parse _ => "Parse error"
  | .crypto _ => "Crypto error"
  | .io _ => "IO error"

/-- The full message: heading, a colon and the detail. -/
def message (e : ProviderError) : String := e.heading ++ ": " ++ e.detail

/-- Whether a single-item lookup should report the item as absent instead of failing:
the vendor said it does not exist, refused with a message, or sent a malformed record. -/
def isSoftLookupFailure : ProviderError → Bool
  | .notFound _ | .api _ | .invalidData _ => true
  | _ => false

/-- An error of the kind with the given name, for the six kinds a caller can raise
without a transport; `none` for any other name. -/
def ofKindName (kind detail : String) : Option ProviderError :=
  match kind with
  | "LoginFailed" => some (.loginFailed detail)
  | "InvalidData" => some (.invalidData detail)
  | "NotImplemented" => some (.notImplemented detail)
  | "NotFound" => some (.notFound detail)
  | "Api" => some (.api detail)
  | "Crypto" => some (.crypto detail)
  | "Io" => some (.io detail)
  | _ => none

end ProviderError

/-- The outcome of a provider operation. -/
abbrev Outcome (α : Type) := Except ProviderError α

/-- Outcomes are compared by their values or their errors. -/
instance instDecidableEqExcept {ε α : Type} [DecidableEq ε] [DecidableEq α] :
    DecidableEq (Except ε α)
  | .error a, .error b => decidable_of_iff (a = b) (by simp)
  | .ok a, .ok b => decidable_of_iff (a = b) (by simp)
  | .error _, .ok _ => isFalse (by simp)
  | .ok _, .error _ => isFalse (by simp)

end MusicProviders
