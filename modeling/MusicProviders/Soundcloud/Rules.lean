import MusicProviders.Provider.Error
import MusicProviders.Http.Status

/-! # SoundCloud API rules

How SoundCloud's HTTP status codes are read: any 2xx is success, 401 and 403 mean the
credentials were rejected, 404 means the item does not exist, and every other status is
a vendor error naming the status and the URL.

* `checkStatus` — the outcome of a status for a URL.
-/

namespace MusicProviders

namespace Soundcloud

/-- The outcome of an answer's status for a request to `url`. -/
def checkStatus (status : Nat) (url : String) : Outcome Unit :=
  if Http.isSuccess status then .ok ()
  else if status = 401 ∨ status = 403 then
    .error (.loginFailed ("SoundCloud rejected the credentials (" ++ Http.statusText status ++ ")"))
  else if status = 404 then .error (.notFound url)
  else .error (.api ("HTTP " ++ Http.statusText status ++ " for " ++ url))

end Soundcloud

end MusicProviders
