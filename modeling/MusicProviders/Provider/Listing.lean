import MusicProviders.Provider.Error
import MusicProviders.Json.Basic

/-! # Listings and lookups

How providers treat vendor records that do not map.

* `skipMalformed` — in a listing, an item that fails as invalid data is dropped; every
  other item, good or failed, is kept.
* `softLookup` — a single-item lookup reports a missing, refused or malformed item as
  absent, and passes other failures on.
* `mapListing` — map the raw items of a listing, dropping the malformed ones.
-/

namespace MusicProviders

/-- Drop an item that failed as invalid data. -/
def skipMalformed {α : Type} : Outcome α → Option (Outcome α)
  | .error (.invalidData _) => none
  | other => some other

/-- A lookup's result, with soft failures turned into absence. -/
def softLookup {α : Type} : Outcome α → Outcome (Option α)
  | .ok a => .ok (some a)
  | .error e => if e.isSoftLookupFailure then .ok none else .error e

/-- Map every raw item of a listing, keeping failures and dropping malformed items. -/
def mapListing {α : Type} (parse : Json → Outcome α) (items : List (Outcome Json)) :
    List (Outcome α) :=
  items.filterMap fun item => skipMalformed (item.bind parse)

end MusicProviders
