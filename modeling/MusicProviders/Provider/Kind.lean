import MusicProviders.Provider.Base
import MusicProviders.Provider.Operations

/-! # Kinds of provider instances

What a host needs to drive instances of one provider: the shared state of an instance,
the features the provider declares, its operations, and its lifecycle. Setting up may
fail, and then the instance is left as it was; unloading always succeeds.

* `InstanceKind σ` — the description for instance state `σ`.
* `InstanceKind.minimal` — the smallest provider: it implements stream details only
  (details of unknown format that name the instance and the item), setting up makes it
  available and unloading unavailable.
-/

namespace MusicProviders

/-- How instances with state `σ` are driven. -/
structure InstanceKind (σ : Type) where
  base : σ → Instance
  features : List ProviderFeature
  operations : σ → Operations
  setup : σ → Http σ
  unload : σ → σ

namespace InstanceKind

/-- The smallest provider: only stream details are implemented. -/
def minimal : InstanceKind Instance where
  base i := i
  features := []
  operations i := Operations.unsupported fun itemId => pure (StreamDetails.new i.instanceId itemId)
  setup i := pure { i with available := true }
  unload i := { i with available := false }

end InstanceKind

end MusicProviders
