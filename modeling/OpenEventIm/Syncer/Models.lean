import OpenEventIm.Foundation.Dict

/-!
# Configuration of the worker

The configuration records that the worker reads, after parsing.
-/

namespace OpenEventIm.Syncer.Models

open OpenEventIm.Foundation

structure WorkerConfig where
  principal : Nat
  token : String

structure RetryConfig where
  publishMaxAttempts : Nat
  publishRetryDelayMs : Nat
  idleSleepMs : Nat

structure ProviderSyncConfig where
  historyRetryDelayMs : Nat
  historyOverlapMs : Nat
  historyLookbackMs : Nat
  eventQueueSize : Nat

structure ProviderConfig where
  name : String
  sync : ProviderSyncConfig

structure MappingEntry where
  provider : String
  identityType : String
  externalUserId : String
  principal : Nat
  sessionId : String
  channelId : Nat
deriving DecidableEq

/-- `(provider, session_id)`. -/
abbrev Session := String × String

/-- `(channel_id, provider, identity_type, external_user_id)`. -/
structure ExternalKey where
  channelId : Nat
  provider : String
  identityType : String
  externalUserId : String
deriving DecidableEq

namespace MappingEntry

def session (entry : MappingEntry) : Session :=
  (entry.provider, entry.sessionId)

/-- The key of an entry in the table of external users. -/
def externalKey (entry : MappingEntry) (channelId : Nat) : ExternalKey where
  channelId := channelId
  provider := entry.provider
  identityType := entry.identityType
  externalUserId := entry.externalUserId

end MappingEntry

structure SyncerConfig where
  worker : WorkerConfig
  retry : RetryConfig
  principalTokens : Dict Nat String
  providers : Dict String ProviderConfig
  mappings : List MappingEntry

end OpenEventIm.Syncer.Models
