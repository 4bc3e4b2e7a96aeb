import OpenEventIm.Foundation.Checked
import OpenEventIm.Sdk.Errors
import OpenEventIm.Syncer.Models
import Mathlib.Data.Finset.Card
import Mathlib.Data.List.Sort

/-!
# The mapping index

`P2PMappingIndex` groups the mapping entries by channel and checks each group
when it is built: two entries, one user and one bot, with distinct principals,
tokens for both, and one provider session that no other channel uses.

The channel table is a `defaultdict`: reading a channel that is not there
inserts an empty list, so the queries that read it also return the index they
leave behind.
-/

namespace OpenEventIm.Syncer.Mapping

open OpenEventIm.Foundation
open OpenEventIm.Foundation.Checked
open OpenEventIm.Sdk.Errors
open OpenEventIm.Syncer.Models

structure P2PMappingIndex where
  config : SyncerConfig
  byChannel : Dict Nat (List MappingEntry)
  channelSession : Dict Nat Session
  sessionChannel : Dict Session Nat
  externalByChannel : Dict ExternalKey MappingEntry
  principalByChannel : Dict (Nat × Nat) MappingEntry

namespace P2PMappingIndex

/-! ## Queries -/

variable (index : P2PMappingIndex)

/-- Reading `_by_channel[channel_id]`. -/
def readChannel (channelId : Nat) : List MappingEntry × P2PMappingIndex :=
  match index.byChannel.get? channelId with
  | some entries => (entries, index)
  | none =>
      ([], { index with byChannel := index.byChannel.set channelId [] })

/-- `channel_ids`. -/
def channelIds : List Nat := index.byChannel.keys.mergeSort

/-- `owns_channel`. -/
def ownsChannel (channelId : Nat) : Bool := index.byChannel.contains channelId

/-- `entries_for_channel`. -/
def entriesForChannel (channelId : Nat) :
    List MappingEntry × P2PMappingIndex :=
  index.readChannel channelId

/-- `provider_session`. -/
def providerSession (channelId : Nat) : Except PyError Session :=
  match index.channelSession.get? channelId with
  | some session => .ok session
  | none => .error (.raised .keyError s!"{channelId}")

/-- `channel_for_provider_session`. -/
def channelForProviderSession (provider sessionId : String) :
    Except PyError Nat :=
  match index.sessionChannel.get? (provider, sessionId) with
  | some channelId => .ok channelId
  | none => .error (.raised .keyError s!"({provider}, {sessionId})")

/-- `provider_config_for_channel`. -/
def providerConfigForChannel (channelId : Nat) :
    Except PyError ProviderConfig := do
  let session ← index.providerSession channelId
  match index.config.providers.get? session.1 with
  | some config => .ok config
  | none => .error (.raised .keyError session.1)

/-- `sender_external_user_id`. -/
def senderExternalUserId (channelId principal : Nat)
    (identityType : Option String) : Except PyError String :=
  match index.principalByChannel.get? (channelId, principal) with
  | none => .error (.raised .keyError
      s!"principal {principal} is not mapped in channel {channelId}")
  | some entry =>
      match identityType with
      | some expected =>
          if entry.identityType ≠ expected then
            .error (.raised .keyError
              s!"principal {principal} is not mapped as {expected} in channel {channelId}")
          else
            .ok entry.externalUserId
      | none => .ok entry.externalUserId

/-- `principal_for_external_user`. -/
def principalForExternalUser (channelId : Nat)
    (provider externalUserId identityType : String) : Except PyError Nat :=
  match index.externalByChannel.get?
      { channelId, provider, identityType, externalUserId } with
  | some entry => .ok entry.principal
  | none => .error (.raised .keyError
      s!"external {identityType} {externalUserId} is not mapped in channel {channelId}")

/-- `peer_principals`. -/
def peerPrincipals (channelId principal : Nat) :
    List Nat × P2PMappingIndex :=
  let (entries, index) := index.readChannel channelId
  (((entries.map MappingEntry.principal).filter (· ≠ principal)).mergeSort,
    index)

/-- `user_token`. -/
def userToken (principal : Nat) : Except PyError String :=
  match index.config.principalTokens.get? principal with
  | some token => .ok token
  | none => .error (.raised .keyError s!"{principal}")

/-! ## Construction -/

def configError (message : String) : PyError := .raised .configError message

/-- The grouping loop of `_build`. -/
def groupByChannel (mappings : List MappingEntry) :
    Dict Nat (List MappingEntry) :=
  mappings.foldl
    (fun groups item => groups.set item.channelId
      ((groups.get? item.channelId).getD [] ++ [item])) ∅

/-- The body of the loop over the entries of a channel. -/
def addEntry (channelId : Nat) (index : P2PMappingIndex)
    (item : MappingEntry) : Except PyError P2PMappingIndex := do
  require (index.config.principalTokens.contains item.principal)
    (configError s!"principal {item.principal} has no token")
  require (index.externalByChannel.get? (item.externalKey channelId) = none)
    (configError
      "duplicate (channel_id, provider, identity_type, external_user_id)")
  require (index.principalByChannel.get? (channelId, item.principal) = none)
    (configError "duplicate (channel_id, principal)")
  return { index with
    externalByChannel :=
      index.externalByChannel.set (item.externalKey channelId) item
    principalByChannel :=
      index.principalByChannel.set (channelId, item.principal) item }

/-- The body of the loop over the channels. -/
def addChannel (index : P2PMappingIndex)
    (group : Nat × List MappingEntry) : Except PyError P2PMappingIndex := do
  let (channelId, entries) := group
  require ((entries.map MappingEntry.principal).toFinset.card = 2 ∧
      entries.length = 2)
    (configError
      s!"p2p channel {channelId} must have exactly two distinct principals")
  require ((entries.map MappingEntry.identityType).toFinset = {"user", "bot"})
    (configError s!"p2p channel {channelId} must have one user and one bot")
  let index ← entries.foldlM (addEntry channelId) index
  match (entries.map MappingEntry.session).dedup with
  | [session] =>
      require (∀ other, index.sessionChannel.get? session = some other →
          other = channelId)
        (configError "duplicate (provider, session_id) across channels")
      return { index with
        sessionChannel := index.sessionChannel.set session channelId
        channelSession := index.channelSession.set channelId session }
  | _ => .error (configError
      s!"channel {channelId} maps to multiple provider sessions")

/-- `P2PMappingIndex(config)`. -/
def build (config : SyncerConfig) : Except PyError P2PMappingIndex :=
  let byChannel := groupByChannel config.mappings
  byChannel.items.foldlM addChannel
    { config, byChannel
      channelSession := ∅
      sessionChannel := ∅
      externalByChannel := ∅
      principalByChannel := ∅ }

/-! ## What a successful construction establishes -/

/-- The entries of a channel after the checks of `_build`. -/
structure ChannelEntries (session : Session) (entries : List MappingEntry) :
    Prop where
  principals : (entries.map MappingEntry.principal).Nodup
  length : entries.length = 2
  session : ∀ entry ∈ entries, entry.session = session

/-- The entries found through the two user tables are the channel's own. -/
structure EntriesFound (index : P2PMappingIndex) : Prop where
  byPrincipal : ∀ channelId principal entry,
    index.principalByChannel.get? (channelId, principal) = some entry →
      entry.principal = principal ∧
        ∃ entries, index.byChannel.get? channelId = some entries ∧
          entry ∈ entries
  byExternal : ∀ key entry,
    index.externalByChannel.get? key = some entry →
      entry.externalKey key.channelId = key ∧
        ∃ entries, index.byChannel.get? key.channelId = some entries ∧
          entry ∈ entries

/-- The tables of the index agree with the channels checked so far. -/
structure Consistent (index : P2PMappingIndex)
    (checked : List (Nat × List MappingEntry)) : Prop where
  sessions : ∀ channelId session,
    index.channelSession.get? channelId = some session ↔
      index.sessionChannel.get? session = some channelId
  channel : ∀ group ∈ checked, ∃ session,
    index.channelSession.get? group.1 = some session ∧
      ChannelEntries session group.2
  owned : ∀ channelId session,
    index.channelSession.get? channelId = some session →
      channelId ∈ checked.map Prod.fst
  found : EntriesFound index

theorem addEntry_eq_ok {index next : P2PMappingIndex} {channelId : Nat}
    {item : MappingEntry} (added : addEntry channelId index item = .ok next) :
    next = { index with
      externalByChannel :=
        index.externalByChannel.set (item.externalKey channelId) item
      principalByChannel :=
        index.principalByChannel.set (channelId, item.principal) item } := by
  rw [addEntry, unit_bind_eq_ok_iff, unit_bind_eq_ok_iff,
    unit_bind_eq_ok_iff] at added
  exact (Except.ok.inj added.2.2.2).symm

/-- Adding the entries of a channel touches the two user tables only. -/
theorem foldlM_addEntry_eq_ok {index next : P2PMappingIndex}
    {channelId : Nat} {entries : List MappingEntry}
    (present : index.byChannel.get? channelId = some entries)
    (found : EntriesFound index)
    (added : entries.foldlM (addEntry channelId) index = .ok next) :
    EntriesFound next ∧ next.config = index.config ∧
      next.byChannel = index.byChannel ∧
        next.channelSession = index.channelSession ∧
          next.sessionChannel = index.sessionChannel := by
  apply foldlM_induct (fun _ next =>
    EntriesFound next ∧ next.config = index.config ∧
      next.byChannel = index.byChannel ∧
        next.channelSession = index.channelSession ∧
          next.sessionChannel = index.sessionChannel) added
  · exact ⟨found, rfl, rfl, rfl, rfl⟩
  · rintro done item before after ⟨rest, split⟩
      ⟨beforeFound, sameConfig, sameChannels, sameSessions⟩ stepped
    have equal := addEntry_eq_ok stepped
    subst equal
    have stillPresent : before.byChannel.get? channelId = some entries := by
      rw [sameChannels]
      exact present
    have member : item ∈ entries := by
      rw [← split]
      simp
    refine ⟨⟨?_, ?_⟩, sameConfig, sameChannels, sameSessions⟩
    · intro otherChannel principal entry stored
      rw [Dict.get?_set] at stored
      split_ifs at stored with same
      · cases stored
        cases same
        exact ⟨rfl, entries, stillPresent, member⟩
      · exact beforeFound.byPrincipal _ _ _ stored
    · intro key entry stored
      rw [Dict.get?_set] at stored
      split_ifs at stored with same
      · cases stored
        subst same
        exact ⟨rfl, entries, stillPresent, member⟩
      · exact beforeFound.byExternal _ _ stored

theorem nodup_of_card_toFinset {values : List Nat}
    (full : values.toFinset.card = values.length) : values.Nodup := by
  rw [List.card_toFinset] at full
  have same := (List.dedup_sublist values).eq_of_length full
  rw [← same]
  exact List.nodup_dedup values

/-- What the loop body for one channel checks and stores. -/
theorem addChannel_eq_ok {index next : P2PMappingIndex} {channelId : Nat}
    {entries : List MappingEntry}
    (present : index.byChannel.get? channelId = some entries)
    (found : EntriesFound index)
    (added : addChannel index (channelId, entries) = .ok next) :
    ∃ session, ChannelEntries session entries ∧
      (∀ other, index.sessionChannel.get? session = some other →
        other = channelId) ∧
      EntriesFound next ∧ next.config = index.config ∧
      next.byChannel = index.byChannel ∧
      next.channelSession = index.channelSession.set channelId session ∧
      next.sessionChannel = index.sessionChannel.set session channelId := by
  rw [addChannel, unit_bind_eq_ok_iff, unit_bind_eq_ok_iff,
    bind_eq_ok_iff] at added
  obtain ⟨principals, -, middle, folded, stored⟩ := added
  rw [require_eq_ok_iff] at principals
  obtain ⟨middleFound, sameConfig, sameChannels, sameSessions, sameOwners⟩ :=
    foldlM_addEntry_eq_ok present found folded
  split at stored
  · rename_i session single
    rw [unit_bind_eq_ok_iff, require_eq_ok_iff, sameOwners] at stored
    obtain ⟨unused, returned⟩ := stored
    cases returned
    refine ⟨session, ⟨?_, principals.2, ?_⟩, unused, ⟨?_, ?_⟩, sameConfig,
      sameChannels, by rw [← sameSessions], by rw [← sameOwners]⟩
    · exact nodup_of_card_toFinset (principals.1.trans (by simp [principals.2]))
    · intro entry member
      have inDedup : entry.session ∈
          (entries.map MappingEntry.session).dedup :=
        List.mem_dedup.mpr (List.mem_map_of_mem member)
      rw [single] at inDedup
      exact List.mem_singleton.mp inDedup
    · exact middleFound.byPrincipal
    · exact middleFound.byExternal
  · cases stored

/-- The loop over the channels keeps the tables consistent. -/
theorem Consistent.addChannel {index next : P2PMappingIndex}
    {done : List (Nat × List MappingEntry)} {group : Nat × List MappingEntry}
    (consistent : Consistent index done)
    (present : index.byChannel.get? group.1 = some group.2)
    (isNew : group.1 ∉ done.map Prod.fst)
    (added : addChannel index group = .ok next) :
    Consistent next (done ++ [group]) ∧ next.config = index.config ∧
      next.byChannel = index.byChannel := by
  obtain ⟨session, entries, unused, found, sameConfig, sameChannels,
    channelSession, sessionChannel⟩ :=
      addChannel_eq_ok present consistent.found added
  have noSession : index.channelSession.get? group.1 = none := by
    rw [← Option.not_isSome_iff_eq_none, Option.isSome_iff_exists]
    rintro ⟨stored, known⟩
    exact isNew (consistent.owned _ _ known)
  have noOwner : ∀ other, index.sessionChannel.get? session ≠ some other := by
    intro other owner
    have equal := unused other owner
    subst equal
    have known := (consistent.sessions _ _).mpr owner
    rw [noSession] at known
    cases known
  refine ⟨⟨?_, ?_, ?_, found⟩, sameConfig, sameChannels⟩
  · intro channelId other
    rw [channelSession, sessionChannel, Dict.get?_set, Dict.get?_set]
    split_ifs with sameChannel sameSession sameSession
    · simp [sameChannel, sameSession]
    · constructor
      · intro equal
        exact absurd (Option.some.inj equal) sameSession
      · intro owner
        have known := (consistent.sessions _ _).mpr owner
        rw [← sameChannel, noSession] at known
        cases known
    · constructor
      · intro known
        have owner := (consistent.sessions _ _).mp known
        exact absurd owner (sameSession ▸ noOwner channelId)
      · intro equal
        exact absurd (Option.some.inj equal) sameChannel
    · exact consistent.sessions channelId other
  · intro other member
    rw [channelSession, Dict.get?_set]
    rcases List.mem_append.mp member with before | isLast
    · have different : group.1 ≠ other.1 := fun equal =>
        isNew (equal ▸ List.mem_map_of_mem before)
      rw [if_neg different]
      exact consistent.channel other before
    · rw [List.mem_singleton.mp isLast, if_pos rfl]
      exact ⟨session, rfl, entries⟩
  · intro channelId other stored
    rw [channelSession, Dict.get?_set] at stored
    rw [List.map_append, List.mem_append]
    split_ifs at stored with same
    · exact Or.inr (by simp [same])
    · exact Or.inl (consistent.owned channelId other stored)

/-- A mapping index that its constructor accepted. -/
theorem consistent_build {config : SyncerConfig} {index : P2PMappingIndex}
    (built : build config = .ok index) :
    Consistent index index.byChannel.items ∧ index.config = config := by
  have whole := foldlM_induct (fun done next =>
    Consistent next done ∧ next.config = config ∧
      next.byChannel = groupByChannel config.mappings) built
    ⟨⟨by simp, by simp, by simp, by simp, by simp⟩, rfl, rfl⟩ (by
      rintro done group before after isPrefix
        ⟨consistent, sameConfig, sameChannels⟩ added
      have distinct := (groupByChannel config.mappings).distinct
      have member : group ∈ (groupByChannel config.mappings).items :=
        isPrefix.subset (by simp)
      have present : before.byChannel.get? group.1 = some group.2 := by
        rw [sameChannels]
        exact Items.get?_of_mem distinct member
      have isNew := Items.notMem_keys_of_isPrefix distinct isPrefix
      obtain ⟨next, nextConfig, nextChannels⟩ :=
        consistent.addChannel present isNew added
      exact ⟨next, nextConfig.trans sameConfig, nextChannels.trans sameChannels⟩)
  obtain ⟨consistent, sameConfig, sameChannels⟩ := whole
  rw [← sameChannels] at consistent
  exact ⟨consistent, sameConfig⟩

section Built

variable {config : SyncerConfig} {index : P2PMappingIndex}

theorem providerSession_eq_ok_iff {channelId : Nat} {session : Session} :
    index.providerSession channelId = .ok session ↔
      index.channelSession.get? channelId = some session := by
  unfold providerSession
  cases index.channelSession.get? channelId <;> simp

theorem channelForProviderSession_eq_ok_iff {session : Session}
    {channelId : Nat} :
    index.channelForProviderSession session.1 session.2 = .ok channelId ↔
      index.sessionChannel.get? session = some channelId := by
  unfold channelForProviderSession
  cases index.sessionChannel.get? session <;> simp

/-- Channels and provider sessions correspond one to one. -/
theorem channelForProviderSession_iff (built : build config = .ok index)
    {channelId : Nat} {session : Session} :
    index.channelForProviderSession session.1 session.2 = .ok channelId ↔
      index.providerSession channelId = .ok session := by
  rw [channelForProviderSession_eq_ok_iff, providerSession_eq_ok_iff]
  exact ((consistent_build built).1.sessions channelId session).symm

theorem exists_channelEntries (built : build config = .ok index)
    {channelId : Nat} (owned : index.ownsChannel channelId = true) :
    ∃ session entries, index.providerSession channelId = .ok session ∧
      index.byChannel.get? channelId = some entries ∧
        ChannelEntries session entries := by
  obtain ⟨entries, present⟩ := Option.isSome_iff_exists.mp owned
  obtain ⟨session, known, checked⟩ :=
    (consistent_build built).1.channel _ (Items.mem_of_get? present)
  exact ⟨session, entries, providerSession_eq_ok_iff.mpr known, present,
    checked⟩

theorem ownsChannel_of_providerSession (built : build config = .ok index)
    {channelId : Nat} {session : Session}
    (known : index.providerSession channelId = .ok session) :
    index.ownsChannel channelId = true := by
  have owned := (consistent_build built).1.owned _ _
    (providerSession_eq_ok_iff.mp known)
  exact Dict.contains_iff.mpr owned

/-- The principal found for an external user participates in the channel. -/
theorem principalForExternalUser_mem (built : build config = .ok index)
    {channelId principal : Nat} {provider externalUserId identityType : String}
    (found : index.principalForExternalUser channelId provider externalUserId
      identityType = .ok principal) :
    ∃ entries, index.byChannel.get? channelId = some entries ∧
      principal ∈ entries.map MappingEntry.principal := by
  unfold principalForExternalUser at found
  split at found
  · rename_i entry stored
    cases found
    obtain ⟨-, entries, present, member⟩ :=
      (consistent_build built).1.found.byExternal _ _ stored
    exact ⟨entries, present, List.mem_map_of_mem member⟩
  · cases found

theorem peerPrincipals_pair {channelId : Nat} {first second : MappingEntry}
    (present : index.byChannel.get? channelId = some [first, second])
    (different : first.principal ≠ second.principal) :
    index.peerPrincipals channelId first.principal =
        ([second.principal], index) ∧
      index.peerPrincipals channelId second.principal =
        ([first.principal], index) := by
  unfold peerPrincipals readChannel
  rw [present]
  constructor
  · simp [Ne.symm different]
  · simp [different]

/-- A participant has exactly one peer. -/
theorem peerPrincipals_eq_singleton (built : build config = .ok index)
    {channelId principal : Nat} {entries : List MappingEntry}
    (present : index.byChannel.get? channelId = some entries)
    (member : principal ∈ entries.map MappingEntry.principal) :
    ∃ peer, index.peerPrincipals channelId principal = ([peer], index) := by
  obtain ⟨session, -, checked⟩ :=
    (consistent_build built).1.channel _ (Items.mem_of_get? present)
  obtain ⟨first, second, rfl⟩ := List.length_eq_two.mp checked.length
  have different := checked.principals
  simp only [List.map_cons, List.map_nil, List.nodup_cons,
    List.mem_singleton] at different
  have peers := peerPrincipals_pair present different.1
  simp only [List.map_cons, List.map_nil, List.mem_cons, List.not_mem_nil,
    or_false] at member
  rcases member with rfl | rfl
  · exact ⟨second.principal, peers.1⟩
  · exact ⟨first.principal, peers.2⟩

end Built

/-! ## Configurations with the same mapping -/

section Same

variable {left right : P2PMappingIndex}

/-- The tables of the indices are the same. -/
structure SameTables (left right : P2PMappingIndex) : Prop where
  byChannel : left.byChannel = right.byChannel
  channelSession : left.channelSession = right.channelSession
  sessionChannel : left.sessionChannel = right.sessionChannel
  externalByChannel : left.externalByChannel = right.externalByChannel
  principalByChannel : left.principalByChannel = right.principalByChannel

theorem SameTables.addEntry {nextLeft nextRight : P2PMappingIndex}
    {channelId : Nat} {item : MappingEntry} (same : SameTables left right)
    (addedLeft : addEntry channelId left item = .ok nextLeft)
    (addedRight : P2PMappingIndex.addEntry channelId right item =
      .ok nextRight) : SameTables nextLeft nextRight := by
  rw [addEntry_eq_ok addedLeft, addEntry_eq_ok addedRight]
  exact { same with
    externalByChannel := by
      dsimp only
      rw [same.externalByChannel]
    principalByChannel := by
      dsimp only
      rw [same.principalByChannel] }

theorem SameTables.addChannel {nextLeft nextRight : P2PMappingIndex}
    {group : Nat × List MappingEntry} (same : SameTables left right)
    (addedLeft : addChannel left group = .ok nextLeft)
    (addedRight : P2PMappingIndex.addChannel right group = .ok nextRight) :
    SameTables nextLeft nextRight := by
  rcases group with ⟨channelId, entries⟩
  rw [P2PMappingIndex.addChannel, unit_bind_eq_ok_iff, unit_bind_eq_ok_iff,
    bind_eq_ok_iff] at addedLeft addedRight
  rcases addedLeft with ⟨-, -, middleLeft, foldedLeft, storedLeft⟩
  rcases addedRight with ⟨-, -, middleRight, foldedRight, storedRight⟩
  have middle : SameTables middleLeft middleRight := by
    apply foldlM_related _ same foldedLeft foldedRight
    intro before otherBefore item after otherAfter related
    exact related.addEntry
  split at storedLeft
  · rename_i session single
    simp only [single, unit_bind_eq_ok_iff] at storedRight
    rw [unit_bind_eq_ok_iff] at storedLeft
    cases storedLeft.2
    cases storedRight.2
    exact { middle with
      channelSession := by
        dsimp only
        rw [middle.channelSession]
      sessionChannel := by
        dsimp only
        rw [middle.sessionChannel] }
  · cases storedLeft

/-- The tables depend on the mapping entries only. -/
theorem sameTables_build {config other : SyncerConfig}
    (same : config.mappings = other.mappings)
    (built : build config = .ok left) (otherBuilt : build other = .ok right) :
    SameTables left right := by
  rw [build] at built otherBuilt
  rw [← same] at otherBuilt
  apply foldlM_related _ _ built otherBuilt
  · intro before otherBefore group after otherAfter related
    exact related.addChannel
  · exact ⟨rfl, rfl, rfl, rfl, rfl⟩

theorem SameTables.providerSession (same : SameTables left right)
    (channelId : Nat) :
    left.providerSession channelId = right.providerSession channelId := by
  rw [P2PMappingIndex.providerSession, P2PMappingIndex.providerSession,
    same.channelSession]

theorem SameTables.ownsChannel (same : SameTables left right)
    (channelId : Nat) :
    left.ownsChannel channelId = right.ownsChannel channelId := by
  rw [P2PMappingIndex.ownsChannel, P2PMappingIndex.ownsChannel,
    same.byChannel]

theorem SameTables.readChannel (same : SameTables left right)
    (channelId : Nat) :
    (left.readChannel channelId).1 = (right.readChannel channelId).1 := by
  rw [P2PMappingIndex.readChannel, P2PMappingIndex.readChannel,
    same.byChannel]
  cases right.byChannel.get? channelId with
  | none => rfl
  | some entries => rfl

theorem SameTables.senderExternalUserId (same : SameTables left right)
    (channelId principal : Nat) (identityType : Option String) :
    left.senderExternalUserId channelId principal identityType =
      right.senderExternalUserId channelId principal identityType := by
  rw [P2PMappingIndex.senderExternalUserId,
    P2PMappingIndex.senderExternalUserId, same.principalByChannel]

theorem SameTables.peerPrincipals (same : SameTables left right)
    (channelId principal : Nat) :
    (left.peerPrincipals channelId principal).1 =
      (right.peerPrincipals channelId principal).1 := by
  rw [P2PMappingIndex.peerPrincipals, P2PMappingIndex.peerPrincipals]
  dsimp only
  rw [same.readChannel]

end Same

end P2PMappingIndex

end OpenEventIm.Syncer.Mapping
