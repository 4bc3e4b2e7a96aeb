import OpenEventIm.Syncer.MappingAcceptance

/-!
# Sequences of mapping queries

The queries of `P2PMappingIndex` as calls of one object, one after the other.
Two of them read the channel table by subscription, which inserts an empty
group for a channel that is not there.

`lookups_undisturbed_iff` states when a sequence of queries leaves the
ownership of channels and every later answer alone.
-/

namespace OpenEventIm.Syncer.MappingQueries

open OpenEventIm.Foundation
open OpenEventIm.Sdk.Errors
open OpenEventIm.Syncer.Models
open OpenEventIm.Syncer.Mapping
open OpenEventIm.Syncer.Mapping.P2PMappingIndex
open OpenEventIm.Syncer.Config
open OpenEventIm.Syncer.MappingAcceptance

/-! ## Calls -/

/-- A call of a query method. -/
inductive Query where
  | channelIds
  | ownsChannel (channelId : Nat)
  | entriesForChannel (channelId : Nat)
  | providerSession (channelId : Nat)
  | channelForProviderSession (provider sessionId : String)
  | providerConfigForChannel (channelId : Nat)
  | senderExternalUserId (channelId principal : Nat)
      (identityType : Option String)
  | principalForExternalUser (channelId : Nat)
      (provider externalUserId identityType : String)
  | peerPrincipals (channelId principal : Nat)
  | userToken (principal : Nat)

/-- What a query returns or raises. -/
inductive Answer where
  | channelIds (channelIds : List Nat)
  | owned (owned : Bool)
  | entries (entries : List MappingEntry)
  | session (session : Except PyError Session)
  | channel (channelId : Except PyError Nat)
  | providerConfig (config : Except PyError ProviderConfig)
  | externalUser (externalUserId : Except PyError String)
  | principal (principal : Except PyError Nat)
  | principals (principals : List Nat)
  | token (token : Except PyError String)

/-- The answer to a query and the index that it leaves behind. -/
def ask (index : P2PMappingIndex) : Query → Answer × P2PMappingIndex
  | .channelIds => (.channelIds index.channelIds, index)
  | .ownsChannel channelId => (.owned (index.ownsChannel channelId), index)
  | .entriesForChannel channelId =>
      let (entries, index) := index.entriesForChannel channelId
      (.entries entries, index)
  | .providerSession channelId =>
      (.session (index.providerSession channelId), index)
  | .channelForProviderSession provider sessionId =>
      (.channel (index.channelForProviderSession provider sessionId), index)
  | .providerConfigForChannel channelId =>
      (.providerConfig (index.providerConfigForChannel channelId), index)
  | .senderExternalUserId channelId principal identityType =>
      (.externalUser
        (index.senderExternalUserId channelId principal identityType), index)
  | .principalForExternalUser channelId provider externalUserId
      identityType =>
      (.principal (index.principalForExternalUser channelId provider
        externalUserId identityType), index)
  | .peerPrincipals channelId principal =>
      let (principals, index) := index.peerPrincipals channelId principal
      (.principals principals, index)
  | .userToken principal => (.token (index.userToken principal), index)

/-- The index after some queries. -/
def after (index : P2PMappingIndex) (queries : List Query) :
    P2PMappingIndex :=
  queries.foldl (fun index query => (ask index query).2) index

theorem after_append (index : P2PMappingIndex) (first second : List Query) :
    after index (first ++ second) = after (after index first) second := by
  simp [after]

/-- The channel whose group the query subscribes to. -/
def subscribed : Query → Option Nat
  | .entriesForChannel channelId => some channelId
  | .peerPrincipals channelId _ => some channelId
  | _ => none

/-- The query subscribes to the group of a channel without mapping entries. -/
def SubscribesUnmapped (config : SyncerConfig) (query : Query) : Prop :=
  ∃ channelId, subscribed query = some channelId ∧
    channelId ∉ config.mappings.map MappingEntry.channelId

/--
Before and after every query of the sequence, the owned channels are the mapped
ones, and every query is answered as if it were the first.
-/
structure Undisturbed (config : SyncerConfig) (index : P2PMappingIndex)
    (queries : List Query) : Prop where
  owns : ∀ done, done <+: queries → ∀ channelId,
    (after index done).ownsChannel channelId = true ↔
      channelId ∈ config.mappings.map MappingEntry.channelId
  listed : ∀ done, done <+: queries →
    (after index done).channelIds.Nodup ∧ ∀ channelId,
      channelId ∈ (after index done).channelIds ↔
        channelId ∈ config.mappings.map MappingEntry.channelId
  answers : ∀ done query, done ++ [query] <+: queries →
    (ask (after index done) query).1 = (ask index query).1

/-! ## One query -/

variable {config : SyncerConfig} {index : P2PMappingIndex}
  {channelId : Nat} {query : Query} {queries : List Query}

theorem ownsChannel_iff :
    index.ownsChannel channelId = true ↔ channelId ∈ index.byChannel.keys :=
  Dict.contains_iff

theorem readChannel_of_owned (owned : index.ownsChannel channelId = true) :
    (index.readChannel channelId).2 = index := by
  rcases Dict.mem_keys_iff.mp (ownsChannel_iff.mp owned) with
    ⟨entries, present⟩
  rw [readChannel, present]

/-- Subscribing to a group makes its channel an owned one. -/
theorem ownsChannel_readChannel :
    (index.readChannel channelId).2.ownsChannel channelId = true := by
  unfold readChannel
  split
  · rename_i entries present
    exact ownsChannel_iff.mpr (Dict.mem_keys_iff.mpr ⟨entries, present⟩)
  · rw [ownsChannel_iff, Dict.mem_keys_iff]
    exact ⟨[], Dict.get?_set_self _ _ _⟩

/-- A query leaves the index as it is, or subscribes to a group. -/
theorem ask_cases :
    (ask index query).2 = index ∨
      ∃ channelId, subscribed query = some channelId ∧
        (ask index query).2 = (index.readChannel channelId).2 := by
  cases query with
  | entriesForChannel channelId => exact Or.inr ⟨channelId, rfl, rfl⟩
  | peerPrincipals channelId principal => exact Or.inr ⟨channelId, rfl, rfl⟩
  | _ => exact Or.inl rfl

theorem ask_of_owned
    (owned : ∀ channelId, subscribed query = some channelId →
      index.ownsChannel channelId = true) :
    (ask index query).2 = index := by
  rcases ask_cases with same | ⟨channelId, isSubscribed, read⟩
  · exact same
  · rw [read, readChannel_of_owned (owned channelId isSubscribed)]

theorem ownsChannel_ask (isSubscribed : subscribed query = some channelId) :
    (ask index query).2.ownsChannel channelId = true := by
  cases query with
  | entriesForChannel =>
      cases isSubscribed
      exact ownsChannel_readChannel
  | peerPrincipals =>
      cases isSubscribed
      exact ownsChannel_readChannel
  | _ => cases isSubscribed

/-! ## A sequence of queries -/

/-- Queries of owned channels leave the index as it is. -/
theorem after_of_owned
    (owned : ∀ query ∈ queries, ∀ channelId,
      subscribed query = some channelId →
        index.ownsChannel channelId = true) :
    after index queries = index := by
  induction queries with
  | nil => rfl
  | cons query rest ih =>
      have first := ask_of_owned (owned query List.mem_cons_self)
      rw [after, List.foldl_cons, first]
      apply ih
      intro other member
      exact owned other (List.mem_cons_of_mem _ member)

theorem ownsChannel_build (built : build config = .ok index) :
    index.ownsChannel channelId = true ↔
      channelId ∈ config.mappings.map MappingEntry.channelId := by
  rcases build_filled built with ⟨-, -, -, sameGroups⟩
  rw [ownsChannel_iff, sameGroups, Dict.mem_keys_iff]
  simp [get?_groupByChannel]

theorem mem_channelIds :
    channelId ∈ index.channelIds ↔ index.ownsChannel channelId = true := by
  rw [channelIds, List.mem_mergeSort, ownsChannel_iff]

theorem nodup_channelIds : index.channelIds.Nodup := by
  rw [channelIds, (List.mergeSort_perm _ _).nodup_iff]
  exact index.byChannel.distinct

/--
The queries of a sequence do not affect ownership or each other exactly when
none of them subscribes to the group of an unmapped channel.
-/
theorem lookups_undisturbed_iff (config : SyncerConfig)
    (index : P2PMappingIndex) (queries : List Query)
    (built : build config = .ok index) :
    Undisturbed config index queries ↔
      ∀ query ∈ queries, ¬SubscribesUnmapped config query := by
  constructor
  · rintro undisturbed query member ⟨channelId, isSubscribed, unmapped⟩
    rcases List.append_of_mem member with ⟨done, rest, split⟩
    have isPrefix : done ++ [query] <+: queries := ⟨rest, by simp [split]⟩
    apply unmapped
    rw [← undisturbed.owns _ isPrefix, after_append]
    exact ownsChannel_ask isSubscribed
  · intro mapped
    have unchanged : ∀ done, done <+: queries → after index done = index := by
      intro done isPrefix
      apply after_of_owned
      intro query member channelId isSubscribed
      rw [ownsChannel_build built]
      by_contra unmapped
      exact mapped query (isPrefix.subset member)
        ⟨channelId, isSubscribed, unmapped⟩
    constructor
    · intro done isPrefix channelId
      rw [unchanged done isPrefix]
      exact ownsChannel_build built
    · intro done isPrefix
      rw [unchanged done isPrefix]
      refine ⟨nodup_channelIds, ?_⟩
      intro channelId
      rw [mem_channelIds]
      exact ownsChannel_build built
    · intro done query isPrefix
      rw [unchanged done ((List.prefix_append _ _).trans isPrefix)]

/-- Lookups in the mapped channel and a failing lookup change nothing. -/
theorem lookups_undisturbed_sample :
    ∃ index, build sampleParsed = .ok index ∧
      Undisturbed sampleParsed index
        [.peerPrincipals 7 20, .providerSession 999, .ownsChannel 999] := by
  rcases build_of_consistentMapping consistentMapping_sample with
    ⟨index, built⟩
  refine ⟨index, built, ?_⟩
  apply (lookups_undisturbed_iff sampleParsed index _ built).mpr
  rintro query member ⟨channelId, isSubscribed, unmapped⟩
  simp only [List.mem_cons, List.not_mem_nil, or_false] at member
  rcases member with rfl | rfl | rfl
  · cases isSubscribed
    exact unmapped (by decide)
  · cases isSubscribed
  · cases isSubscribed

/-- Asking for the peers in an unmapped channel makes it an owned one. -/
theorem lookups_disturbed_sample :
    parseConfig sampleRawConfig = .ok sampleParsed ∧
      ∃ index, build sampleParsed = .ok index ∧
        999 ∉ sampleParsed.mappings.map MappingEntry.channelId ∧
          index.ownsChannel 999 = false ∧
            (after index [.peerPrincipals 999 1]).ownsChannel 999 = true ∧
              ¬Undisturbed sampleParsed index [.peerPrincipals 999 1] := by
  rcases build_of_consistentMapping consistentMapping_sample with
    ⟨index, built⟩
  have unmapped : 999 ∉ sampleParsed.mappings.map MappingEntry.channelId := by
    decide
  have owned : (after index [.peerPrincipals 999 1]).ownsChannel 999 = true :=
    ownsChannel_ask rfl
  refine ⟨parseConfig_sample, index, built, unmapped, ?_, owned, ?_⟩
  · rw [← Bool.not_eq_true, ownsChannel_build built]
    exact unmapped
  · intro undisturbed
    exact unmapped ((undisturbed.owns _ List.prefix_rfl 999).mp owned)

end OpenEventIm.Syncer.MappingQueries
