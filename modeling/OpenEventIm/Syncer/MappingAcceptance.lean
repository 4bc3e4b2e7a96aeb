import OpenEventIm.Syncer.Config
import OpenEventIm.Syncer.Mapping
import Mathlib.Data.List.Perm.Basic

/-!
# Acceptance of mapping tables

Which mapping tables `P2PMappingIndex` accepts, and what the tables of an
accepted index contain.  `ConsistentMapping` states the constraints on the
entries alone, without regard to their order; `Filled` states what the five
dictionaries hold after some channels have been added.

`build_acceptsConsistent` connects the two for the configurations that
`parse_config` returns.
-/

namespace OpenEventIm.Syncer.MappingAcceptance

open OpenEventIm.Foundation
open OpenEventIm.Foundation.Checked
open OpenEventIm.Sdk.Errors
open OpenEventIm.Syncer.Models
open OpenEventIm.Syncer.Mapping
open OpenEventIm.Syncer.Mapping.P2PMappingIndex
open OpenEventIm.Syncer.Config

/-! ## Consistent tables -/

/-- The entries of a channel. -/
def channelEntries (config : SyncerConfig) (channelId : Nat) :
    List MappingEntry :=
  config.mappings.filter fun entry => entry.channelId = channelId

/-- The entries of one channel, in any order. -/
structure ValidChannel (config : SyncerConfig) (entries : List MappingEntry) :
    Prop where
  twoEntries : entries.length = 2
  principals : (entries.map MappingEntry.principal).Nodup
  oneUser : ∃ entry ∈ entries, entry.identityType = "user"
  oneBot : ∃ entry ∈ entries, entry.identityType = "bot"
  tokens : ∀ entry ∈ entries, entry.principal ∈ config.principalTokens.keys
  oneSession : ∀ entry ∈ entries, ∀ other ∈ entries,
    entry.session = other.session

/-- The constraints on the mapping entries of a configuration. -/
structure ConsistentMapping (config : SyncerConfig) : Prop where
  channels : ∀ entry ∈ config.mappings,
    ValidChannel config (channelEntries config entry.channelId)
  sessions : ∀ entry ∈ config.mappings, ∀ other ∈ config.mappings,
    entry.session = other.session → entry.channelId = other.channelId

variable {config : SyncerConfig} {index next : P2PMappingIndex}
  {channelId : Nat} {first second : MappingEntry}
  {entries : List MappingEntry}

theorem mem_channelEntries {entry : MappingEntry} :
    entry ∈ channelEntries config channelId ↔
      entry ∈ config.mappings ∧ entry.channelId = channelId := by
  simp [channelEntries]

theorem ValidChannel.perm {others : List MappingEntry}
    (valid : ValidChannel config entries) (same : entries.Perm others) :
    ValidChannel config others where
  twoEntries := same.length_eq ▸ valid.twoEntries
  principals := (same.map _).nodup_iff.mp valid.principals
  oneUser := by
    rcases valid.oneUser with ⟨entry, member, isUser⟩
    exact ⟨entry, same.mem_iff.mp member, isUser⟩
  oneBot := by
    rcases valid.oneBot with ⟨entry, member, isBot⟩
    exact ⟨entry, same.mem_iff.mp member, isBot⟩
  tokens := by
    intro entry member
    exact valid.tokens entry (same.mem_iff.mpr member)
  oneSession := by
    intro entry member other otherMember
    exact valid.oneSession entry (same.mem_iff.mpr member) other
      (same.mem_iff.mpr otherMember)

/-- The constraints do not depend on the order of the entries. -/
theorem ConsistentMapping.perm {mappings : List MappingEntry}
    (consistent : ConsistentMapping config)
    (same : config.mappings.Perm mappings) :
    ConsistentMapping { config with mappings } where
  channels := by
    intro entry member
    have valid := consistent.channels entry (same.mem_iff.mpr member)
    have reordered : (channelEntries config entry.channelId).Perm
        (channelEntries { config with mappings } entry.channelId) :=
      same.filter _
    have permuted := valid.perm reordered
    exact { permuted with }
  sessions := by
    intro entry member other otherMember
    exact consistent.sessions entry (same.mem_iff.mpr member) other
      (same.mem_iff.mpr otherMember)

theorem consistentMapping_perm_iff {mappings : List MappingEntry}
    (same : mappings.Perm config.mappings) :
    ConsistentMapping { config with mappings } ↔ ConsistentMapping config := by
  constructor
  · intro consistent
    exact consistent.perm same
  · intro consistent
    exact consistent.perm same.symm

/-- Two entries satisfy the constraints of a channel. -/
structure ValidPair (config : SyncerConfig) (first second : MappingEntry) :
    Prop where
  principals : first.principal ≠ second.principal
  identityTypes :
    (first.identityType = "user" ∧ second.identityType = "bot") ∨
      (first.identityType = "bot" ∧ second.identityType = "user")
  firstToken : first.principal ∈ config.principalTokens.keys
  secondToken : second.principal ∈ config.principalTokens.keys
  session : first.session = second.session

theorem validChannel_iff :
    ValidChannel config entries ↔
      ∃ first second, entries = [first, second] ∧
        ValidPair config first second := by
  constructor
  · intro valid
    rcases List.length_eq_two.mp valid.twoEntries with ⟨first, second, rfl⟩
    have principals := valid.principals
    simp only [List.map_cons, List.map_nil, List.nodup_cons,
      List.mem_singleton] at principals
    have identityTypes :
        (first.identityType = "user" ∧ second.identityType = "bot") ∨
          (first.identityType = "bot" ∧ second.identityType = "user") := by
      rcases valid.oneUser with ⟨user, userMember, isUser⟩
      rcases valid.oneBot with ⟨bot, botMember, isBot⟩
      have different : user ≠ bot := by
        rintro rfl
        rw [isUser] at isBot
        exact absurd isBot (by decide)
      simp only [List.mem_cons, List.not_mem_nil, or_false]
        at userMember botMember
      rcases userMember with rfl | rfl
      · rcases botMember with rfl | rfl
        · exact absurd rfl different
        · exact Or.inl ⟨isUser, isBot⟩
      · rcases botMember with rfl | rfl
        · exact Or.inr ⟨isBot, isUser⟩
        · exact absurd rfl different
    exact ⟨first, second, rfl, principals.1, identityTypes,
      valid.tokens first (by simp), valid.tokens second (by simp),
      valid.oneSession first (by simp) second (by simp)⟩
  · rintro ⟨first, second, rfl, valid⟩
    refine ⟨rfl, by simp [valid.principals], ?_, ?_, ?_, ?_⟩
    · rcases valid.identityTypes with ⟨isUser, -⟩ | ⟨-, isUser⟩
      · exact ⟨first, by simp, isUser⟩
      · exact ⟨second, by simp, isUser⟩
    · rcases valid.identityTypes with ⟨-, isBot⟩ | ⟨isBot, -⟩
      · exact ⟨second, by simp, isBot⟩
      · exact ⟨first, by simp, isBot⟩
    · simp [valid.firstToken, valid.secondToken]
    · simp [valid.session]

/-! ## Adding a channel -/

/-- The tables after both entries of a channel have been added. -/
def addPair (channelId : Nat) (first second : MappingEntry)
    (index : P2PMappingIndex) : P2PMappingIndex :=
  { index with
    externalByChannel :=
      (index.externalByChannel.set (first.externalKey channelId) first).set
        (second.externalKey channelId) second
    principalByChannel :=
      (index.principalByChannel.set (channelId, first.principal) first).set
        (channelId, second.principal) second
    sessionChannel := index.sessionChannel.set first.session channelId
    channelSession := index.channelSession.set channelId first.session }

/-- No user of the channel is in the tables. -/
structure Untouched (index : P2PMappingIndex) (channelId : Nat) : Prop where
  external : ∀ key, key.channelId = channelId →
    index.externalByChannel.get? key = none
  principal : ∀ principal,
    index.principalByChannel.get? (channelId, principal) = none

theorem addEntry_eq_ok_iff {item : MappingEntry} :
    addEntry channelId index item = .ok next ↔
      item.principal ∈ index.config.principalTokens.keys ∧
        index.externalByChannel.get? (item.externalKey channelId) = none ∧
          index.principalByChannel.get? (channelId, item.principal) = none ∧
            { index with
              externalByChannel :=
                index.externalByChannel.set (item.externalKey channelId) item
              principalByChannel :=
                index.principalByChannel.set (channelId, item.principal)
                  item } = next := by
  rw [addEntry, unit_bind_eq_ok_iff, unit_bind_eq_ok_iff,
    unit_bind_eq_ok_iff, require_eq_ok_iff, require_eq_ok_iff,
    require_eq_ok_iff, Dict.contains_iff]
  apply and_congr_right
  intro _
  apply and_congr_right
  intro _
  apply and_congr_right
  intro _
  constructor
  · intro returned
    exact Except.ok.inj returned
  · rintro rfl
    rfl

/-- Neither entry of a pair is in the way of the other. -/
theorem foldlM_addEntry_pair_iff (untouched : Untouched index channelId)
    (principals : first.principal ≠ second.principal)
    (identityTypes : first.identityType ≠ second.identityType) :
    [first, second].foldlM (addEntry channelId) index = .ok next ↔
      (first.principal ∈ index.config.principalTokens.keys ∧
        second.principal ∈ index.config.principalTokens.keys) ∧
        { index with
          externalByChannel :=
            (index.externalByChannel.set (first.externalKey channelId)
              first).set (second.externalKey channelId) second
          principalByChannel :=
            (index.principalByChannel.set (channelId, first.principal)
              first).set (channelId, second.principal) second } = next := by
  have firstExternal := untouched.external (first.externalKey channelId) rfl
  have firstPrincipal := untouched.principal first.principal
  have keys : first.externalKey channelId ≠ second.externalKey channelId := by
    intro same
    exact identityTypes (congrArg ExternalKey.identityType same)
  have pairs : (channelId, first.principal) ≠ (channelId, second.principal) := by
    intro same
    exact principals (Prod.mk.inj same).2
  simp only [List.foldlM_cons, List.foldlM_nil, bind_eq_ok_iff,
    addEntry_eq_ok_iff]
  constructor
  · rintro ⟨_, ⟨firstToken, -, -, rfl⟩, _, ⟨secondToken, -, -, rfl⟩, returned⟩
    exact ⟨⟨firstToken, secondToken⟩, Except.ok.inj returned⟩
  · rintro ⟨⟨firstToken, secondToken⟩, rfl⟩
    refine ⟨_, ⟨firstToken, firstExternal, firstPrincipal, rfl⟩, _,
      ⟨secondToken, ?_, ?_, rfl⟩, rfl⟩
    · rw [Dict.get?_set_of_ne _ _ keys]
      exact untouched.external _ rfl
    · rw [Dict.get?_set_of_ne _ _ pairs]
      exact untouched.principal _

theorem identityTypes_pair_iff :
    (([first, second].map MappingEntry.identityType).toFinset =
        {"user", "bot"}) ↔
      (first.identityType = "user" ∧ second.identityType = "bot") ∨
        (first.identityType = "bot" ∧ second.identityType = "user") := by
  simp only [List.map_cons, List.map_nil, List.toFinset_cons,
    List.toFinset_nil, insert_empty_eq]
  constructor
  · intro same
    have isFirst : first.identityType ∈ ({"user", "bot"} : Finset String) := by
      rw [← same]
      simp
    have isSecond :
        second.identityType ∈ ({"user", "bot"} : Finset String) := by
      rw [← same]
      simp
    have hasUser : "user" ∈
        ({first.identityType, second.identityType} : Finset String) := by
      rw [same]
      simp
    have hasBot : "bot" ∈
        ({first.identityType, second.identityType} : Finset String) := by
      rw [same]
      simp
    simp only [Finset.mem_insert, Finset.mem_singleton]
      at isFirst isSecond hasUser hasBot
    rcases isFirst with firstType | firstType <;>
      rcases isSecond with secondType | secondType <;>
        simp [firstType, secondType] at hasUser hasBot ⊢
  · rintro (⟨firstType, secondType⟩ | ⟨firstType, secondType⟩)
    · rw [firstType, secondType]
    · rw [firstType, secondType, Finset.pair_comm]

theorem different_of_userBot
    (identityTypes :
      (first.identityType = "user" ∧ second.identityType = "bot") ∨
        (first.identityType = "bot" ∧ second.identityType = "user")) :
    first.identityType ≠ second.identityType := by
  intro same
  rw [same] at identityTypes
  rcases identityTypes with ⟨isUser, isBot⟩ | ⟨isBot, isUser⟩
  · exact absurd (isUser.symm.trans isBot) (by decide)
  · exact absurd (isUser.symm.trans isBot) (by decide)

/-- One iteration succeeds exactly on a valid pair with an unused session. -/
theorem addChannel_pair_iff (untouched : Untouched index channelId) :
    addChannel index (channelId, entries) = .ok next ↔
      ∃ first second, entries = [first, second] ∧
        ValidPair index.config first second ∧
          (∀ other, index.sessionChannel.get? first.session = some other →
            other = channelId) ∧
          addPair channelId first second index = next := by
  rw [addChannel, unit_bind_eq_ok_iff, unit_bind_eq_ok_iff, bind_eq_ok_iff,
    require_eq_ok_iff, require_eq_ok_iff]
  constructor
  · rintro ⟨⟨card, length⟩, types, middle, folded, stored⟩
    rcases List.length_eq_two.mp length with ⟨first, second, rfl⟩
    have principals : first.principal ≠ second.principal := by
      intro same
      simp [same] at card
    have identityTypes := identityTypes_pair_iff.mp types
    rw [foldlM_addEntry_pair_iff untouched principals
      (different_of_userBot identityTypes)] at folded
    rcases folded with ⟨⟨firstToken, secondToken⟩, rfl⟩
    by_cases session : first.session = second.session
    · have single : ([first, second].map MappingEntry.session).dedup =
          [first.session] := by
        simp [session]
      rw [single] at stored
      dsimp only at stored
      rw [unit_bind_eq_ok_iff, require_eq_ok_iff] at stored
      exact ⟨first, second, rfl, ⟨principals, identityTypes, firstToken,
        secondToken, session⟩, stored.1, Except.ok.inj stored.2⟩
    · have two : ([first, second].map MappingEntry.session).dedup =
          [first.session, second.session] := by
        simp [session]
      rw [two] at stored
      cases stored
  · rintro ⟨first, second, rfl, valid, unused, rfl⟩
    have single : ([first, second].map MappingEntry.session).dedup =
        [first.session] := by
      simp [valid.session]
    refine ⟨⟨by simp [valid.principals], rfl⟩,
      identityTypes_pair_iff.mpr valid.identityTypes, _,
      (foldlM_addEntry_pair_iff untouched valid.principals
        (different_of_userBot valid.identityTypes)).mpr
          ⟨⟨valid.firstToken, valid.secondToken⟩, rfl⟩, ?_⟩
    rw [single]
    dsimp only
    rw [unit_bind_eq_ok_iff, require_eq_ok_iff]
    exact ⟨unused, rfl⟩

/-! ## The tables of the channels added so far -/

/-- The five dictionaries hold the entries of some channels. -/
structure Filled (index : P2PMappingIndex)
    (done : List (Nat × List MappingEntry)) : Prop where
  channelSession : ∀ channelId session,
    index.channelSession.get? channelId = some session ↔
      ∃ entries, (channelId, entries) ∈ done ∧
        ∃ entry ∈ entries, entry.session = session
  sessionChannel : ∀ session channelId,
    index.sessionChannel.get? session = some channelId ↔
      ∃ entries, (channelId, entries) ∈ done ∧
        ∃ entry ∈ entries, entry.session = session
  external : ∀ key entry,
    index.externalByChannel.get? key = some entry ↔
      ∃ entries, (key.channelId, entries) ∈ done ∧
        entry ∈ entries ∧ entry.externalKey key.channelId = key
  principal : ∀ channelId principal entry,
    index.principalByChannel.get? (channelId, principal) = some entry ↔
      ∃ entries, (channelId, entries) ∈ done ∧
        entry ∈ entries ∧ entry.principal = principal

section Adding

variable {done : List (Nat × List MappingEntry)}

theorem exists_mem_snoc_iff {holds : List MappingEntry → Prop}
    (isNew : channelId ∉ done.map Prod.fst) (other : Nat) :
    (∃ stored, (other, stored) ∈ done ++ [(channelId, entries)] ∧
        holds stored) ↔
      if channelId = other then holds entries
      else ∃ stored, (other, stored) ∈ done ∧ holds stored := by
  split_ifs with same
  · subst same
    constructor
    · rintro ⟨stored, member, storedHolds⟩
      rcases List.mem_append.mp member with before | isLast
      · exact absurd (List.mem_map_of_mem before) isNew
      · cases List.mem_singleton.mp isLast
        exact storedHolds
    · intro entriesHold
      exact ⟨entries, by simp, entriesHold⟩
  · constructor
    · rintro ⟨stored, member, storedHolds⟩
      rcases List.mem_append.mp member with before | isLast
      · exact ⟨stored, before, storedHolds⟩
      · cases List.mem_singleton.mp isLast
        exact absurd rfl same
    · rintro ⟨stored, member, storedHolds⟩
      exact ⟨stored, List.mem_append_left _ member, storedHolds⟩

/-- Looking up one of two entries by a key that tells them apart. -/
theorem lookup_pair_iff {Key : Type} [DecidableEq Key]
    (keyOf : MappingEntry → Key) (different : keyOf first ≠ keyOf second)
    (key : Key) (entry : MappingEntry) :
    (if keyOf second = key then some second
      else if keyOf first = key then some first else none) = some entry ↔
        entry ∈ [first, second] ∧ keyOf entry = key := by
  constructor
  · intro found
    split_ifs at found with isSecond isFirst
    · cases found
      exact ⟨by simp, isSecond⟩
    · cases found
      exact ⟨by simp, isFirst⟩
  · rintro ⟨member, rfl⟩
    simp only [List.mem_cons, List.not_mem_nil, or_false] at member
    rcases member with rfl | rfl
    · rw [if_neg (Ne.symm different), if_pos rfl]
    · rw [if_pos rfl]

theorem Filled.untouched (filled : Filled index done)
    (isNew : channelId ∉ done.map Prod.fst) : Untouched index channelId where
  external := by
    intro key same
    rw [Option.eq_none_iff_forall_ne_some]
    intro entry stored
    rcases (filled.external key entry).mp stored with ⟨entries, member, -⟩
    rw [same] at member
    exact isNew (List.mem_map_of_mem member)
  principal := by
    intro principal
    rw [Option.eq_none_iff_forall_ne_some]
    intro entry stored
    rcases (filled.principal channelId principal entry).mp stored with
      ⟨entries, member, -⟩
    exact isNew (List.mem_map_of_mem member)

/-- Adding a valid pair with an unused session fills in its channel. -/
theorem Filled.addPair (filled : Filled index done)
    (isNew : channelId ∉ done.map Prod.fst)
    (valid : ValidPair config first second)
    (unused : ∀ other, index.sessionChannel.get? first.session = some other →
      other = channelId) :
    Filled (addPair channelId first second index)
      (done ++ [(channelId, [first, second])]) where
  channelSession := by
    intro other session
    rw [exists_mem_snoc_iff isNew, MappingAcceptance.addPair, Dict.get?_set]
    split_ifs with same
    · simp [valid.session]
    · exact filled.channelSession other session
  sessionChannel := by
    intro session other
    rw [exists_mem_snoc_iff isNew, MappingAcceptance.addPair, Dict.get?_set]
    split_ifs with sameSession sameChannel sameChannel
    · simp [sameSession, sameChannel]
    · apply iff_of_false
      · intro equal
        exact sameChannel (Option.some.inj equal)
      · intro known
        have owner := (filled.sessionChannel session other).mpr known
        rw [← sameSession] at owner
        exact sameChannel (unused other owner).symm
    · apply iff_of_false
      · intro owner
        rcases (filled.sessionChannel session other).mp owner with
          ⟨entries, member, -⟩
        rw [← sameChannel] at member
        exact isNew (List.mem_map_of_mem member)
      · have different := sameSession
        rw [valid.session] at different
        simp [sameSession, different]
    · exact filled.sessionChannel session other
  external := by
    intro key entry
    rw [exists_mem_snoc_iff isNew, MappingAcceptance.addPair, Dict.get?_set,
      Dict.get?_set]
    by_cases same : channelId = key.channelId
    · have keys : first.externalKey channelId ≠
          second.externalKey channelId := by
        intro equal
        exact different_of_userBot valid.identityTypes
          (congrArg ExternalKey.identityType equal)
      rw [if_pos same, (filled.untouched isNew).external key same.symm,
        ← same]
      exact lookup_pair_iff (fun entry => entry.externalKey channelId) keys
        key entry
    · have firstOther : first.externalKey channelId ≠ key := by
        rintro rfl
        exact same rfl
      have secondOther : second.externalKey channelId ≠ key := by
        rintro rfl
        exact same rfl
      rw [if_neg same, if_neg secondOther, if_neg firstOther]
      exact filled.external key entry
  principal := by
    intro other principal entry
    rw [exists_mem_snoc_iff isNew, MappingAcceptance.addPair, Dict.get?_set,
      Dict.get?_set]
    by_cases same : channelId = other
    · subst same
      simp only [Prod.mk.injEq, true_and, if_true]
      rw [(filled.untouched isNew).principal principal,
        lookup_pair_iff MappingEntry.principal valid.principals]
    · simp only [Prod.mk.injEq, same, false_and, if_false]
      exact filled.principal other principal entry

end Adding

/-! ## The loop over the channels -/

theorem get?_groupByChannel (mappings : List MappingEntry)
    (channelId : Nat) :
    (groupByChannel mappings).get? channelId =
      if channelId ∈ mappings.map MappingEntry.channelId then
        some (mappings.filter fun entry => entry.channelId = channelId)
      else none := by
  induction mappings using List.reverseRecOn with
  | nil => rfl
  | append_singleton rest item ih =>
      have unfolded : groupByChannel (rest ++ [item]) =
          (groupByChannel rest).set item.channelId
            (((groupByChannel rest).get? item.channelId).getD [] ++
              [item]) := by
        simp [groupByChannel]
      have filtered : ((groupByChannel rest).get? channelId).getD [] =
          rest.filter fun entry => entry.channelId = channelId := by
        rw [ih]
        split_ifs with member
        · rfl
        · symm
          rw [Option.getD_none, List.filter_eq_nil_iff]
          intro entry entryMember same
          exact member (List.mem_map.mpr
            ⟨entry, entryMember, of_decide_eq_true same⟩)
      rw [unfolded, Dict.get?_set]
      by_cases same : item.channelId = channelId
      · rw [same, filtered]
        simp [same]
      · rw [if_neg same, ih]
        simp [same, Ne.symm same]

/-- The groups of the channels are the entries of each mapped channel. -/
theorem mem_groupByChannel_iff :
    (channelId, entries) ∈ (groupByChannel config.mappings).items ↔
      channelId ∈ config.mappings.map MappingEntry.channelId ∧
        entries = channelEntries config channelId := by
  rw [← Dict.get?_eq_some_iff, get?_groupByChannel, channelEntries]
  split_ifs with member
  · simp only [Option.some.injEq, member, true_and]
    exact eq_comm
  · simp [member]

/-- An accepted index has checked every channel and holds its entries. -/
theorem build_filled (built : build config = .ok index) :
    Filled index (groupByChannel config.mappings).items ∧
      (∀ group ∈ (groupByChannel config.mappings).items,
        ValidChannel config group.2) ∧
      index.config = config ∧
        index.byChannel = groupByChannel config.mappings := by
  apply foldlM_induct (fun done next =>
    Filled next done ∧ (∀ group ∈ done, ValidChannel config group.2) ∧
      next.config = config ∧
        next.byChannel = groupByChannel config.mappings) built
  · exact ⟨⟨by simp, by simp, by simp, by simp⟩, by simp, rfl, rfl⟩
  · rintro done ⟨channelId, entries⟩ before after isPrefix
      ⟨filled, valid, sameConfig, sameGroups⟩ added
    have isNew := Items.notMem_keys_of_isPrefix
      (groupByChannel config.mappings).distinct isPrefix
    rcases (addChannel_pair_iff (filled.untouched isNew)).mp added with
      ⟨first, second, rfl, pair, unused, rfl⟩
    refine ⟨filled.addPair isNew pair unused, ?_, sameConfig, sameGroups⟩
    intro group member
    rcases List.mem_append.mp member with earlier | isLast
    · exact valid group earlier
    · rw [List.mem_singleton.mp isLast]
      rw [sameConfig] at pair
      exact validChannel_iff.mpr ⟨first, second, rfl, pair⟩

theorem consistentMapping_of_build (built : build config = .ok index) :
    ConsistentMapping config := by
  rcases build_filled built with ⟨filled, valid, -, -⟩
  have grouped : ∀ entry ∈ config.mappings,
      (entry.channelId, channelEntries config entry.channelId) ∈
        (groupByChannel config.mappings).items := by
    intro entry member
    exact mem_groupByChannel_iff.mpr ⟨List.mem_map_of_mem member, rfl⟩
  constructor
  · intro entry member
    exact valid _ (grouped entry member)
  · intro entry member other otherMember same
    have owner := (filled.sessionChannel entry.session entry.channelId).mpr
      ⟨_, grouped entry member, entry, mem_channelEntries.mpr ⟨member, rfl⟩,
        rfl⟩
    have otherOwner := (filled.sessionChannel entry.session
      other.channelId).mpr ⟨_, grouped other otherMember, other,
        mem_channelEntries.mpr ⟨otherMember, rfl⟩, same.symm⟩
    rw [owner] at otherOwner
    exact Option.some.inj otherOwner

theorem build_of_consistentMapping (consistent : ConsistentMapping config) :
    ∃ index, build config = .ok index := by
  have loop : ∃ index, build config = .ok index ∧
      Filled index (groupByChannel config.mappings).items ∧
        index.config = config := by
    apply foldlM_succeeds fun done next =>
      Filled next done ∧ next.config = config
    · exact ⟨⟨by simp, by simp, by simp, by simp⟩, rfl⟩
    · rintro done ⟨channelId, entries⟩ before isPrefix ⟨filled, sameConfig⟩
      have isNew := Items.notMem_keys_of_isPrefix
        (groupByChannel config.mappings).distinct isPrefix
      have grouped : (channelId, entries) ∈
          (groupByChannel config.mappings).items :=
        isPrefix.subset (by simp)
      rcases mem_groupByChannel_iff.mp grouped with ⟨mapped, rfl⟩
      rcases List.mem_map.mp mapped with ⟨source, sourceMember, rfl⟩
      rcases validChannel_iff.mp (consistent.channels source sourceMember)
        with ⟨first, second, isPair, valid⟩
      have firstMember : first ∈ config.mappings ∧
          first.channelId = source.channelId := by
        rw [← mem_channelEntries, isPair]
        exact List.mem_cons_self
      have unused : ∀ other,
          before.sessionChannel.get? first.session = some other →
            other = source.channelId := by
        intro other owner
        rcases (filled.sessionChannel first.session other).mp owner with
          ⟨stored, storedMember, entry, entryMember, same⟩
        have storedGroup := isPrefix.subset
          (List.mem_append_left _ storedMember)
        rw [(mem_groupByChannel_iff.mp storedGroup).2,
          mem_channelEntries] at entryMember
        have equal := consistent.sessions entry entryMember.1 first
          firstMember.1 same
        rw [← entryMember.2, equal, firstMember.2]
      refine ⟨addPair source.channelId first second before, ?_, ?_,
        sameConfig⟩
      · rw [addChannel_pair_iff (filled.untouched isNew), sameConfig]
        exact ⟨first, second, isPair, valid, unused, rfl⟩
      · rw [isPair]
        exact filled.addPair isNew valid unused
  rcases loop with ⟨index, built, -⟩
  exact ⟨index, built⟩

/-- The index is built exactly on the consistent tables. -/
theorem build_succeeds_iff :
    (∃ index, build config = .ok index) ↔ ConsistentMapping config := by
  constructor
  · rintro ⟨index, built⟩
    exact consistentMapping_of_build built
  · exact build_of_consistentMapping

/-! ## What an accepted index answers -/

/-- The queries of an index identify channels, sessions and participants. -/
structure Corresponds (config : SyncerConfig) (index : P2PMappingIndex) :
    Prop where
  inverse : ∀ channelId provider sessionId,
    index.providerSession channelId = .ok (provider, sessionId) ↔
      index.channelForProviderSession provider sessionId = .ok channelId
  sessions : ∀ entry ∈ config.mappings,
    index.providerSession entry.channelId = .ok entry.session
  mapped : ∀ channelId session,
    index.providerSession channelId = .ok session →
      ∃ entry ∈ config.mappings, entry.channelId = channelId
  participants : ∀ entry ∈ config.mappings,
    index.senderExternalUserId entry.channelId entry.principal
        (some entry.identityType) = .ok entry.externalUserId
  undone : ∀ channelId principal identityType externalUserId,
    index.senderExternalUserId channelId principal (some identityType) =
        .ok externalUserId →
      ∃ provider sessionId,
        index.providerSession channelId = .ok (provider, sessionId) ∧
          index.principalForExternalUser channelId provider externalUserId
            identityType = .ok principal
  peers : ∀ entry ∈ config.mappings, ∃ other ∈ config.mappings,
    other.channelId = entry.channelId ∧ other.principal ≠ entry.principal ∧
      index.peerPrincipals entry.channelId entry.principal =
          ([other.principal], index) ∧
        index.peerPrincipals entry.channelId other.principal =
          ([entry.principal], index)

section Answers

variable {entry : MappingEntry}

theorem mem_groups (member : entry ∈ config.mappings) :
    (entry.channelId, channelEntries config entry.channelId) ∈
      (groupByChannel config.mappings).items :=
  mem_groupByChannel_iff.mpr ⟨List.mem_map_of_mem member, rfl⟩

theorem providerSession_of_build (built : build config = .ok index)
    (member : entry ∈ config.mappings) :
    index.providerSession entry.channelId = .ok entry.session := by
  rw [providerSession_eq_ok_iff, (build_filled built).1.channelSession]
  exact ⟨_, mem_groups member, entry, mem_channelEntries.mpr ⟨member, rfl⟩,
    rfl⟩

/-- The external user of a participant leads back to the participant. -/
theorem principalForExternalUser_of_build (built : build config = .ok index)
    {channelId principal : Nat} {identityType externalUserId : String}
    (found : index.senderExternalUserId channelId principal
      (some identityType) = .ok externalUserId) :
    ∃ provider sessionId,
      index.providerSession channelId = .ok (provider, sessionId) ∧
        index.principalForExternalUser channelId provider externalUserId
          identityType = .ok principal := by
  have filled := (build_filled built).1
  rw [senderExternalUserId] at found
  split at found
  · cases found
  · rename_i entry stored
    rcases (filled.principal channelId principal entry).mp stored with
      ⟨entries, member, entryMember, samePrincipal⟩
    dsimp only at found
    split_ifs at found with sameType
    rw [ne_eq, not_not] at sameType
    cases found
    rw [(mem_groupByChannel_iff.mp member).2, mem_channelEntries]
      at entryMember
    rcases entryMember with ⟨entryMapped, rfl⟩
    refine ⟨entry.provider, entry.sessionId,
      providerSession_of_build built entryMapped, ?_⟩
    have external := (filled.external (entry.externalKey entry.channelId)
      entry).mpr ⟨_, mem_groups entryMapped,
        mem_channelEntries.mpr ⟨entryMapped, rfl⟩, rfl⟩
    rw [principalForExternalUser, ← sameType]
    rw [MappingEntry.externalKey] at external
    rw [external, ← samePrincipal]

/-- Each participant of a channel has the other one as its only peer. -/
theorem peerPrincipals_of_build (built : build config = .ok index)
    (member : entry ∈ config.mappings) :
    ∃ other ∈ config.mappings, other.channelId = entry.channelId ∧
      other.principal ≠ entry.principal ∧
        index.peerPrincipals entry.channelId entry.principal =
            ([other.principal], index) ∧
          index.peerPrincipals entry.channelId other.principal =
            ([entry.principal], index) := by
  rcases build_filled built with ⟨-, valid, -, sameGroups⟩
  have isValid : ValidChannel config
      (channelEntries config entry.channelId) := valid _ (mem_groups member)
  rcases validChannel_iff.mp isValid with ⟨first, second, isPair, pair⟩
  have present : index.byChannel.get? entry.channelId =
      some [first, second] := by
    rw [sameGroups, Dict.get?_eq_some_iff, ← isPair]
    exact mem_groups member
  have peers := peerPrincipals_pair present pair.principals
  have isParticipant : ∀ other,
      other ∈ channelEntries config entry.channelId ↔
        other = first ∨ other = second := by
    intro other
    rw [isPair]
    simp
  rcases mem_channelEntries.mp ((isParticipant first).mpr (Or.inl rfl)) with
    ⟨firstMember, firstChannel⟩
  rcases mem_channelEntries.mp ((isParticipant second).mpr (Or.inr rfl)) with
    ⟨secondMember, secondChannel⟩
  rcases (isParticipant entry).mp (mem_channelEntries.mpr ⟨member, rfl⟩) with
    isFirst | isSecond
  · rw [isFirst] at peers secondChannel ⊢
    exact ⟨second, secondMember, secondChannel, Ne.symm pair.principals,
      peers.1, peers.2⟩
  · rw [isSecond] at peers firstChannel ⊢
    exact ⟨first, firstMember, firstChannel, pair.principals, peers.2,
      peers.1⟩

end Answers

theorem corresponds_of_build (built : build config = .ok index) :
    Corresponds config index := by
  have filled := (build_filled built).1
  constructor
  · intro channelId provider sessionId
    exact (channelForProviderSession_iff built).symm
  · intro entry member
    exact providerSession_of_build built member
  · intro channelId session known
    rw [providerSession_eq_ok_iff, filled.channelSession] at known
    rcases known with ⟨entries, member, -⟩
    rcases List.mem_map.mp (mem_groupByChannel_iff.mp member).1 with
      ⟨entry, entryMember, same⟩
    exact ⟨entry, entryMember, same⟩
  · intro entry member
    have stored := (filled.principal entry.channelId entry.principal entry).mpr
      ⟨_, mem_groups member, mem_channelEntries.mpr ⟨member, rfl⟩, rfl⟩
    rw [senderExternalUserId, stored]
    simp
  · intro channelId principal identityType externalUserId found
    exact principalForExternalUser_of_build built found
  · intro entry member
    exact peerPrincipals_of_build built member

/--
For every order of the entries of a parsed configuration, the index is built
exactly when the entries are consistent, and it then identifies channels with
sessions and the two participants with each other.
-/
theorem build_acceptsConsistent (raw : Json) (config : SyncerConfig)
    (mappings : List MappingEntry) (parsed : parseConfig raw = .ok config)
    (reordered : mappings.Perm config.mappings) :
    ((∃ index, build { config with mappings } = .ok index) ↔
      ConsistentMapping config) ∧
      ∀ index, build { config with mappings } = .ok index →
        Corresponds { config with mappings } index ∧
          ∀ entry ∈ mappings, entry.principal ≠ config.worker.principal := by
  constructor
  · rw [build_succeeds_iff, consistentMapping_perm_iff reordered]
  · intro index built
    refine ⟨corresponds_of_build built, ?_⟩
    intro entry member isWorker
    have consistent := consistentMapping_of_build built
    have hasToken := (consistent.channels entry member).tokens entry
      (mem_channelEntries.mpr ⟨member, rfl⟩)
    have excluded := (parseConfig_accepted parsed).workerExcluded
    rw [Dict.get?_eq_none_iff] at excluded
    rw [isWorker] at hasToken
    exact excluded hasToken

def sampleRawToken (principal : Int) : Json :=
  .obj [("principal", .int principal), ("token", .str "token")]

def sampleRawMapping (identityType externalUserId : String)
    (principal : Int) : Json :=
  .obj [("provider", .str "lark"), ("identity_type", .str identityType),
    ("external_user_id", .str externalUserId), ("principal", .int principal),
    ("session_id", .str "oc_p2p"), ("channel_id", .int 7)]

/-- A document with one channel between a user and a bot. -/
def sampleRawConfig : Json :=
  .obj [("version", .str "v1"),
    ("worker", .obj [("principal", .int 1), ("token", .str "token")]),
    ("openevent", .obj [("target", .str "localhost:50051")]),
    ("principal_tokens", .arr [sampleRawToken 10, sampleRawToken 20]),
    ("providers", .arr [.obj [("name", .str "lark"), ("sync", .obj []),
      ("credentials", .obj [("app_id", .str "cli_1"),
        ("app_secret", .str "secret")])]]),
    ("mappings", .arr [sampleRawMapping "user" "ou_1" 10,
      sampleRawMapping "bot" "cli_1" 20])]

def sampleEntry (identityType externalUserId : String) (principal : Nat) :
    MappingEntry where
  provider := "lark"
  identityType := identityType
  externalUserId := externalUserId
  principal := principal
  sessionId := "oc_p2p"
  channelId := 7

def sampleParsed : SyncerConfig where
  worker := { principal := 1, token := "token" }
  retry := {
    publishMaxAttempts := 5, publishRetryDelayMs := 200, idleSleepMs := 200 }
  principalTokens := ((∅ : Dict Nat String).set 10 "token").set 20 "token"
  providers := (∅ : Dict String ProviderConfig).set "lark" {
    name := "lark"
    sync := {
      historyRetryDelayMs := 1000, historyOverlapMs := 300000
      historyLookbackMs := 300000, eventQueueSize := 1000 } }
  mappings := [sampleEntry "user" "ou_1" 10, sampleEntry "bot" "cli_1" 20]

theorem parseConfig_sample :
    parseConfig sampleRawConfig = .ok sampleParsed := rfl

theorem consistentMapping_sample : ConsistentMapping sampleParsed := by
  have valid : ValidChannel sampleParsed sampleParsed.mappings := by
    apply validChannel_iff.mpr
    exact ⟨_, _, rfl, by decide, by decide, by decide, by decide, rfl⟩
  have sameChannel : ∀ entry ∈ sampleParsed.mappings, entry.channelId = 7 := by
    decide
  constructor
  · intro entry member
    rw [sameChannel entry member]
    exact valid
  · intro entry member other otherMember _
    rw [sameChannel entry member, sameChannel other otherMember]

/-- The entries of the sample in the other order are accepted as well. -/
theorem build_acceptsConsistent_sample :
    ∃ index, build { sampleParsed with
        mappings := sampleParsed.mappings.reverse } = .ok index ∧
      index.channelForProviderSession "lark" "oc_p2p" = .ok 7 ∧
        index.peerPrincipals 7 20 = ([10], index) := by
  have accepted := build_acceptsConsistent sampleRawConfig sampleParsed
    sampleParsed.mappings.reverse parseConfig_sample
    (List.reverse_perm sampleParsed.mappings)
  rcases accepted.1.mpr consistentMapping_sample with ⟨index, built⟩
  rcases accepted.2 index built with ⟨corresponds, -⟩
  have user : sampleEntry "user" "ou_1" 10 ∈
      sampleParsed.mappings.reverse := by
    decide
  refine ⟨index, built, ?_, ?_⟩
  · rw [← corresponds.inverse]
    exact corresponds.sessions _ user
  · rcases corresponds.peers _ user with
      ⟨other, otherMember, -, different, -, peer⟩
    have isBot : other.principal = 20 := by
      have choices : ∀ entry ∈ sampleParsed.mappings.reverse,
          entry.principal ≠ 10 → entry.principal = 20 := by
        decide
      exact choices other otherMember different
    rw [isBot] at peer
    exact peer

end OpenEventIm.Syncer.MappingAcceptance
