import OpenEventIm.Foundation.SignatureSums
import OpenEventIm.Syncer.MappingQueries
import OpenEventIm.Syncer.Worker

/-!
# Validation of the channels

Before it reads the log, `start` asks the server for every channel of the
mapping and compares it with the configuration: its protocol, the session named
in its description, its visibility and its members.  `ChannelMatches` says when a
channel is accepted, in terms of the mapping entries alone.

`start` as a whole makes one call more than the rest of the worker, so it is a
program over two signatures.  It goes on to the history only after every channel
has been accepted.
-/

namespace OpenEventIm.Syncer.ChannelValidation

open OpenEventIm.Foundation
open OpenEventIm.Foundation.Checked
open OpenEventIm.Foundation.Interaction
open OpenEventIm.Foundation.Transcripts
open OpenEventIm.Foundation.SignatureSums
open OpenEventIm.Sdk.Errors
open OpenEventIm.Sdk.Normalizer
open OpenEventIm.Service.Calls
open OpenEventIm.Syncer.Models
open OpenEventIm.Syncer.Mapping
open OpenEventIm.Syncer.Mapping.P2PMappingIndex
open OpenEventIm.Syncer.MappingAcceptance
open OpenEventIm.Syncer.MappingQueries
open OpenEventIm.Syncer.HistoryReplay
open OpenEventIm.Syncer.ProviderMessages
open OpenEventIm.Syncer.Processor
open OpenEventIm.Syncer.PollEvents
open OpenEventIm.Syncer.Worker

/-! ## Data model -/

/-- `openevent_pb2.Visibility`, as far as the syncer tells its values apart. -/
inductive Visibility where
  | visibilityPrivate
  | other (value : Int)
deriving DecidableEq

/-- The channel of a `get_channel` response. -/
structure Channel where
  protocol : String
  description : String
  visibility : Visibility
  members : List Nat

inductive ChannelCall where
  | getChannel (principal : Nat) (token : String) (channelId : Nat)

@[reducible]
def channelApi : Signature where
  Call := ChannelCall
  Answer _ := Except PyError Channel

/-- The calls that `start` can make. -/
abbrev startApi : Signature := sum channelApi service

abbrev StartAction (Result : Type) := Program startApi PyError Result

/-- Raise the exception of a failed computation. -/
def StartAction.ofExcept {Result : Type} (check : Except PyError Result) :
    StartAction Result := right (Action.ofExcept check)

/-! ## The checks -/

/-- `type(value).__name__`. -/
def typeName : Json → String
  | .null => "NoneType"
  | .bool _ => "bool"
  | .int _ => "int"
  | .float _ _ => "float"
  | .str _ => "str"
  | .arr _ => "list"
  | .obj _ => "dict"

/-- `description.get(key)`, a method of objects only. -/
def descriptionGet (description : Json) (key : String) :
    Except PyError (Option Json) :=
  match description with
  | .obj fields => .ok (Items.get? key fields)
  | value => .error (.raised (.other "AttributeError")
      s!"'{typeName value}' object has no attribute 'get'")

section Checks

variable (syncer : P2PSyncer) (channelId : Nat) (channel : Channel)

/-- `ConfigError(f"channel {channel_id} ...")`. -/
def channelError (problem : String) : PyError :=
  configError s!"channel {channelId} {problem}"

/-- The check of one field of the description. -/
def checkField (description : Json) (key expected problem : String) :
    Except PyError Unit := do
  let value ← descriptionGet description key
  require (value.bind Json.str? = some expected)
    (channelError channelId problem)

/-- `json.loads(channel.description)`; the decoder's own exception is not
kept. -/
def loadDescription : Except PyError Json :=
  match syncer.text.loads channel.description with
  | some description => .ok description
  | none => .error (channelError channelId "description must be JSON")

/-- `required` in `_validate_channel_members`. -/
def requiredMembers : List Nat :=
  syncer.config.worker.principal ::
    (syncer.mapping.entriesForChannel channelId).1.map MappingEntry.principal

/-- `sorted(required - members)`. -/
def missingMembers : List Nat :=
  sortedSet ((requiredMembers syncer channelId).filter (· ∉ channel.members))

/-- `_validate_channel_members`. -/
def validateChannelMembers : Except PyError Unit := do
  require (channel.visibility = .visibilityPrivate)
    (channelError channelId "visibility must be private")
  require (missingMembers syncer channelId channel = [])
    (channelError channelId
      s!"missing members: {missingMembers syncer channelId channel}")

/-- What `_validate_channels` checks of a channel. -/
def checkChannel : Except PyError Unit := do
  require (channel.protocol = "im.v1")
    (channelError channelId "protocol must be im.v1")
  let description ← loadDescription syncer channelId channel
  let (provider, sessionId) ← syncer.mapping.providerSession channelId
  checkField channelId description "provider" provider
    "description.provider mismatch"
  checkField channelId description "session_id" sessionId
    "description.session_id mismatch"
  checkField channelId description "session_type" "p2p"
    "description.session_type must be p2p"
  validateChannelMembers syncer channelId channel

end Checks

/-! ## The programs -/

section Programs

variable (syncer : P2PSyncer)

/-- `get_channel`, as the worker. -/
def getChannel (channelId : Nat) : StartAction Channel :=
  .call (.inl (.getChannel syncer.config.worker.principal
    syncer.config.worker.token channelId)) StartAction.ofExcept

/-- The loop of `_validate_channels`. -/
def validateChannels : List Nat → StartAction Unit
  | [] => return ()
  | channelId :: rest => do
      if ← right stopIsSet then
        throw (.raised .syncerStopped
          "syncer stopped during channel validation")
      else do
        let channel ← getChannel syncer channelId
        StartAction.ofExcept (checkChannel syncer channelId channel)
        validateChannels rest

/-- The handlers of the exceptions in `start`. -/
def onFailure (pullers : List (String × ProviderMessagePuller))
    (exc : PyError) : Action (Option Stage) :=
  if exc.cls = .syncerStopped then do
    if ← stopIsSet then
      return none
    else
      throw exc
  else do
    stopMessagePullers pullers
    throw exc

/-- `start` up to the poll loop. -/
def start (processor : SingleThreadProcessor) : StartAction (Option Stage) :=
  (do
    validateChannels syncer syncer.mapping.channelIds
    right do
      let vars ← boot syncer (handlers syncer) processor
      return some (Stage.polling vars)).handle fun exc =>
        right (onFailure processor.messagePullers exc)

end Programs

/-! ## What is accepted -/

/-- A channel as the configuration demands it. -/
structure ChannelMatches (text : JsonText) (config : SyncerConfig)
    (channelId : Nat) (channel : Channel) : Prop where
  protocol : channel.protocol = "im.v1"
  /-- The description is an object that names the session of every entry. -/
  description : ∃ fields, text.loads channel.description = some (.obj fields) ∧
    Items.get? "session_type" fields = some (.str "p2p") ∧
      ∀ entry ∈ config.mappings, entry.channelId = channelId →
        Items.get? "provider" fields = some (.str entry.provider) ∧
          Items.get? "session_id" fields = some (.str entry.sessionId)
  visibility : channel.visibility = .visibilityPrivate
  worker : config.worker.principal ∈ channel.members
  participants : ∀ entry ∈ config.mappings, entry.channelId = channelId →
    entry.principal ∈ channel.members

/-- A configuration error whose message begins with the channel. -/
structure NamesChannel (channelId : Nat) (exc : PyError) : Prop where
  cls : exc.cls = .configError
  message : s!"channel {channelId} ".toList <+: exc.message.toList

/-- What `checkChannel` raises names the channel, unless the description is a
value without fields. -/
def Explains (text : JsonText) (channelId : Nat) (channel : Channel)
    (exc : PyError) : Prop :=
  NamesChannel channelId exc ∨ exc.cls = .other "AttributeError" ∧
    ∃ description, text.loads channel.description = some description ∧
      ∀ fields, description ≠ .obj fields

section Acceptance

variable {syncer : P2PSyncer} {channelId : Nat} {channel : Channel}

theorem str?_eq_some_iff {value : Json} {expected : String} :
    value.str? = some expected ↔ value = .str expected := by
  cases value <;> simp [Json.str?]

theorem checkField_eq_ok_iff {description : Json}
    {key expected problem : String} :
    checkField channelId description key expected problem = .ok () ↔
      ∃ fields, description = .obj fields ∧
        Items.get? key fields = some (.str expected) := by
  rw [checkField, bind_eq_ok_iff]
  cases description with
  | obj fields =>
      simp only [descriptionGet, Except.ok.injEq, exists_eq_left',
        require_eq_ok_iff, Option.bind_eq_some_iff, str?_eq_some_iff,
        Json.obj.injEq, exists_eq_left']
      constructor
      · rintro ⟨value, found, rfl⟩
        exact found
      · intro found
        exact ⟨_, found, rfl⟩
  | _ => simp [descriptionGet]

theorem exists_mapped (mapped : channelId ∈ syncer.mapping.channelIds) :
    ∃ entry ∈ syncer.config.mappings, entry.channelId = channelId := by
  rwa [mem_channelIds, ownsChannel_build syncer.built, List.mem_map] at mapped

theorem mem_entriesForChannel {entry : MappingEntry} :
    entry ∈ (syncer.mapping.entriesForChannel channelId).1 ↔
      entry ∈ syncer.config.mappings ∧ entry.channelId = channelId := by
  have entries : (syncer.mapping.entriesForChannel channelId).1 =
      channelEntries syncer.config channelId := by
    rw [entriesForChannel, readChannel, (build_filled syncer.built).2.2.2,
      get?_groupByChannel]
    by_cases mapped :
        channelId ∈ syncer.config.mappings.map MappingEntry.channelId
    · rw [if_pos mapped]
      rfl
    · rw [if_neg mapped, eq_comm, List.eq_nil_iff_forall_not_mem]
      intro other member
      rcases mem_channelEntries.mp member with ⟨inside, rfl⟩
      exact mapped (List.mem_map_of_mem inside)
  rw [entries, mem_channelEntries]

theorem missingMembers_eq_nil_iff :
    missingMembers syncer channelId channel = [] ↔
      syncer.config.worker.principal ∈ channel.members ∧
        ∀ entry ∈ syncer.config.mappings, entry.channelId = channelId →
          entry.principal ∈ channel.members := by
  have none : missingMembers syncer channelId channel = [] ↔
      ∀ principal ∈ requiredMembers syncer channelId,
        principal ∈ channel.members := by
    rw [List.eq_nil_iff_forall_not_mem]
    simp [missingMembers, sortedSet, List.mem_mergeSort]
  rw [none, requiredMembers, List.forall_mem_cons]
  refine and_congr_right fun _ => ?_
  rw [List.forall_mem_map]
  exact ⟨fun all entry member same =>
      all entry (mem_entriesForChannel.mpr ⟨member, same⟩),
    fun all entry member => by
      rcases mem_entriesForChannel.mp member with ⟨mapped, same⟩
      exact all entry mapped same⟩

theorem validateChannelMembers_eq_ok_iff :
    validateChannelMembers syncer channelId channel = .ok () ↔
      channel.visibility = .visibilityPrivate ∧
        syncer.config.worker.principal ∈ channel.members ∧
          ∀ entry ∈ syncer.config.mappings, entry.channelId = channelId →
            entry.principal ∈ channel.members := by
  rw [validateChannelMembers, unit_bind_eq_ok_iff, require_eq_ok_iff,
    require_eq_ok_iff, missingMembers_eq_nil_iff]

theorem loadDescription_eq_ok_iff {description : Json} :
    loadDescription syncer channelId channel = .ok description ↔
      syncer.text.loads channel.description = some description := by
  rw [loadDescription]
  cases syncer.text.loads channel.description <;> simp

/-- A channel passes the checks exactly when it is as the configuration demands
it. -/
theorem checkChannel_eq_ok_iff
    (mapped : channelId ∈ syncer.mapping.channelIds) :
    checkChannel syncer channelId channel = .ok () ↔
      ChannelMatches syncer.text syncer.config channelId channel := by
  rcases exists_mapped mapped with ⟨first, inside, rfl⟩
  have known := providerSession_of_build syncer.built inside
  have session : ∀ entry ∈ syncer.config.mappings,
      entry.channelId = first.channelId → entry.session = first.session := by
    intro entry member same
    have own := providerSession_of_build syncer.built member
    rw [same, known] at own
    exact (Except.ok.inj own).symm
  rw [checkChannel, unit_bind_eq_ok_iff, require_eq_ok_iff, bind_eq_ok_iff]
  have proceed : ∀ (next : Session → Except PyError Unit),
      (syncer.mapping.providerSession first.channelId >>= next) =
        next first.session := by
    intro next
    rw [known]
    rfl
  simp only [loadDescription_eq_ok_iff, proceed, unit_bind_eq_ok_iff,
    checkField_eq_ok_iff, validateChannelMembers_eq_ok_iff]
  constructor
  · rintro ⟨protocol, description, loaded, ⟨fields, rfl, provider⟩,
      ⟨_, same, sessionId⟩, ⟨_, same', sessionType⟩, visibility, worker,
      participants⟩
    cases same
    cases same'
    refine ⟨protocol, ⟨fields, loaded, sessionType, ?_⟩, visibility, worker,
      participants⟩
    intro entry member same
    have equal := session entry member same
    rw [MappingEntry.session, MappingEntry.session, Prod.mk.injEq] at equal
    rw [equal.1, equal.2]
    exact ⟨provider, sessionId⟩
  · rintro ⟨protocol, ⟨fields, loaded, sessionType, named⟩, visibility, worker,
      participants⟩
    rcases named first inside rfl with ⟨provider, sessionId⟩
    exact ⟨protocol, _, loaded, ⟨fields, rfl, provider⟩,
      ⟨fields, rfl, sessionId⟩, ⟨fields, rfl, sessionType⟩, visibility, worker,
      participants⟩

/-! ## What is refused -/

theorem channelError_named (problem : String) :
    NamesChannel channelId (channelError channelId problem) := by
  refine ⟨rfl, problem.toList, ?_⟩
  simp only [channelError, configError, PyError.message, String.toList_append,
    List.append_assoc]
  rfl

theorem raises_checkField {text : JsonText} {description : Json}
    (loaded : text.loads channel.description = some description)
    (key expected problem : String) :
    RaisesOnly (Explains text channelId channel)
      (checkField channelId description key expected problem) := by
  apply RaisesOnly.bind
  · cases description with
    | obj fields => exact raisesOnly_ok _
    | _ => exact raisesOnly_error (Or.inr ⟨rfl, _, loaded, by simp⟩)
  · rintro value -
    exact raisesOnly_require (Or.inl (channelError_named problem))

theorem raises_checkChannel
    (mapped : channelId ∈ syncer.mapping.channelIds) :
    RaisesOnly (Explains syncer.text channelId channel)
      (checkChannel syncer channelId channel) := by
  have named : ∀ problem,
      Explains syncer.text channelId channel (channelError channelId problem) :=
    fun problem => Or.inl (channelError_named problem)
  apply (raisesOnly_require (named _)).bind
  rintro - -
  apply RaisesOnly.bind
  · rw [loadDescription]
    split
    · exact raisesOnly_ok _
    · exact raisesOnly_error (named _)
  · intro description loaded
    rw [loadDescription_eq_ok_iff] at loaded
    apply RaisesOnly.bind
    · rcases exists_mapped mapped with ⟨entry, inside, rfl⟩
      rw [providerSession_of_build syncer.built inside]
      exact raisesOnly_ok _
    · rintro session -
      apply (raises_checkField loaded _ _ _).bind
      rintro - -
      apply (raises_checkField loaded _ _ _).bind
      rintro - -
      apply (raises_checkField loaded _ _ _).bind
      rintro - -
      apply (raisesOnly_require (named _)).bind
      rintro - -
      exact raisesOnly_require (named _)

end Acceptance

/-! ## The calls of the validation -/

abbrev stopAnswer (isSet : Bool) : Exchanged startApi :=
  ⟨.inr .stopIsSet, isSet⟩

abbrev channelAnswer (syncer : P2PSyncer) (channelId : Nat)
    (answer : Except PyError Channel) : Exchanged startApi :=
  ⟨.inl (.getChannel syncer.config.worker.principal
    syncer.config.worker.token channelId), answer⟩

def stoppedDuringValidation : PyError :=
  .raised .syncerStopped "syncer stopped during channel validation"

/-- The calls for channels that are all accepted. -/
inductive Accepted (syncer : P2PSyncer) :
    List Nat → List (Exchanged startApi) → Prop where
  | nil : Accepted syncer [] []
  | cons {channelId channel rest exchanges}
      (accepts : ChannelMatches syncer.text syncer.config channelId channel)
      (later : Accepted syncer rest exchanges) :
      Accepted syncer (channelId :: rest)
        (stopAnswer false :: channelAnswer syncer channelId (.ok channel) ::
          exchanges)

/-- The answer for a channel is an exception, or the channel is refused. -/
def Fails (syncer : P2PSyncer) (channelId : Nat)
    (answer : Except PyError Channel) (exc : PyError) : Prop :=
  answer = .error exc ∨ ∃ channel, answer = .ok channel ∧
    ¬ChannelMatches syncer.text syncer.config channelId channel ∧
      Explains syncer.text channelId channel exc

/-- The calls of `_validate_channels`, with what it raises. -/
inductive Validates (syncer : P2PSyncer) :
    List Nat → List (Exchanged startApi) → Except PyError Unit → Prop where
  | accepted {channelIds checks} (accepted : Accepted syncer channelIds checks) :
      Validates syncer channelIds checks (.ok ())
  | refused {done channelId rest checks answer exc}
      (accepted : Accepted syncer done checks)
      (fails : Fails syncer channelId answer exc) :
      Validates syncer (done ++ channelId :: rest)
        (checks ++ [stopAnswer false, channelAnswer syncer channelId answer])
        (.error exc)
  | stopped {done channelId rest checks}
      (accepted : Accepted syncer done checks) :
      Validates syncer (done ++ channelId :: rest) (checks ++ [stopAnswer true])
        (.error stoppedDuringValidation)

section Calls

variable {syncer : P2PSyncer} {environment : Environment startApi}
  {before after : environment.State} {exchanges : List (Exchanged startApi)}

/-- One more accepted channel before the others. -/
theorem Validates.cons {channelId : Nat} {channel : Channel} {rest : List Nat}
    {outcome : Except PyError Unit}
    (accepts : ChannelMatches syncer.text syncer.config channelId channel)
    (later : Validates syncer rest exchanges outcome) :
    Validates syncer (channelId :: rest)
      (stopAnswer false :: channelAnswer syncer channelId (.ok channel) ::
        exchanges) outcome := by
  cases later with
  | accepted accepted => exact .accepted (.cons accepts accepted)
  | refused accepted fails => exact .refused (.cons accepts accepted) fails
  | stopped accepted => exact .stopped (.cons accepts accepted)

theorem accepted_of_validates {channelIds : List Nat}
    (validates : Validates syncer channelIds exchanges (.ok ())) :
    Accepted syncer channelIds exchanges := by
  cases validates with
  | accepted accepted => exact accepted

theorem validates_of_transcript {channelIds : List Nat}
    {outcome : Except PyError Unit}
    (mapped : ∀ channelId ∈ channelIds, channelId ∈ syncer.mapping.channelIds)
    (transcript : Transcript environment before
      (validateChannels syncer channelIds) exchanges after outcome) :
    Validates syncer channelIds exchanges outcome := by
  induction channelIds generalizing before exchanges with
  | nil =>
      rcases transcript_ret transcript with ⟨rfl, rfl, rfl⟩
      exact .accepted .nil
  | cons channelId rest ih =>
      rw [List.forall_mem_cons] at mapped
      rcases transcript_call transcript with
        ⟨_, isSet, _, _, rfl, -, -, transcript⟩
      cases isSet with
      | true =>
          rcases transcript_fail transcript with ⟨rfl, rfl, rfl⟩
          exact .stopped .nil
      | false =>
          rcases transcript_call transcript with
            ⟨_, answer, _, _, rfl, -, -, transcript⟩
          cases answer with
          | error exc =>
              rcases transcript_fail transcript with ⟨rfl, rfl, rfl⟩
              exact .refused .nil (Or.inl rfl)
          | ok channel =>
              change Transcript environment _
                (StartAction.ofExcept (checkChannel syncer channelId channel) >>=
                  fun _ => validateChannels syncer rest) _ _ _ at transcript
              have matched := @checkChannel_eq_ok_iff syncer channelId channel mapped.1
              cases checked : checkChannel syncer channelId channel with
              | error exc =>
                  rw [checked] at transcript matched
                  rcases transcript_fail transcript with ⟨rfl, rfl, rfl⟩
                  refine .refused .nil (Or.inr ⟨channel, rfl, ?_,
                    raises_checkChannel mapped.1 exc checked⟩)
                  intro accepts
                  cases matched.mpr accepts
              | ok =>
                  rw [checked] at transcript
                  exact (ih mapped.2 transcript).cons (matched.mp checked)

end Calls

/-! ## A start as a whole -/

/-- The client's exceptions are not the worker's own ones. -/
def ClientRaises (environment : Environment startApi) : Prop :=
  ∀ before request exc after,
    environment.Answers before (.inl request) (.error exc) after →
      exc.cls ≠ .syncerStopped

/-- What `start` does: it reads the history once every channel is accepted.
Otherwise it stops the pullers and raises what it has found, or ends because the
worker is being stopped. -/
inductive Started (environment : Environment startApi) (syncer : P2PSyncer)
    (processor : SingleThreadProcessor) (before : environment.State) :
    List (Exchanged startApi) → environment.State →
      Except PyError (Option Stage) → Prop where
  | goesOn {checks rest middle after outcome}
      (accepted : Accepted syncer syncer.mapping.channelIds checks)
      (validated : Transcript environment before
        (validateChannels syncer syncer.mapping.channelIds) checks middle
        (.ok ()))
      (proceeds : Transcript (rightOf environment) middle
        (Stage.program syncer (.starting processor)) rest after outcome) :
      Started environment syncer processor before
        (checks ++ rest.map inRight) after outcome
  | refused {done channelId rest checks answer exc stops middle after stopped}
      (channels : syncer.mapping.channelIds = done ++ channelId :: rest)
      (accepted : Accepted syncer done checks)
      (fails : Fails syncer channelId answer exc)
      (stopping : Transcript (rightOf environment) middle
        (stopMessagePullers processor.messagePullers) stops after stopped) :
      Started environment syncer processor before
        (checks ++ [stopAnswer false, channelAnswer syncer channelId answer] ++
          stops.map inRight)
        after (stopped.bind fun _ => .error exc)
  | stopped {done channelId rest checks after again}
      (channels : syncer.mapping.channelIds = done ++ channelId :: rest)
      (accepted : Accepted syncer done checks) :
      Started environment syncer processor before
        (checks ++ [stopAnswer true, stopAnswer again]) after
        (if again then .ok none else .error stoppedDuringValidation)

section Start

variable {syncer : P2PSyncer} {environment : Environment startApi}
  {processor : SingleThreadProcessor} {before after : environment.State}
  {exchanges : List (Exchanged startApi)}
  {outcome : Except PyError (Option Stage)}

/-- `start` reads the history only when every channel of the mapping is as the
configuration demands it. -/
theorem start_validatesFirst (client : ClientRaises environment)
    (transcript : Transcript environment before (start syncer processor)
      exchanges after outcome) :
    Started environment syncer processor before exchanges after outcome := by
  rcases transcript_bindHandle transcript with
    ⟨middle, ⟨⟩, checks, rest, rfl, validated, proceeds⟩ |
      ⟨middle, exc, checks, rest, rfl, validated, handled⟩
  · have shape := validates_of_transcript (fun _ member => member) validated
    rw [right_handle] at proceeds
    rcases transcript_right proceeds with ⟨own, rfl, alone⟩
    exact .goesOn (accepted_of_validates shape) validated alone
  · rcases transcript_right handled with ⟨own, rfl, alone⟩
    have shape := validates_of_transcript (fun _ member => member) validated
    generalize channels : syncer.mapping.channelIds = channelIds at shape
    generalize result : (Except.error exc : Except PyError Unit) = returned
      at shape
    cases shape with
    | accepted => cases result
    | @refused done channelId rest checks answer _ accepted fails =>
        cases result
        have other : exc.cls ≠ .syncerStopped := by
          rcases fails with rfl | ⟨channel, rfl, -, named | ⟨cls, -⟩⟩
          · have asked : channelAnswer syncer channelId (.error exc) ∈
                checks ++ [stopAnswer false,
                  channelAnswer syncer channelId (.error exc)] := by simp
            rcases validated.answered asked with ⟨_, _, answers⟩
            exact client _ _ _ _ answers
          · rw [named.cls]
            simp
          · rw [cls]
            simp
        rw [onFailure, if_neg other] at alone
        rcases transcript_bind alone with
          ⟨_, ⟨⟩, stops, rest, rfl, stopping, raised⟩ |
            ⟨failure, rfl, stopping⟩
        · rcases transcript_fail raised with ⟨rfl, rfl, rfl⟩
          rw [List.append_nil]
          exact .refused channels accepted fails stopping
        · exact .refused channels accepted fails stopping
    | stopped accepted =>
        cases result
        have own : stoppedDuringValidation.cls = .syncerStopped := rfl
        rw [onFailure, if_pos own] at alone
        rcases transcript_call alone with
          ⟨_, again, _, _, rfl, -, -, ended⟩
        rw [List.map_cons, List.append_assoc, List.singleton_append]
        cases again with
        | true =>
            rcases transcript_ret ended with ⟨rfl, rfl, rfl⟩
            exact .stopped channels accepted
        | false =>
            rcases transcript_fail ended with ⟨rfl, rfl, rfl⟩
            exact .stopped channels accepted

end Start

/-! ## A start on a server that fails afterwards -/

def sampleDescription : JsonObject := [
  ("provider", .str "lark"),
  ("session_id", .str "oc1"),
  ("session_type", .str "p2p")]

def sampleChannel : Channel where
  protocol := "im.v1"
  description := JsonText.compact.dumps (.obj sampleDescription)
  visibility := .visibilityPrivate
  members := [7, 8, 9]

theorem channelMatches_sample :
    ChannelMatches sampleSyncer.text sampleSyncer.config 3 sampleChannel where
  protocol := rfl
  description := by
    refine ⟨sampleDescription, JsonText.compact.loads_dumps _ ?_, rfl, ?_⟩
    · simp [sampleDescription, Json.wellFormed_obj_iff]
    · intro entry member _
      rcases List.mem_pair.mp member with rfl | rfl <;> exact ⟨rfl, rfl⟩
  visibility := rfl
  worker := by decide
  participants entry member _ := by
    rcases List.mem_pair.mp member with rfl | rfl <;> decide

def unavailable : PyError := .raised (.rpcError (some .unavailable)) "down"

/-- A server that gives the channel and then fails. -/
@[reducible]
def failingServer (channel : Channel) : Environment startApi where
  State := Unit
  Interferes _ _ := False
  Answers
    | _, .inl _, answer, _ => answer = .ok channel
    | _, .inr (.getStatus _ _), answer, _ => answer = .error unavailable
    | _, .inr .stopIsSet, answer, _ => answer = false
    | _, .inr (.stopEventStream _), answer, _ => answer = .ok ()
    | _, .inr _, _, _ => False

def sampleProcessor : SingleThreadProcessor where
  state := .initial
  messagePullers := [("lark", .create "lark" ⟨1000, 1000, 1000, 8⟩)]
  pendingEvents := []
  pendingEventLimit := 8
  workTurn := 0

def failingCalls (channel : Channel) : List (Exchanged startApi) := [
  stopAnswer false,
  channelAnswer sampleSyncer 3 (.ok channel),
  ⟨.inr (.getStatus 9 "worker"), .error unavailable⟩,
  ⟨.inr (.stopEventStream "lark"), .ok ()⟩]

theorem clientRaises_failing (channel : Channel) :
    ClientRaises (failingServer channel) := by
  rintro before request exc after ⟨⟩

theorem asks {Result : Type} {channel : Channel} {request : startApi.Call}
    {answer : startApi.Answer request}
    {next : startApi.Answer request → StartAction Result}
    {exchanges : List (Exchanged startApi)} {outcome : Except PyError Result}
    (answers : (failingServer channel).Answers () request answer ())
    (rest : Transcript (failingServer channel) () (next answer) exchanges ()
      outcome) :
    Transcript (failingServer channel) () (.call request next)
      (⟨request, answer⟩ :: exchanges) () outcome :=
  .call .refl answers rest

theorem transcript_failing {channel : Channel}
    (checked : checkChannel sampleSyncer 3 channel = .ok ()) :
    Transcript (failingServer channel) () (start sampleSyncer sampleProcessor)
      (failingCalls channel) () (.error unavailable) := by
  have rest : Transcript (failingServer channel) ()
      ((StartAction.ofExcept (checkChannel sampleSyncer 3 channel) >>=
        (fun _ => validateChannels sampleSyncer []) >>=
          fun _ => right do
            let vars ← boot sampleSyncer (handlers sampleSyncer) sampleProcessor
            return some (Stage.polling vars)).handle fun exc =>
              right (onFailure sampleProcessor.messagePullers exc))
      [⟨.inr (.getStatus 9 "worker"), .error unavailable⟩,
        ⟨.inr (.stopEventStream "lark"), .ok ()⟩] () (.error unavailable) := by
    rw [checked]
    exact asks rfl (asks rfl .fail)
  rw [start, channelIds_sample]
  exact asks rfl (asks rfl rest)

theorem start_validatesFirst_failing :
    ClientRaises (failingServer sampleChannel) ∧
      ChannelMatches sampleSyncer.text sampleSyncer.config 3 sampleChannel ∧
      Transcript (failingServer sampleChannel) ()
        (start sampleSyncer sampleProcessor) (failingCalls sampleChannel) ()
        (.error unavailable) ∧
      Started (failingServer sampleChannel) sampleSyncer sampleProcessor ()
        (failingCalls sampleChannel) () (.error unavailable) := by
  have checked : checkChannel sampleSyncer 3 sampleChannel = .ok () := by
    rw [checkChannel_eq_ok_iff (by rw [channelIds_sample]; simp)]
    exact channelMatches_sample
  have transcript := transcript_failing checked
  exact ⟨clientRaises_failing _, channelMatches_sample, transcript,
    start_validatesFirst (clientRaises_failing _) transcript⟩

end OpenEventIm.Syncer.ChannelValidation
