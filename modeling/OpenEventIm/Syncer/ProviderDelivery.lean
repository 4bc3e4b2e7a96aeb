import Mathlib.Data.List.Pairwise
import OpenEventIm.Syncer.ProviderMessages

/-!
# A provider that delivers

The provider behind one puller: a non-decreasing clock that stamps the messages,
a history that returns what its window asks for, and an event stream that
enqueues new messages while it is connected and counts its reconnects.

A message is identified by its key and time; the events that history and stream
make of it may differ otherwise.
-/

namespace OpenEventIm.Syncer.ProviderDelivery

open OpenEventIm.Foundation
open OpenEventIm.Foundation.Interaction
open OpenEventIm.Sdk.Errors
open OpenEventIm.Service.Calls
open OpenEventIm.Syncer.ProviderMessages

/-! ## Messages -/

/-- A message at the provider. -/
structure ProviderMessage where
  key : String × String × String
  eventMs : Int
deriving DecidableEq

/-- The session of a message. -/
abbrev ProviderMessage.sessionId (message : ProviderMessage) : String :=
  message.key.2.1

/-- The message that an event is about. -/
def messageOf (event : ProviderEvent) : ProviderMessage where
  key := eventKey event
  eventMs := event.eventMs

/-- The messages that events are about. -/
abbrev messagesOf (events : List ProviderEvent) : List ProviderMessage :=
  events.map messageOf

theorem messagesOf_append (first rest : List ProviderEvent) :
    messagesOf (first ++ rest) = messagesOf first ++ messagesOf rest :=
  List.map_append

/-- A message as it was sent: `missed` when the stream was running but not
connected, with the number of reconnects until then. -/
structure Sent where
  message : ProviderMessage
  missed : Bool
  generation : Nat

/-- A history query: the messages its window held at its first page, and those
that its pages have returned so far. -/
structure HistoryQuery where
  sessionId : String
  startMs : Int
  endMs : Int
  found : List ProviderMessage
  returned : List ProviderMessage

/-! ## The provider's state -/

structure ProviderWorld where
  clock : Int
  /-- All messages, in the order in which they were sent. -/
  sent : List Sent
  /-- The stream has been started for these sessions. -/
  running : Bool
  subscribed : List String
  connected : Bool
  generation : Nat
  /-- The events of the stream that have not been taken. -/
  queue : List ProviderEvent
  /-- The query that a page token of a session continues. -/
  queries : String → String → Option HistoryQuery

namespace ProviderWorld

variable (world : ProviderWorld)

def messages : List ProviderMessage := world.sent.map Sent.message

/-- The messages of a session in a window. -/
def window (sessionId : String) (startMs endMs : Int) :
    List ProviderMessage :=
  world.messages.filter fun message =>
    message.sessionId = sessionId ∧ startMs ≤ message.eventMs ∧
      message.eventMs ≤ endMs

/-- A provider without messages, whose stream is not running. -/
def empty (clock : Int) : ProviderWorld where
  clock := clock
  sent := []
  running := false
  subscribed := []
  connected := false
  generation := 0
  queue := []
  queries _ _ := none

/-- The provider after the stream has been started. -/
def opened (sessionIds : List String) : ProviderWorld :=
  { world with running := true, connected := true, subscribed := sessionIds }

end ProviderWorld

/--
What happens at the provider by itself.  A new message is enqueued while the
stream is connected; a reconnect raises the generation.  The flag says whether
reconnects may complete.
-/
inductive ProviderSteps (reconnecting : Bool) (before : ProviderWorld) :
    ProviderWorld → Prop where
  | passes {now : Int} (later : before.clock ≤ now) :
      ProviderSteps reconnecting before { before with clock := now }
  | sends {event : ProviderEvent} (stamped : event.eventMs = before.clock)
      (fresh : ∀ message ∈ before.messages, message.key ≠ eventKey event) :
      ProviderSteps reconnecting before { before with
        sent := before.sent ++
          [⟨messageOf event, before.running && !before.connected,
            before.generation⟩]
        queue :=
          if before.running = true ∧ before.connected = true ∧
              event.sessionId ∈ before.subscribed then
            before.queue ++ [event]
          else
            before.queue }
  | disconnects (running : before.running = true) :
      ProviderSteps reconnecting before { before with connected := false }
  | reconnects (allowed : reconnecting = true)
      (running : before.running = true)
      (disconnected : before.connected = false) :
      ProviderSteps reconnecting before { before with
        connected := true, generation := before.generation + 1 }

/-- The query of a page: a new one, or the one that the token continues. -/
inductive ContinuesQuery (world : ProviderWorld) (sessionId : String)
    (startMs endMs : Int) : Option String → HistoryQuery → Prop where
  | first : ContinuesQuery world sessionId startMs endMs none
      ⟨sessionId, startMs, endMs, world.window sessionId startMs endMs, []⟩
  | next {token : String} {found returned : List ProviderMessage}
      (known : world.queries sessionId token =
        some ⟨sessionId, startMs, endMs, found, returned⟩) :
      ContinuesQuery world sessionId startMs endMs (some token)
        ⟨sessionId, startMs, endMs, found, returned⟩

/--
An honest page: it holds messages of the session, which may also be around the
window, in ascending order and from the start of the window on without omission
below what it returns; the last page completes what the window held when the
query began.
-/
structure HonestHistory (world : ProviderWorld) (query : HistoryQuery)
    (page : HistoryPage) : Prop where
  ofSession : ∀ message ∈ messagesOf page.events,
    message ∈ world.messages ∧ message.sessionId = query.sessionId
  ascending : ∀ first message rest,
    query.returned ++ messagesOf page.events = first ++ message :: rest →
      ∀ earlier ∈ world.messages, earlier.sessionId = query.sessionId →
        query.startMs ≤ earlier.eventMs →
          earlier.eventMs < message.eventMs → earlier ∈ first
  complete : page.nextPageToken = none → ∀ message ∈ query.found,
    message ∈ query.returned ++ messagesOf page.events

/-- How the history answers a page; another token continues the same query. -/
inductive HistoryAnswers (before : ProviderWorld) (sessionId : String)
    (startMs endMs : Int) (token : Option String) :
    Except PyError HistoryPage → ProviderWorld → Prop where
  | failed {error : PyError} :
      HistoryAnswers before sessionId startMs endMs token (.error error)
        before
  | last {query : HistoryQuery} {page : HistoryPage}
      (continues : ContinuesQuery before sessionId startMs endMs token query)
      (honest : HonestHistory before query page)
      (isLast : page.nextPageToken = none) :
      HistoryAnswers before sessionId startMs endMs token (.ok page) before
  | more {query : HistoryQuery} {page : HistoryPage} {next : String}
      (continues : ContinuesQuery before sessionId startMs endMs token query)
      (honest : HonestHistory before query page)
      (named : page.nextPageToken = some next)
      (advances : token ≠ some next) :
      HistoryAnswers before sessionId startMs endMs token (.ok page)
        { before with
          queries := Function.update before.queries sessionId
            (Function.update (before.queries sessionId) next
              (some { query with
                returned := query.returned ++ messagesOf page.events })) }

/-- How the provider answers; any call that raises may also fail. -/
def ProviderAnswers (before : ProviderWorld) :
    (request : Call) → Answer request → ProviderWorld → Prop
  | .currentTimeMs, nowMs, after => nowMs = before.clock ∧ after = before
  | .startEventStream _ sessionIds, .ok _, after =>
      after = before.opened sessionIds
  | .eventStreamGeneration _, .ok generation, after =>
      generation = before.generation ∧ after = before
  | .takeEvent _, .ok (some event), after => ∃ rest,
      before.queue = event :: rest ∧ after = { before with queue := rest }
  | .fetchHistoryPage _ sessionId startMs endMs token, answer, after =>
      HistoryAnswers before sessionId startMs endMs token answer after
  | _, _, after => after = before

/-- The provider as the puller's environment. -/
@[reducible]
def providerWorld (reconnecting : Bool) : Environment service where
  State := ProviderWorld
  Interferes := ProviderSteps reconnecting
  Answers := ProviderAnswers

/-! ## Consistency -/

/-- An earlier message is not later; a message that follows a missed one on the
stream comes after a reconnect. -/
structure Precedes (first second : Sent) : Prop where
  ascending : first.message.eventMs ≤ second.message.eventMs
  distinct : first.message.key ≠ second.message.key
  reconnected : first.missed = true → second.missed = false →
    first.generation < second.generation

/-- The message was sent on the stream. -/
def OnStream (world : ProviderWorld) (message : ProviderMessage) : Prop :=
  ∃ sent ∈ world.sent, sent.message = message ∧ sent.missed = false

/-- What every state of the provider satisfies; `live` are the events that have
been taken from the stream, before those in its queue. -/
structure Consistent (world : ProviderWorld) (live : List ProviderEvent) :
    Prop where
  ordered : world.sent.Pairwise Precedes
  past : ∀ sent ∈ world.sent, sent.message.eventMs ≤ world.clock ∧
    sent.generation ≤ world.generation
  missed : ∀ sent ∈ world.sent, sent.missed = true →
    world.running = true ∧
      (world.connected = true → sent.generation < world.generation)
  streamed : ∀ event ∈ live ++ world.queue, OnStream world (messageOf event)
  inOrder : (live ++ world.queue).Pairwise
    fun first second => first.eventMs ≤ second.eventMs

section Consistency

variable {world : ProviderWorld} {live : List ProviderEvent}

theorem mem_messages_iff {message : ProviderMessage} :
    message ∈ world.messages ↔ ∃ sent ∈ world.sent, sent.message = message :=
  List.mem_map

theorem OnStream.mem {message : ProviderMessage}
    (onStream : OnStream world message) : message ∈ world.messages := by
  obtain ⟨sent, member, same, -⟩ := onStream
  exact mem_messages_iff.mpr ⟨sent, member, same⟩

/-- No message is later than the clock. -/
theorem Consistent.eventMs_le (consistent : Consistent world live)
    {message : ProviderMessage} (member : message ∈ world.messages) :
    message.eventMs ≤ world.clock := by
  obtain ⟨sent, inSent, rfl⟩ := mem_messages_iff.mp member
  exact (consistent.past sent inSent).1

/-- A message has one key. -/
theorem Consistent.key_injective (consistent : Consistent world live)
    {left right : ProviderMessage} (leftMember : left ∈ world.messages)
    (rightMember : right ∈ world.messages) (same : left.key = right.key) :
    left = right := by
  have distinct : (world.messages.map ProviderMessage.key).Nodup := by
    rw [ProviderWorld.messages, List.map_map]
    exact List.pairwise_map.mpr
      (consistent.ordered.imp fun precedes => precedes.distinct)
  exact List.inj_on_of_nodup_map distinct leftMember rightMember same

/-- One of two messages was sent first. -/
theorem Consistent.precedes_or (consistent : Consistent world live)
    {first second : Sent} (firstMember : first ∈ world.sent)
    (secondMember : second ∈ world.sent) (different : first ≠ second) :
    Precedes first second ∨ Precedes second first := by
  have symmetric : Std.Symm fun left right : Sent =>
      Precedes left right ∨ Precedes right left := ⟨fun _ _ => Or.symm⟩
  have ordered : world.sent.Pairwise fun left right =>
      Precedes left right ∨ Precedes right left :=
    consistent.ordered.imp Or.inl
  exact ordered.forall firstMember secondMember different

theorem consistent_empty (clock : Int) :
    Consistent (ProviderWorld.empty clock) [] where
  ordered := .nil
  past _ member := absurd member List.not_mem_nil
  missed _ member := absurd member List.not_mem_nil
  streamed _ member := absurd member List.not_mem_nil
  inOrder := .nil

/-- Taking an event moves it from the queue to the live events. -/
theorem Consistent.taken {event : ProviderEvent} {rest : List ProviderEvent}
    (consistent : Consistent world live) (split : world.queue = event :: rest) :
    Consistent { world with queue := rest } (live ++ [event]) where
  ordered := consistent.ordered
  past := consistent.past
  missed := consistent.missed
  streamed := by
    intro other member
    apply consistent.streamed other
    rw [split]
    rwa [List.append_assoc] at member
  inOrder := by
    have inOrder := consistent.inOrder
    rw [split] at inOrder
    rw [List.append_assoc]
    exact inOrder

/-- Live events may be dropped. -/
theorem Consistent.dropped {fewer : List ProviderEvent}
    (consistent : Consistent world live) (dropped : fewer.Sublist live) :
    Consistent world fewer where
  ordered := consistent.ordered
  past := consistent.past
  missed := consistent.missed
  streamed event member := consistent.streamed event
    ((dropped.append (List.Sublist.refl _)).subset member)
  inOrder := consistent.inOrder.sublist (dropped.append (List.Sublist.refl _))

/-- Page tokens do not matter. -/
theorem Consistent.queried {queries : String → String → Option HistoryQuery}
    (consistent : Consistent world live) :
    Consistent { world with queries := queries } live where
  ordered := consistent.ordered
  past := consistent.past
  missed := consistent.missed
  streamed := consistent.streamed
  inOrder := consistent.inOrder

/-- Starting the stream, which has not missed anything before. -/
theorem Consistent.opened {sessionIds : List String}
    (consistent : Consistent world live) (stopped : world.running = false) :
    Consistent (world.opened sessionIds) live where
  ordered := consistent.ordered
  past := consistent.past
  missed := by
    intro sent member missed
    have running := (consistent.missed sent member missed).1
    rw [stopped] at running
    cases running
  streamed := consistent.streamed
  inOrder := consistent.inOrder

theorem Consistent.steps {after : ProviderWorld} {reconnecting : Bool}
    (consistent : Consistent world live)
    (steps : ProviderSteps reconnecting world after) :
    Consistent after live := by
  cases steps with
  | passes later =>
      exact
        { ordered := consistent.ordered
          past := fun sent member =>
            (consistent.past sent member).imp_left fun past => past.trans later
          missed := consistent.missed
          streamed := consistent.streamed
          inOrder := consistent.inOrder }
  | disconnects running =>
      exact
        { ordered := consistent.ordered
          past := consistent.past
          missed := fun _ _ _ => ⟨running, nofun⟩
          streamed := consistent.streamed
          inOrder := consistent.inOrder }
  | reconnects allowed running disconnected =>
      exact
        { ordered := consistent.ordered
          past := fun sent member => (consistent.past sent member).imp_right
            fun past => past.trans (Nat.le_succ _)
          missed := fun sent member _ => ⟨running, fun _ =>
            Nat.lt_succ_of_le (consistent.past sent member).2⟩
          streamed := consistent.streamed
          inOrder := consistent.inOrder }
  | @sends event stamped fresh =>
      refine ⟨?_, ?_, ?_, ?_, ?_⟩
      · rw [List.pairwise_append]
        refine ⟨consistent.ordered, List.pairwise_singleton _ _, ?_⟩
        intro sent member last lastMember
        rw [List.mem_singleton.mp lastMember]
        refine ⟨?_, fresh _ (mem_messages_iff.mpr ⟨sent, member, rfl⟩), ?_⟩
        · show _ ≤ event.eventMs
          rw [stamped]
          exact (consistent.past sent member).1
        · intro missed notMissed
          obtain ⟨running, reconnected⟩ :=
            consistent.missed sent member missed
          apply reconnected
          rw [running, Bool.true_and, Bool.not_eq_false'] at notMissed
          exact notMissed
      · intro sent member
        rcases List.mem_append.mp member with member | member
        · exact consistent.past sent member
        · rw [List.mem_singleton.mp member]
          exact ⟨stamped.le, le_rfl⟩
      · intro sent member missed
        rcases List.mem_append.mp member with member | member
        · exact consistent.missed sent member missed
        · rw [List.mem_singleton.mp member, Bool.and_eq_true,
            Bool.not_eq_true'] at missed
          refine ⟨missed.1, fun connected => ?_⟩
          rw [missed.2] at connected
          cases connected
      · have older : ∀ other ∈ live ++ world.queue,
            OnStream { world with
              sent := world.sent ++ [⟨messageOf event,
                world.running && !world.connected, world.generation⟩] }
              (messageOf other) := by
          intro other member
          obtain ⟨sent, inSent, rest⟩ := consistent.streamed other member
          exact ⟨sent, List.mem_append_left _ inSent, rest⟩
        intro other member
        split_ifs at member with enqueued
        · rw [← List.append_assoc] at member
          rcases List.mem_append.mp member with member | member
          · exact older other member
          · rw [List.mem_singleton.mp member]
            refine ⟨_, List.mem_append_right _ (List.mem_singleton_self _),
              rfl, ?_⟩
            rw [enqueued.1, enqueued.2.1]
            rfl
        · exact older other member
      · split_ifs with enqueued
        · rw [← List.append_assoc, List.pairwise_append]
          refine ⟨consistent.inOrder, List.pairwise_singleton _ _, ?_⟩
          intro other member last lastMember
          rw [List.mem_singleton.mp lastMember, stamped]
          exact consistent.eventMs_le (consistent.streamed other member).mem
        · exact consistent.inOrder

end Consistency

end OpenEventIm.Syncer.ProviderDelivery
