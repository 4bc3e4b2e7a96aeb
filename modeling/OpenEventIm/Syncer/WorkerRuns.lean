import OpenEventIm.Syncer.DegradedRecord
import OpenEventIm.Syncer.StartupCut
import OpenEventIm.Syncer.WorkerGuards

/-!
# Runs of the worker

A process learns the log in its history scan, and keeps it in memory while it
polls and ticks.  So the ledger is kept in every run, over any number of
processes, and every call is made as permitted.
-/

namespace OpenEventIm.Syncer.WorkerRuns

open OpenEventIm.Foundation
open OpenEventIm.Foundation.Interaction
open OpenEventIm.Foundation.PendingCalls
open OpenEventIm.Sdk.Errors
open OpenEventIm.Sdk.Normalizer
open OpenEventIm.Sdk.Codec
open OpenEventIm.Sdk.Client
open OpenEventIm.Sdk.MessageReading
open OpenEventIm.Service.Calls
open OpenEventIm.Service.World
open OpenEventIm.Service.Scenes
open OpenEventIm.Syncer.Models
open OpenEventIm.Syncer.Mapping
open OpenEventIm.Syncer.State
open OpenEventIm.Syncer.LogMeaning
open OpenEventIm.Syncer.HistoryReplay
open OpenEventIm.Syncer.HistoryReplay.P2PSyncer
open OpenEventIm.Syncer.StartupCut
open OpenEventIm.Syncer.PublishRetry
open OpenEventIm.Syncer.ProviderMessages
open OpenEventIm.Syncer.ProviderMessages.ProviderMessagePuller
open OpenEventIm.Syncer.Processor
open OpenEventIm.Syncer.Processor.SingleThreadProcessor
open OpenEventIm.Syncer.PollEvents
open OpenEventIm.Syncer.LogReading
open OpenEventIm.Syncer.TickRuns
open OpenEventIm.Syncer.Worker
open OpenEventIm.Syncer.WrittenLog
open OpenEventIm.Syncer.WorkerLedger
open OpenEventIm.Syncer.WorkerMemory
open OpenEventIm.Syncer.WorkerCalls
open OpenEventIm.Syncer.WorkerTicks
open OpenEventIm.Syncer.WorkerGuards
open OpenEventIm.Syncer.EventProvenance

variable {setting : Setting} {deployed : P2PSyncer → Prop}
  {syncer : P2PSyncer} {handed : List Message} {state : RuntimeState}
  {before after current : WorldState setting}
  {processor held : SingleThreadProcessor}

/-! ## The history -/

/-- What a process has learnt when it has been handed the messages. -/
structure Upto (setting : Setting) (deployed : P2PSyncer → Prop)
    (syncer : P2PSyncer) (handed : List Message)
    (held : SingleThreadProcessor) (current : WorldState setting) : Prop where
  knows : Knows setting deployed syncer handed held.state current
  events : HoldsDelivered held current

theorem HoldsDelivered.grows (holds : HoldsDelivered processor before)
    (grows : Grows before after) : HoldsDelivered processor after :=
  holds.mono fun _ delivered => delivered.mono grows.trace

theorem upto_kept (sole : SoleWriter setting syncer.text .sendResult) :
    KeptByReads (Upto setting deployed syncer handed held) where
  stable _ _ step upto :=
    { knows := (knows_kept sole).stable _ _ step upto.knows
      events := HoldsDelivered.grows upto.events step.grows }
  reads _ _ _ _ reads answers upto :=
    { knows := (knows_kept sole).reads _ _ _ _ reads answers upto.knows
      events := HoldsDelivered.grows upto.events answers.grows }

/-- What nobody changes while a process starts. -/
structure Starting (setting : Setting) (deployed : P2PSyncer → Prop)
    (first current : WorldState setting) : Prop where
  ledger : Ledger setting deployed current
  own : ownEntries current.log = ownEntries first.log
  sends : sendsOf current.trace = sendsOf first.trace

theorem Starting.inert {first : WorldState setting} {request : Call}
    {answer : Answer request}
    (starting : Starting setting deployed first before)
    (inert : Inert request) (answers : Answers before request answer after) :
    Starting setting deployed first after where
  ledger := starting.ledger.inert inert answers
  own := by
    rw [ownEntries, answers.entries_eq inert.1]
    exact starting.own
  sends := by
    rw [sendsOf_answers answers, inert.2, Option.toList_none, List.append_nil]
    exact starting.sends

theorem starting_kept {first : WorldState setting} :
    KeptByReads (Starting setting deployed first) where
  stable _ _ step starting :=
    { ledger := starting.ledger.interferes step
      own := step.ownEntries_eq.trans starting.own
      sends := by
        rw [step.trace_eq]
        exact starting.sends }
  reads _ _ _ _ reads answers starting :=
    starting.inert (inert_of_onlyReads reads) answers

/-- The history of the worker is a replay. -/
theorem replay_of_history {messages : List Message}
    (processed : messages.foldlM (handlers syncer).history processor =
      .ok held) :
    syncer.replay processor.state messages = .ok held.state := by
  induction messages generalizing processor with
  | nil =>
      cases processed
      rfl
  | cons message rest ih =>
      rw [List.foldlM_cons] at processed
      rcases Checked.bind_eq_ok_iff.mp processed with ⟨next, first, later⟩
      rcases Checked.bind_eq_ok_iff.mp first with ⟨state, stepped, same⟩
      cases same
      rw [replay, List.foldlM_cons, stepped]
      exact ih later

/-- A replay is the history of the worker. -/
theorem history_of_replay {messages : List Message} {state : RuntimeState}
    (replayed : syncer.replay processor.state messages = .ok state) :
    messages.foldlM (handlers syncer).history processor =
      .ok { processor with state } := by
  induction messages generalizing processor with
  | nil =>
      cases replayed
      rfl
  | cons message rest ih =>
      rw [replay, List.foldlM_cons] at replayed
      rcases Checked.bind_eq_ok_iff.mp replayed with ⟨next, stepped, later⟩
      rw [List.foldlM_cons]
      exact Checked.bind_eq_ok_iff.mpr ⟨{ processor with state := next },
        Checked.bind_eq_ok_iff.mpr ⟨next, stepped, rfl⟩,
        @ih { processor with state := next } later⟩

/-- The history leaves the events alone. -/
theorem events_of_history {messages : List Message}
    (processed : messages.foldlM (handlers syncer).history processor =
      .ok held) :
    held.messagePullers = processor.messagePullers ∧
      held.pendingEvents = processor.pendingEvents := by
  induction messages generalizing processor with
  | nil =>
      cases processed
      exact ⟨rfl, rfl⟩
  | cons message rest ih =>
      rw [List.foldlM_cons] at processed
      rcases Checked.bind_eq_ok_iff.mp processed with ⟨next, first, later⟩
      rcases Checked.bind_eq_ok_iff.mp first with ⟨state, -, same⟩
      cases same
      have kept := ih later
      exact kept

/-- All entries are within the range up to the last one. -/
theorem range_last (log : Log) : log.range 0 (log.last + 1) = log.entries := by
  rw [← SequencedLog.range_of_last_lt SequencedLog.last_lt_frontier,
    SequencedLog.range_frontier]

/-- The history is the whole log as it was when the scan began. -/
theorem itemsOf_history {begun log : Log} {scanEndSeq : Nat}
    (accepted : Accepted syncer handed)
    (handedOver : HandedOver syncer.mapping.channelIds log (scanEndSeq + 1)
      handed)
    (isLast : begun.last = scanEndSeq) (grown : begun.Extends log) :
    syncer.itemsOf handed = logItems syncer begun.entries := by
  rw [itemsOf_eq_filterMap accepted, handedOver.handed, filterMap_messagesIn,
    ← isLast, grown.range_eq SequencedLog.last_lt_frontier, range_last]

/-- What a process has not published itself is of others. -/
theorem foreign_of_ownEntries {entries more : List LogEntry}
    (chronicle : Chronicle setting deployed (entries ++ more))
    (same : (entries ++ more).filter LogEntry.own =
      entries.filter LogEntry.own) : Foreign setting more := by
  intro entry member
  rw [List.filter_append] at same
  have none := List.append_right_eq_self.mp same
  have notOwn := List.filter_eq_nil_iff.mp none entry member
  exact chronicle.foreign entry (List.mem_append_right _ member)
    (Bool.not_eq_true _ ▸ notOwn)

/-- Requests that a replay accepts under one id are of one channel. -/
theorem sameChannel_of_replayable {items : List LogItem}
    (replayable : Replayable items) {task first : OutboundTask}
    (member : task ∈ requestsOf items)
    (found : firstRequest (requestsOf items) task.requestId = some first) :
    first.channelId = task.channelId := by
  rcases List.mem_filterMap.mp member with ⟨item, inside, isRequest⟩
  cases item with
  | fact => cases isRequest
  | request other =>
      cases isRequest
      rcases List.append_of_mem inside with ⟨done, rest, rfl⟩
      have admits := replayable done (.request task) ⟨rest, by simp⟩
      rw [requestsOf_append, firstRequest_append_list] at found
      cases earlier : firstRequest (requestsOf done) task.requestId with
      | some existing =>
          rw [earlier] at found
          cases found
          exact channelId_of_same (admits _ earlier)
      | none =>
          rw [earlier, Option.none_or] at found
          have itself : firstRequest (requestsOf (.request task :: rest))
              task.requestId = some task := by
            rw [requestsOf, List.filterMap_cons, firstRequest]
            exact List.find?_cons_of_pos (by simp)
          cases itself.symm.trans found
          rfl

/-- After the history a process knows the log. -/
theorem knows_history {first begun : WorldState setting} {scanEndSeq : Nat}
    (sole : SoleWriter setting syncer.text .sendResult)
    (initial : processor.state = .initial)
    (starting : Starting setting deployed first after)
    (began : Starting setting deployed first begun)
    (handedOver : HandedOver syncer.mapping.channelIds after.log
      (scanEndSeq + 1) handed)
    (processed : handed.foldlM (handlers syncer).history processor = .ok held)
    (isLast : begun.log.last = scanEndSeq)
    (grown : begun.log.Extends after.log) :
    Knows setting deployed syncer handed held.state after := by
  have replayed := replay_of_history processed
  rw [initial] at replayed
  rcases replay_ok_iff.mp ⟨_, replayed⟩ with ⟨readable, replayable⟩
  have accepted : Accepted syncer handed := by
    intro message member
    rcases readable message member with ⟨parsed, parses, -⟩
    exact ⟨parsed, parses⟩
  have items := itemsOf_history accepted handedOver isLast grown
  rcases grown.isPrefix with ⟨more, split⟩
  have others : Foreign setting more := by
    apply foreign_of_ownEntries
    · rw [split]
      exact starting.ledger.chronicle
    · rw [split]
      exact starting.own.trans began.own.symm
  exact {
    ledger := starting.ledger
    accepted
    handing := handedOver.handing
    sameChannel := fun task member first found =>
      sameChannel_of_replayable replayable member found
    answers := by
      intro result key member
      rw [← split, logFacts_append] at member
      rcases List.mem_append.mp member with earlier | new
      · rw [logFacts, ← items] at earlier
        exact replayable.answers earlier
      · exact absurd new (noResult_foreign sole others)
    sent := by
      intro sameText send member
      rw [starting.sends, ← began.sends] at member
      rcases began.ledger.sends.source member with
        ⟨author, task, deploys, inside, made⟩
      refine ⟨author, task, deploys, ?_, made, fun owned => ?_⟩
      · rw [← split, logRequests_append]
        exact List.mem_append_left _ inside
      · rw [requestsIn, items]
        exact mem_logRequests_owned (sameText author deploys) owned inside
    memory := by
      rw [← split]
      refine ⟨factsOf (syncer.itemsOf handed), ?_⟩
      apply Remembers.foreign _ sole others
      exact {
        reflects := (replays_replay replayed).reflects
        resting := resting_replay replayed
        results := fun requestId => by rw [items]; rfl
        records := fun _ => by rw [items]; rfl } }

/-! ## Stages -/

section Stages

variable {vars : PollVars SingleThreadProcessor} {stage : Stage}

/-- The worker keeps what it knows while it consumes the log. -/
theorem consumes_handlers
    (sole : SoleWriter setting syncer.text .sendResult)
    (deploys : deployed syncer) :
    Consumes syncer (handlers syncer) (Ledger setting deployed)
      (Upto setting deployed syncer) where
  kept _ _ := upto_kept sole
  sound _ _ _ upto := upto.knows.ledger
  live := by
    intro handed held message next state upto handing stepped
    rcases Checked.bind_eq_ok_iff.mp stepped with ⟨live, processed, same⟩
    cases same
    exact {
      knows := upto.knows.live handing processed
      events := ⟨upto.events.pending, upto.events.pullers⟩ }
  tick := by
    intro handed held state upto _
    have events := @safe_delivered held setting _ state _ Prod.snd upto.events
      fun _ => given_tick syncer
    have safe := safe_runs (safe_tick sole deploys upto.knows)
    apply safe.bind
    rintro ⟨worked, next⟩ after ledger ⟨known, run⟩
    exact ⟨ledger, known, (events.runs_ok run).2⟩

/-- The poll loop's invariant, from some number on. -/
def Polls (setting : Setting) (deployed : P2PSyncer → Prop)
    (syncer : P2PSyncer) (vars : PollVars SingleThreadProcessor)
    (current : WorldState setting) : Prop :=
  ∃ low, Polled syncer (Upto setting deployed syncer) low vars current

/-- The start of a process. -/
theorem safe_boot (sole : SoleWriter setting syncer.text .sendResult)
    (initial : processor.state = .initial)
    (events : HoldsDelivered processor current)
    (ledger : Ledger setting deployed current) :
    Safe (world setting) (Ledger setting deployed)
      (Polls setting deployed syncer) (fun _ _ => True)
      (boot syncer (handlers syncer) processor) current := by
  have starting : Starting setting deployed current current :=
    ⟨ledger, rfl, rfl⟩
  rw [boot]
  apply (safe_runs (safe_scanHistory starting_kept
    (fun _ starting => starting.ledger) starting)).bind
  rintro ⟨scanEndSeq, scanned⟩ after -
    ⟨⟨isStarting, ⟨handed, handedOver, processed⟩, begun, began, isLast, grown⟩,
      run⟩
  have knows := knows_history sole initial isStarting began handedOver processed
    isLast grown
  have scannedEvents : HoldsDelivered scanned after := by
    rcases events_of_history processed with ⟨samePullers, samePending⟩
    have holds := HoldsDelivered.grows events (runs_grows run)
    constructor
    · rw [samePending]
      exact holds.pending
    · rw [samePullers]
      exact holds.pullers
  have pullers := safe_grown (Grows.refl after) (safe_inert sole
    (calls_startMessagePullers syncer scanned.state scanned.messagePullers)
    knows)
  have launchEvents := @safe_delivered scanned setting _ after _ id
    scannedEvents fun _ => given_launch syncer
  have launched : Safe (world setting) (Ledger setting deployed)
      (fun next booted =>
        Knows setting deployed syncer handed next.state booted ∧
          Grows after booted)
      (fun _ _ => True) ((handlers syncer).launch scanned) after := by
    apply Safe.bind (pullers.mono (fun _ _ _ known => known)
      (fun _ _ _ _ => trivial))
    intro started booted isLedger known
    exact ⟨isLedger, known⟩
  apply (safe_runs launched).bind
  intro next booted isLedger
  rintro ⟨⟨known, grows⟩, run⟩
  refine ⟨isLedger, scanEndSeq + 1, ?_⟩
  apply polled_start (handedOver.extends grows.log) _
    ⟨known, (launchEvents.runs_ok run).2⟩
  rw [← isLast]
  exact (grown.trans grows.log).last_le

/-- What holds at a stage of a process. -/
def StageHolds (setting : Setting) (deployed : P2PSyncer → Prop)
    (syncer : P2PSyncer) (current : WorldState setting) : Stage → Prop
  | .starting processor =>
      Ledger setting deployed current ∧ processor.state = .initial ∧
        HoldsDelivered processor current
  | .polling vars => Polls setting deployed syncer vars current

theorem ledger_of_polls (sole : SoleWriter setting syncer.text .sendResult)
    (deploys : deployed syncer)
    (polls : Polls setting deployed syncer vars current) :
    Ledger setting deployed current := by
  rcases polls with ⟨low, polled⟩
  exact polled_sound (consumes_handlers sole deploys) polled

/-- The handlers of the exceptions in `start` keep the ledger. -/
theorem safe_stopOnFailure {body : Action (Option Stage)}
    {pullers : List (String × ProviderMessagePuller)}
    {returns : Option Stage → WorldState setting → Prop}
    (safe : Safe (world setting) (Ledger setting deployed) returns
      (fun _ _ => True) body current)
    (ends : ∀ after, Ledger setting deployed after → returns none after) :
    Safe (world setting) (Ledger setting deployed) returns (fun _ _ => True)
      (stopOnFailure pullers body) current := by
  have inertly {Result : Type} {program : Action Result}
      {state : WorldState setting} (calls : program.Calls Inert)
      (ledger : Ledger setting deployed state) :
      Safe (world setting) (Ledger setting deployed) (fun _ _ => True)
        (fun _ _ => True) program state :=
    (Safe.ofCalls ledger_kept.stable (fun _ ledger => ledger)
      (fun _ _ _ _ inert answers ledger => ledger.inert inert answers) calls
      ledger).mono (fun _ _ _ _ => trivial) (fun _ _ _ _ => trivial)
  rw [stopOnFailure]
  apply safe.handle
  intro exc failed ledger _
  split_ifs
  · have asked : stopIsSet.Calls Inert := ⟨⟨trivial, rfl⟩, fun _ => True.intro⟩
    apply (inertly asked ledger).bind
    intro stopped after isLedger _
    split_ifs
    · exact ⟨isLedger, ends after isLedger⟩
    · exact ⟨isLedger, trivial⟩
  · apply (inertly (calls_stopMessagePullers pullers) ledger).bind
    intro _ after isLedger _
    exact ⟨isLedger, trivial⟩

/-- One stage leads to the next one. -/
theorem safe_program (sole : SoleWriter setting syncer.text .sendResult)
    (deploys : deployed syncer)
    (holds : StageHolds setting deployed syncer current stage) :
    Safe (world setting) (Ledger setting deployed)
      (fun next after => ∀ stage, next = some stage →
        StageHolds setting deployed syncer after stage)
      (fun _ _ => True) (stage.program syncer) current := by
  have consumes := @consumes_handlers setting deployed syncer sole deploys
  cases stage with
  | starting processor =>
      apply safe_stopOnFailure _ (fun _ _ _ none => by cases none)
      apply (safe_boot sole holds.2.1 holds.2.2 holds.1).bind
      intro vars after ledger polls
      refine ⟨ledger, ?_⟩
      rintro next ⟨⟩
      exact polls
  | polling vars =>
      rcases holds with ⟨low, polled⟩
      apply safe_stopOnFailure _ (fun _ _ _ none => by cases none)
      apply (safe_pollBody consumes polled).bind
      intro step after ledger continues
      cases step with
      | inl next =>
          refine ⟨ledger, ?_⟩
          rintro stage ⟨⟩
          exact ⟨low, continues next rfl⟩
      | inr =>
          refine ⟨ledger, ?_⟩
          rintro stage ⟨⟩

end Stages

/-! ## Runs -/

section Runs

variable {first moment : WorldState setting} {stage : Stage}

/-- The worker is the only one that writes results. -/
def SoleResults (setting : Setting) (deployed : P2PSyncer → Prop) : Prop :=
  ∀ syncer, deployed syncer → SoleWriter setting syncer.text .sendResult

/-- One sole writer will do for all configurations with its mapping. -/
theorem soleResults_shared (shared : SharedMapping deployed syncer)
    (sole : SoleWriter setting syncer.text .sendResult) :
    SoleResults setting deployed := by
  intro author deploys
  rw [(shared author deploys).text]
  exact sole

theorem initial_createProcessor (created : createProcessor syncer =
    .ok processor) : processor.state = .initial := by
  rw [createProcessor] at created
  rcases Checked.bind_eq_ok_iff.mp created with ⟨sizes, -, same⟩
  cases same
  rfl

theorem Ledger.evolves (ledger : Ledger setting deployed before)
    (evolves : (world setting).Evolves before after) :
    Ledger setting deployed after :=
  ledger_kept.stable.evolves evolves ledger

theorem WorkerRun.deploys
    (run : WorkerRun setting deployed first syncer stage current) :
    deployed syncer := by
  induction run with
  | starts deploys => exact deploys
  | proceeds _ _ ih => exact ih
  | restarts _ _ _ deploys => exact deploys

/-- What holds at a stage holds in every run that reaches it. -/
theorem WorkerRun.stageHolds (sole : SoleResults setting deployed)
    (begins : Begins first)
    (run : WorkerRun setting deployed first syncer stage current) :
    StageHolds setting deployed syncer current stage := by
  induction run with
  | starts deploys created idle =>
      exact ⟨Ledger.evolves (ledger_begins begins) idle,
        initial_createProcessor created, processorHolds_created _ created⟩
  | proceeds run step ih =>
      have deploys := WorkerRun.deploys run
      have safe := safe_program (sole _ deploys) deploys ih
      exact (safe.runs_ok step).2 _ rfl
  | restarts run crash idle deploys created ih =>
      have deployed := WorkerRun.deploys run
      have safe := safe_program (sole _ deployed) deployed ih
      exact ⟨Ledger.evolves (safe.visits crash) idle,
        initial_createProcessor created, processorHolds_created _ created⟩

/-- The ledger is kept at every moment of every run. -/
theorem Moment.ledger (sole : SoleResults setting deployed)
    (begins : Begins first)
    (isMoment : Moment setting deployed first moment) :
    Ledger setting deployed moment := by
  rcases isMoment with ⟨syncer, stage, before, run, visits⟩
  have deploys := WorkerRun.deploys run
  exact (safe_program (sole _ deploys) deploys
    (WorkerRun.stageHolds sole begins run)).visits visits

/-- A call of a stage comes from its body or is inert. -/
theorem issues_stopOnFailure {body : Action (Option Stage)}
    {pullers : List (String × ProviderMessagePuller)} {request : Call}
    (issues : Issues (world setting) before (stopOnFailure pullers body) moment
      request) :
    Issues (world setting) before body moment request ∨ Inert request := by
  rw [stopOnFailure] at issues
  rcases issues_handle issues with inside | ⟨middle, exc, -, outside⟩
  · exact Or.inl inside
  · right
    split_ifs at outside
    · apply issues_calls outside
      refine ⟨⟨trivial, rfl⟩, fun stopped => ?_⟩
      cases stopped <;> exact True.intro
    · apply issues_calls outside
      exact Program.Calls.bind (calls_stopMessagePullers _) fun _ => True.intro

/-- A call of the worker is inert, or a tick makes it, as permitted: then the
messages up to the snapshot have been handed over. -/
theorem WorkerRun.issues (sole : SoleResults setting deployed)
    (begins : Begins first) {request : Call}
    (run : WorkerRun setting deployed first syncer stage before)
    (issued : Issues (world setting) before (stage.program syncer) moment
      request) :
    Inert request ∨ ∃ vars lastSeq handed, stage = .polling vars ∧
      vars.point = .ticking ∧ vars.snapshotLastSeq = some lastSeq ∧
        HandedOver syncer.mapping.channelIds before.log (lastSeq + 1) handed ∧
          Upto setting deployed syncer handed vars.held before ∧
            Permitted deployed syncer handed moment request := by
  have deploys := WorkerRun.deploys run
  have holds := WorkerRun.stageHolds sole begins run
  have consumes := @consumes_handlers setting deployed syncer (sole _ deploys)
    deploys
  cases stage with
  | starting processor =>
      left
      rcases issues_stopOnFailure issued with inside | inert
      · apply issues_calls inside
        exact Program.Calls.bind (calls_boot _ _) fun _ => True.intro
      · exact inert
  | polling vars =>
      rcases issues_stopOnFailure issued with inside | inert
      · rcases issues_bind inside with body | ⟨middle, step, -, rest⟩
        · rw [pollBody] at body
          cases point : vars.point with
          | polling =>
              rw [point] at body
              exact Or.inl (issues_calls body (calls_pollOnce _ _ _))
          | ticking =>
              right
              rw [point] at body
              rcases holds with ⟨low, polled⟩
              rcases polled.ticking point with
                ⟨lastSeq, handed, snapshot, handedOver, upto, -⟩
              refine ⟨vars, lastSeq, handed, rfl, point, snapshot, handedOver,
                upto, ?_⟩
              dsimp only at body
              rw [tickOnce] at body
              rcases issues_bind body with ticks | ⟨middle, held, -, waits⟩
              · rcases issues_bind ticks with inTick | ⟨_, result, -, none⟩
                · exact guarded_tick (sole _ deploys) deploys upto.events
                    upto.knows _ _ inTick
                · exact absurd none not_issues_ret
              · apply permitted_inert
                apply issues_calls waits
                split_ifs
                · exact True.intro
                · exact ⟨⟨trivial, rfl⟩, fun _ => True.intro⟩
        · cases step <;> exact absurd rest not_issues_ret
      · exact Or.inl inert

end Runs

/-! ## A run with a crash

A request is published, read, sent and answered.  Then the process crashes, and
the next one, which finds both messages in its history, records the message that
comes back from the provider. -/

section Sample

/-! ### The messages -/

def requestedLog : Log :=
  SequencedLog.empty.push ⟨requestMessage, false⟩ (by decide) (by decide)
    (by decide)

theorem resultMessage_small :
    LogEntry.seq ⟨resultMessage, true⟩ ≤ uint64Limit := by decide

/-- The log with the result. -/
def answeredLog : Log :=
  requestedLog.push ⟨resultMessage, true⟩ (Nat.le_refl 2) (Nat.succ_pos 1)
    resultMessage_small

/-- The bot's message comes back. -/
def echoEvent : ProviderEvent :=
  { DegradedRecord.sampleEvent with
    senderExternalUserId := "ou8"
    senderIdentityType := "bot" }

def echoRoute : RecordRoute where
  principal := 8
  token := "bot"
  channelId := 3
  recipients := [7]

/-- The payload of its record. -/
def echoPayload : JsonObject :=
  (syncRecordPayload (fullRecordInput echoEvent (some 2) 5)).toOption.getD []

def echoMessage : Message where
  seq := 3
  channelId := 3
  principal := 8
  recipients := [7]
  payload := encodePayload JsonText.compact echoPayload

theorem echoMessage_small :
    LogEntry.seq ⟨echoMessage, true⟩ ≤ uint64Limit := by
  show 3 ≤ uint64Limit
  decide

/-- The log with the record. -/
def recordedLog : Log :=
  answeredLog.push ⟨echoMessage, true⟩ (Nat.le_refl 3) (Nat.succ_pos 2)
    echoMessage_small

theorem recordRoute_echoEvent :
    recordRoute sampleSyncer 3 echoEvent = .ok echoRoute := by
  have peers : (sampleMapping.peerPrincipals 3 8).1 = [7].mergeSort := rfl
  rw [List.mergeSort_singleton] at peers
  have routed : recordRoute sampleSyncer 3 echoEvent =
      .ok ⟨8, "bot", 3, (sampleMapping.peerPrincipals 3 8).1⟩ := rfl
  rw [routed, peers]
  rfl

set_option maxRecDepth 4000 in
theorem encoded_echoMessage : encodeSyncRecord sampleSyncer.text
    (fullRecordInput echoEvent (some 2) 5) = .ok echoMessage.payload := by
  have built : syncRecordPayload (fullRecordInput echoEvent (some 2) 5) =
      .ok echoPayload := rfl
  rw [encodeSyncRecord, built]
  rfl

set_option maxRecDepth 4000 in
theorem record_echoMessage :
    (recordMethod echoRoute (fullRecordInput echoEvent (some 2) 5)).record
      sampleSyncer.text = .ok (recordOf echoMessage) := by
  have normalized : normalizeRecipients
      (some (echoRoute.recipients.map Int.ofNat)) true =
        .ok (sortedSet [7]) := rfl
  have once : [7].dedup = [7] := rfl
  rw [sortedSet, once, List.mergeSort_singleton] at normalized
  exact checkRecord_eq_ok_iff.mpr
    ⟨encoded_echoMessage, normalized, ⟨rfl, by decide, Nat.succ_pos 7⟩, rfl,
      by decide, Nat.succ_pos 2⟩

theorem record_resultMessage :
    (resultMethod sampleSyncer (.ofParsed requestParsed) "om1" 0).record
      sampleSyncer.text = .ok (recordOf resultMessage) := by
  have encoded := encodeSendResult_of_payload sampleSyncer.text
    sendResultPayload_sample
  refine checkRecord_eq_ok_iff.mpr ⟨encoded.trans ?_, rfl,
    ⟨rfl, by decide, by decide⟩, rfl, by decide, by decide⟩
  simp only [recordOf, resultMessage, sampleSyncer]

/-! ### The process in memory -/

def chatHighwater : Dict String (Option Int) :=
  (∅ : Dict String (Option Int)).set "oc1" none

def newPuller : ProviderMessagePuller :=
  create "lark" ⟨1000, 1000, 1000, 8⟩

/-- The puller when it has been started. -/
def chatPuller : ProviderMessagePuller where
  provider := "lark"
  config := ⟨1000, 1000, 1000, 8⟩
  sessions := chatHighwater.mapValues (newPuller.startedSession 4)
  sessionOrder := ["oc1"]
  sessionCursor := 0
  liveEvents := []
  streamGeneration := 0
  started := true

theorem startedAt_chatPuller :
    newPuller.startedAt chatHighwater 4 0 = chatPuller :=
  congrArg (fun order => { chatPuller with sessionOrder := order })
    (List.mergeSort_singleton "oc1")

def chatProcessor (puller : ProviderMessagePuller) : SingleThreadProcessor where
  state := .initial
  messagePullers := [("lark", puller)]
  pendingEvents := []
  pendingEventLimit := 8
  workTurn := 0

theorem created_chat : createProcessor sampleSyncer =
    .ok (chatProcessor newPuller) := by
  rw [createProcessor, providerQueueSizes, channelIds_sample]
  rfl

/-- The request has been read. -/
def askedState : RuntimeState :=
  (RuntimeState.initial.addSendRequest requestParsed).2

/-- The loop has read the request. -/
def askedVars : PollVars SingleThreadProcessor where
  point := .ticking
  nextSeq := 2
  snapshotLastSeq := some 1
  snapshotHadMessages := true
  prefetchedMessages := []
  prefetchedLastSeq := none
  held := { chatProcessor chatPuller with state := askedState }

/-- The request and its result have been read in the history. -/
def replayedState : RuntimeState :=
  askedState.storeSendResult resultParsed (.ofParsed requestParsed) "lark" "oc1"

def replayedProcessor (puller : ProviderMessagePuller) :
    SingleThreadProcessor :=
  { chatProcessor puller with state := replayedState }

/-- The loop has found nothing after the history. -/
def replayedVars : PollVars SingleThreadProcessor :=
  PollVars.settle (.start 3 (replayedProcessor chatPuller)) 2

theorem live_requestMessage :
    sampleSyncer.processLiveMessage .initial requestMessage =
      .ok askedState := by
  rw [processLiveMessage_eq parse_requestMessage rfl rfl]
  rfl

theorem replay_messages : sampleSyncer.replay .initial
    [requestMessage, resultMessage] = .ok replayedState := by
  have request : sampleSyncer.processHistoryMessage .initial requestMessage =
      .ok askedState := by
    rw [processHistoryMessage_eq parse_requestMessage rfl rfl rfl]
    rfl
  have result : sampleSyncer.processHistoryMessage askedState resultMessage =
      .ok replayedState := by
    rw [processHistoryMessage_eq parse_resultMessage rfl rfl rfl]
    rfl
  rw [replay, List.foldlM_cons, Checked.bind_eq_ok_iff]
  refine ⟨_, request, ?_⟩
  rw [List.foldlM_cons, Checked.bind_eq_ok_iff]
  exact ⟨_, result, rfl⟩

theorem history_messages :
    [requestMessage, resultMessage].foldlM (handlers sampleSyncer).history
      (chatProcessor newPuller) = .ok (replayedProcessor newPuller) :=
  @history_of_replay sampleSyncer (chatProcessor newPuller) _ _ replay_messages

/-! ### The providers -/

/-- The providers have nothing to tell. -/
inductive Idle : (request : Call) → Answer request → Prop where
  | opened {provider sessionIds} :
      Idle (.startEventStream provider sessionIds) (.ok ())
  | sound {provider} : Idle (.eventStreamError provider) (.ok none)
  | connected {provider} : Idle (.eventStreamGeneration provider) (.ok 0)
  | nothing {provider} : Idle (.takeEvent provider) (.ok none)
  | lastPage {provider sessionId startMs endMs pageToken} :
      Idle (.fetchHistoryPage provider sessionId startMs endMs pageToken)
        (.ok ⟨[], none⟩)

/-- Others publish the request and nothing but requests like it, the server
takes what the worker publishes, and the providers send the request and deliver
its message. -/
structure Hosts (setting : Setting) (silent posted : setting.provider.State) :
    Prop where
  requested : ∀ log, setting.foreign log requestMessage
  foreign : ∀ log message, setting.foreign log message →
    message.payload = requestMessage.payload
  committable : ∀ message, setting.committable message
  idle : ∀ state request answer, Idle request answer →
    setting.provider.Answers state request answer state
  sends : setting.provider.Answers silent
    (.sendMessage "lark" "oc1" "ou8" "text" [] "r1")
    (.ok ⟨true, some "om1", none, none⟩) posted
  delivers : setting.provider.Answers posted (.takeEvent "lark")
    (.ok (some echoEvent)) posted

section Run

variable {silent posted : setting.provider.State} {scene : Scene setting}

theorem Hosts.replies {request : Call} {answer : Answer request}
    (hosts : Hosts setting silent posted) (idle : Idle request answer) :
    Replies scene request answer scene := by
  refine replies_provider ?_ (hosts.idle _ _ _ idle)
  cases idle <;> rfl

/-! ### The start -/

def launchCalls : List Exchange := [
  ⟨.startEventStream "lark" ["oc1"], .ok ()⟩,
  ⟨.currentTimeMs, (4 : Int)⟩,
  ⟨.eventStreamGeneration "lark", .ok 0⟩]

/-- The first process finds an empty log. -/
def bootCalls : List Exchange :=
  ⟨.getStatus 9 "worker", .ok ⟨0⟩⟩ :: launchCalls

/-- The puller is started. -/
theorem Hosts.launches (hosts : Hosts setting silent posted)
    {syncer : P2PSyncer} {held : SingleThreadProcessor}
    (pullers : held.messagePullers = [("lark", newPuller)])
    (highwater : sessionHighwaterMs syncer held.state "lark" =
      .ok chatHighwater) :
    Leads ((handlers syncer).launch held) scene launchCalls scene
      (.ok { held with messagePullers := [("lark", chatPuller)] }) := by
  have starts : Leads (newPuller.start chatHighwater) scene launchCalls scene
      (.ok chatPuller) := by
    rw [← startedAt_chatPuller]
    exact leads_call (hosts.replies .opened) (leads_call
      (replies_server rfl rfl) (leads_call (hosts.replies .connected) leads_ret))
  have started : Leads (startMessagePullers syncer held.state
      held.messagePullers) scene launchCalls scene
      (.ok [("lark", chatPuller)]) := by
    rw [pullers, startMessagePullers, highwater]
    exact Leads.calls_eq (.bind leads_ret (.bind starts
      (.bind leads_ret leads_ret))) rfl
  exact Leads.calls_eq (.bind started leads_ret) rfl

/-- The start of a process that has read its history. -/
theorem Hosts.boots_of_scan (hosts : Hosts setting silent posted)
    {syncer : P2PSyncer} {held next : SingleThreadProcessor} {scanEndSeq : Nat}
    {calls : List Exchange}
    (scans : Leads (scanHistory syncer (handlers syncer) held) scene calls scene
      (.ok (scanEndSeq, next)))
    (pullers : next.messagePullers = [("lark", newPuller)])
    (highwater : sessionHighwaterMs syncer next.state "lark" =
      .ok chatHighwater) :
    Leads ((Stage.starting held).program syncer) scene (calls ++ launchCalls)
      scene (.ok (some (.polling (.start (scanEndSeq + 1)
        { next with messagePullers := [("lark", chatPuller)] })))) := by
  refine Leads.calls_eq (.handle (.bind (.bind scans (.bind
    (hosts.launches pullers highwater) leads_ret)) leads_ret)) ?_
  rw [List.append_nil, List.append_nil]

theorem Hosts.boots (hosts : Hosts setting silent posted) :
    Leads ((Stage.starting (chatProcessor newPuller)).program sampleSyncer)
      ⟨.empty, silent⟩ bootCalls ⟨.empty, silent⟩
      (.ok (some (.polling (.start 1 (chatProcessor chatPuller))))) := by
  have highwater : sessionHighwaterMs sampleSyncer .initial "lark" =
      .ok chatHighwater := by
    rw [sessionHighwaterMs, channelIds_sample]
    rfl
  have scans : Leads (scanHistory sampleSyncer (handlers sampleSyncer)
      (chatProcessor newPuller)) (⟨.empty, silent⟩ : Scene setting)
      [⟨.getStatus 9 "worker", .ok ⟨0⟩⟩] ⟨.empty, silent⟩
      (.ok (0, chatProcessor newPuller)) :=
    leads_call replies_status leads_ret
  exact hosts.boots_of_scan scans rfl highwater

/-- Before it polls, the process finds that it has to stop. -/
theorem leads_stopped : Leads
    ((Stage.polling (.start 1 (chatProcessor chatPuller))).program sampleSyncer)
    scene [⟨.stopIsSet, true⟩] scene (.ok none) := by
  have stops : Replies scene .stopIsSet true scene := replies_server rfl rfl
  exact Leads.calls_eq (.handle (.bind (leads_call stops leads_ret) leads_ret))
    rfl

/-! ### The request -/

def readCalls : List Exchange := [
  ⟨.stopIsSet, false⟩,
  ⟨.fetch 9 "worker" 1 1000 false [3], .ok ⟨[requestMessage], 2, 1⟩⟩]

/-- An iteration that reads a page is a stage. -/
theorem leads_pollOnce {syncer : P2PSyncer}
    {vars next : PollVars SingleThreadProcessor} {calls : List Exchange}
    {later : Scene setting} (polls : vars.point = .polling)
    (nothing : vars.prefetchedLastSeq = none)
    (fetches : Leads (fetchLive syncer (handlers syncer) vars) scene calls later
      (.ok (.inl next))) :
    Leads ((Stage.polling vars).program syncer) scene
      (⟨.stopIsSet, false⟩ :: calls) later (.ok (some (.polling next))) :=
  Leads.calls_eq (.handle (.bind (leads_pollBody polls (Or.inr nothing) fetches)
    leads_ret)) (List.append_nil _)

/-- The request is published, and the loop reads it. -/
theorem Hosts.reads (hosts : Hosts setting silent posted) :
    Leads ((Stage.polling (.start 1 (chatProcessor chatPuller))).program
        sampleSyncer) ⟨.empty, silent⟩ readCalls ⟨requestedLog, silent⟩
      (.ok (some (.polling askedVars))) := by
  have live : (handlers sampleSyncer).live (chatProcessor chatPuller)
      requestMessage =
        .ok { chatProcessor chatPuller with state := askedState } :=
    Checked.bind_eq_ok_iff.mpr ⟨_, live_requestMessage, rfl⟩
  have page : [requestMessage].foldlM (handlers sampleSyncer).live
      (chatProcessor chatPuller) =
        .ok { chatProcessor chatPuller with state := askedState } := by
    rw [List.foldlM_cons, Checked.bind_eq_ok_iff]
    exact ⟨_, live, rfl⟩
  have taken : takePage (handlers sampleSyncer)
      (.start 1 (chatProcessor chatPuller)) ⟨[requestMessage], 2, 1⟩ =
        .ok askedVars :=
    Checked.bind_eq_ok_iff.mpr ⟨_, page, rfl⟩
  have appends : SequencedLog.empty.Appends ⟨requestMessage, false⟩
      requestedLog :=
    SequencedLog.appends_push (by decide) (by decide) (by decide)
  have honest : HonestPage requestedLog 1 sampleSyncer.mapping.channelIds
      ⟨[requestMessage], 2, 1⟩ := by
    rw [channelIds_sample]
    exact ⟨rfl, rfl, by decide, by decide⟩
  have fetched := leads_fetchLive (⟨requestedLog, silent⟩ : Scene setting) taken
    honest le_rfl
  refine Leads.calls_eq (leads_pollOnce rfl rfl (leads_published
    (hosts.requested _) appends fetched)) ?_
  rw [channelIds_sample]
  rfl

/-- What a tick asks of the provider when its history is empty. -/
def collectCalls (event : Option ProviderEvent) : List Exchange := [
  ⟨.eventStreamError "lark", .ok none⟩,
  ⟨.eventStreamGeneration "lark", .ok 0⟩,
  ⟨.takeEvent "lark", .ok event⟩,
  ⟨.eventStreamError "lark", .ok none⟩,
  ⟨.eventStreamGeneration "lark", .ok 0⟩,
  ⟨.currentTimeMs, (4 : Int)⟩,
  ⟨.fetchHistoryPage "lark" "oc1" 0 4 none, .ok ⟨[], none⟩⟩]

/-- The session after its empty history. -/
def quietReceived : SessionPullState :=
  receivedPage (newPuller.startedSession 4 none) ⟨0, 4, none⟩ ⟨[], none⟩

def quietPuller : ProviderMessagePuller :=
  chatPuller.advanced 0 "oc1" quietReceived

/-- Nothing is collected. -/
theorem Hosts.collectsNothing (hosts : Hosts setting silent posted)
    {state : RuntimeState} :
    Leads (collectProviderMessages
        { chatProcessor chatPuller with state := state }) scene
      (collectCalls none) scene
      (.ok { chatProcessor quietPuller with state := state }) :=
  leads_call (hosts.replies .sound) <|
  leads_call (hosts.replies .connected) <|
  leads_call (hosts.replies .nothing) <|
  leads_call (hosts.replies .sound) <|
  leads_call (hosts.replies .connected) <|
  leads_call (replies_server rfl rfl) <|
  leads_call (hosts.replies .lastPage) leads_ret

/-- A request is sent and its result published. -/
def outboundCalls (token : String) (task : OutboundTask) (session : Session)
    (user messageId : String) (message : Message) (last : Nat) :
    List Exchange :=
  [⟨.sendMessage session.1 session.2 user task.msgType task.content
      task.requestId, .ok ⟨true, some messageId, none, none⟩⟩,
    ⟨.currentTimeMs, (0 : Int)⟩] ++ publishCalls token message last

theorem leads_outbound {syncer : P2PSyncer} {state : RuntimeState}
    {task : OutboundTask} {session : Session} {user messageId : String}
    {message : Message} {log : Log} {sent : Scene setting}
    (attempts : 0 < syncer.config.retry.publishMaxAttempts)
    (routed : sendRoute syncer task = .ok (session, user))
    (usable : messageId ≠ "")
    (replies : Replies scene (.sendMessage session.1 session.2 user task.msgType
      task.content task.requestId) (.ok ⟨true, some messageId, none, none⟩) sent)
    (checked : (resultMethod syncer task messageId 0).record syncer.text =
      .ok (recordOf message))
    (accepted : setting.committable message)
    (appends : sent.log.Appends ⟨message, true⟩ log) :
    Leads (processOutboundTask syncer state task) scene
      (outboundCalls syncer.config.worker.token task session user messageId
        message sent.log.last)
      ⟨log, sent.provider⟩ (.ok (state.markSendResultSuccess task session.1
        session.2 messageId message.seq)) := by
  have named : sentMessageId ⟨true, some messageId, none, none⟩ =
      some messageId := by
    simp [sentMessageId, usable]
  have sends : Leads (sendTask task session user) scene
      [⟨.sendMessage session.1 session.2 user task.msgType task.content
        task.requestId, .ok ⟨true, some messageId, none, none⟩⟩] sent
      (.ok messageId) := by
    refine Leads.calls_eq (.bind (.handle (leads_call replies leads_ret)) ?_)
      (List.append_nil _)
    rw [named]
    exact leads_ret
  have publishes : Leads (publishWithRetry syncer.config.retry
      ((resultMethod syncer task messageId 0).publish syncer.text)) sent
      (publishCalls syncer.config.worker.token message sent.log.last)
      ⟨log, sent.provider⟩ (.ok message.seq) :=
    leads_publish attempts checked accepted appends
  rw [processOutboundTask, routed]
  refine Leads.calls_eq (.bind leads_ret (.bind sends
    (leads_call (replies_server rfl rfl) (.bind leads_ret
      (.bind publishes leads_ret))))) ?_
  rw [outboundCalls, List.append_nil]
  rfl

/-- The calls for the request of the run. -/
def sentCalls : List Exchange :=
  outboundCalls "worker" (.ofParsed requestParsed) ("lark", "oc1") "ou8" "om1"
    resultMessage 1

theorem Hosts.sendsRequest (hosts : Hosts setting silent posted)
    {state : RuntimeState} :
    Leads (processOutboundTask sampleSyncer state (.ofParsed requestParsed))
      ⟨requestedLog, silent⟩ sentCalls ⟨answeredLog, posted⟩
      (.ok (state.markSendResultSuccess (.ofParsed requestParsed) "lark" "oc1"
        "om1" 2)) := by
  have sent : Replies (⟨requestedLog, silent⟩ : Scene setting)
      (.sendMessage "lark" "oc1" "ou8" "text" [] "r1")
      (.ok ⟨true, some "om1", none, none⟩) ⟨requestedLog, posted⟩ :=
    ⟨rfl, hosts.sends⟩
  have appends : requestedLog.Appends ⟨resultMessage, true⟩ answeredLog :=
    SequencedLog.appends_push _ _ _
  have routed : sendRoute sampleSyncer (.ofParsed requestParsed) =
      .ok (("lark", "oc1"), "ou8") := rfl
  have outbound := @leads_outbound setting _ sampleSyncer state _ _ _ _ _ _ _
    (Nat.succ_pos 1) routed (by decide) sent record_resultMessage
    (hosts.committable _) appends
  exact outbound

def sendTickCalls : List Exchange :=
  ⟨.stopIsSet, false⟩ :: (collectCalls none ++ sentCalls)

/-- The tick that sends the request. -/
theorem Hosts.tickSends (hosts : Hosts setting silent posted) : ∃ held,
    Leads (tick sampleSyncer askedVars.held) ⟨requestedLog, silent⟩
      sendTickCalls ⟨answeredLog, posted⟩ (.ok (true, held)) := by
  have sends : Leads (processNextOutboundTask sampleSyncer
      { chatProcessor quietPuller with state := askedState })
      (⟨requestedLog, silent⟩ : Scene setting) sentCalls ⟨answeredLog, posted⟩
      (.ok (true, _)) :=
    Leads.calls_eq (.bind hosts.sendsRequest leads_ret) rfl
  exact ⟨_, Leads.calls_eq (leads_call replies_goesOn (.bind leads_ret (.bind
    hosts.collectsNothing (.bind sends leads_ret)))) rfl⟩

/-- The process sends the request in its first tick. -/
theorem Hosts.ticks (hosts : Hosts setting silent posted) : ∃ next,
    Leads ((Stage.polling askedVars).program sampleSyncer)
      ⟨requestedLog, silent⟩ sendTickCalls ⟨answeredLog, posted⟩
      (.ok (some (.polling next))) := by
  rcases hosts.tickSends with ⟨held, ticks⟩
  exact ⟨_, Leads.calls_eq (.handle (.bind (.bind (.bind ticks leads_ret)
    leads_ret) leads_ret)) rfl⟩

/-- It comes to the send when nothing has been collected. -/
theorem Hosts.asksToSend (hosts : Hosts setting silent posted) :
    Poses ((Stage.polling askedVars).program sampleSyncer)
      ⟨requestedLog, silent⟩ (⟨.stopIsSet, false⟩ :: collectCalls none)
      ⟨requestedLog, silent⟩
      (.sendMessage "lark" "oc1" "ou8" "text" [] "r1") := by
  have sends : Poses (processNextOutboundTask sampleSyncer
      { chatProcessor quietPuller with state := askedState })
      (⟨requestedLog, silent⟩ : Scene setting) [] ⟨requestedLog, silent⟩
      (.sendMessage "lark" "oc1" "ou8" "text" [] "r1") :=
    poses_now.handle.bind.bind.bind
  have ticks : Poses (tick sampleSyncer askedVars.held)
      (⟨requestedLog, silent⟩ : Scene setting)
      (⟨.stopIsSet, false⟩ :: collectCalls none) ⟨requestedLog, silent⟩
      (.sendMessage "lark" "oc1" "ou8" "text" [] "r1") :=
    Poses.calls_eq (poses_call replies_goesOn (leads_ret.poses
      (hosts.collectsNothing.poses sends.bind))) rfl
  exact ticks.bind.bind.bind.handle

/-! ### The next process -/

def scanCalls : List Exchange := [
  ⟨.getStatus 9 "worker", .ok ⟨2⟩⟩,
  ⟨.stopIsSet, false⟩,
  ⟨.fetch 9 "worker" 1 1000 false [3],
    .ok ⟨[requestMessage, resultMessage], 3, 2⟩⟩]

/-- The history has both messages. -/
theorem leads_scan : Leads (scanHistory sampleSyncer (handlers sampleSyncer)
    (chatProcessor newPuller)) (⟨answeredLog, posted⟩ : Scene setting) scanCalls
    ⟨answeredLog, posted⟩ (.ok (2, replayedProcessor newPuller)) := by
  have honest : HonestPage answeredLog 1 sampleSyncer.mapping.channelIds
      ⟨[requestMessage, resultMessage], 3, 2⟩ := by
    rw [channelIds_sample]
    exact ⟨rfl, rfl, by decide, by decide⟩
  have scanned := leads_scanHistory (⟨answeredLog, posted⟩ : Scene setting)
    (Nat.succ_ne_zero 1) honest rfl le_rfl history_messages
  rw [channelIds_sample] at scanned
  exact scanned

def rebootCalls : List Exchange := scanCalls ++ launchCalls

theorem Hosts.reboots (hosts : Hosts setting silent posted) :
    Leads ((Stage.starting (chatProcessor newPuller)).program sampleSyncer)
      ⟨answeredLog, posted⟩ rebootCalls ⟨answeredLog, posted⟩
      (.ok (some (.polling (.start 3 (replayedProcessor chatPuller))))) := by
  have highwater : sessionHighwaterMs sampleSyncer replayedState "lark" =
      .ok chatHighwater := by
    rw [sessionHighwaterMs, channelIds_sample]
    rfl
  exact hosts.boots_of_scan leads_scan rfl highwater

def idleCalls : List Exchange := [
  ⟨.stopIsSet, false⟩,
  ⟨.fetch 9 "worker" 3 1000 false [3], .ok ⟨[], 3, 2⟩⟩]

/-- There is nothing new in the log. -/
theorem leads_idle :
    Leads ((Stage.polling (.start 3 (replayedProcessor chatPuller))).program
        sampleSyncer) (⟨answeredLog, posted⟩ : Scene setting) idleCalls
      ⟨answeredLog, posted⟩ (.ok (some (.polling replayedVars))) := by
  have honest : HonestPage answeredLog 3 sampleSyncer.mapping.channelIds
      ⟨[], 3, 2⟩ := by
    rw [channelIds_sample]
    exact ⟨rfl, rfl, by decide, by decide⟩
  have taken : takePage (handlers sampleSyncer)
      (.start 3 (replayedProcessor chatPuller)) ⟨[], 3, 2⟩ = .ok replayedVars :=
    rfl
  have fetched := leads_fetchLive (⟨answeredLog, posted⟩ : Scene setting) taken
    honest le_rfl
  refine Leads.calls_eq (leads_pollOnce rfl rfl fetched) ?_
  rw [channelIds_sample]
  rfl

/-! ### The record -/

/-- The event is collected from the subscription, after the empty history. -/
def echoPuller : ProviderMessagePuller :=
  { quietPuller with liveEvents := [] }.deliver 0 "oc1" quietReceived echoEvent

def echoProcessor : SingleThreadProcessor :=
  { replayedProcessor echoPuller with pendingEvents := [echoEvent] }

/-- No request is pending; a stale entry leaves the heap. -/
def searchedState : RuntimeState := replayedState.nextPendingTask.2

theorem Hosts.collectsEcho (hosts : Hosts setting silent posted) {log : Log}
    {state : RuntimeState} :
    Leads (collectProviderMessages
        { chatProcessor chatPuller with state := state })
      (⟨log, posted⟩ : Scene setting) (collectCalls (some echoEvent))
      ⟨log, posted⟩ (.ok { chatProcessor echoPuller with
        state := state
        pendingEvents := [echoEvent] }) :=
  leads_call (hosts.replies .sound) <|
  leads_call (hosts.replies .connected) <|
  leads_call (replies_provider rfl hosts.delivers) <|
  leads_call (hosts.replies .sound) <|
  leads_call (hosts.replies .connected) <|
  leads_call (replies_server rfl rfl) <|
  leads_call (hosts.replies .lastPage) leads_ret

/-- The message of an event that has not been seen is recorded. -/
theorem leads_records {syncer : P2PSyncer} {state : RuntimeState}
    {channelId : Nat} {event : ProviderEvent} {route : RecordRoute}
    {ingestedMs : Int} {message : Message} {log : Log}
    (attempts : 0 < syncer.config.retry.publishMaxAttempts)
    (unseen : inboundKey channelId event ∉ state.inboundSeen)
    (routed : recordRoute syncer channelId event = .ok route)
    (checked : (recordMethod route (fullRecordInput event
      (state.sendResultByProviderMessage.get? (inboundKey channelId event))
      ingestedMs)).record syncer.text = .ok (recordOf message))
    (accepted : setting.committable message)
    (appends : scene.log.Appends ⟨message, true⟩ log) :
    Leads (publishProviderEvent syncer state channelId event) scene
      (⟨.currentTimeMs, ingestedMs⟩ ::
        publishCalls route.token message scene.log.last) ⟨log, scene.provider⟩
      (.ok (state.markSyncRecord (inboundKey channelId event) channelId
        event.eventMs)) := by
  have published : Leads (publishSyncRecord syncer route (fullRecordInput event
      (state.sendResultByProviderMessage.get? (inboundKey channelId event))
      ingestedMs)) scene (publishCalls route.token message scene.log.last)
      ⟨log, scene.provider⟩ (.ok message.seq) :=
    leads_publish attempts checked accepted appends
  have records : Leads (publishRecords syncer route event
      (state.sendResultByProviderMessage.get? (inboundKey channelId event)))
      scene (⟨.currentTimeMs, ingestedMs⟩ ::
        publishCalls route.token message scene.log.last) ⟨log, scene.provider⟩
      (.ok ()) :=
    Leads.calls_eq (leads_call (replies_server rfl rfl) (.handle
      (.bind published leads_ret))) (by rw [List.append_nil])
  rw [publishProviderEvent, if_neg unseen, routed]
  exact Leads.calls_eq (.bind leads_ret (.bind records leads_ret))
    (List.append_nil _)

def recordCalls : List Exchange :=
  ⟨.currentTimeMs, (5 : Int)⟩ :: publishCalls "bot" echoMessage 2

theorem Hosts.records (hosts : Hosts setting silent posted) :
    Leads (publishProviderEvent sampleSyncer searchedState 3 echoEvent)
      ⟨answeredLog, posted⟩ recordCalls ⟨recordedLog, posted⟩
      (.ok (searchedState.markSyncRecord (inboundKey 3 echoEvent) 3 4)) := by
  have unseen : inboundKey 3 echoEvent ∉ searchedState.inboundSeen :=
    Finset.notMem_empty _
  have appends : answeredLog.Appends ⟨echoMessage, true⟩ recordedLog :=
    SequencedLog.appends_push _ _ _
  exact @leads_records setting ⟨answeredLog, posted⟩ _ _ _ _ _ _ _ _
    (Nat.succ_pos 1) unseen recordRoute_echoEvent record_echoMessage
    (hosts.committable _) appends

/-- After its collection, the tick records the message and acknowledges it. -/
theorem Hosts.worksEcho (hosts : Hosts setting silent posted) : ∃ pullers,
    acknowledgeIn echoEvent [("lark", echoPuller)] = .ok pullers ∧
      Leads (workFrom sampleSyncer 0 echoProcessor 0 2)
        (⟨answeredLog, posted⟩ : Scene setting) recordCalls
        ⟨recordedLog, posted⟩ (.ok (true, { echoProcessor with
          state := searchedState.markSyncRecord (inboundKey 3 echoEvent) 3 4
          messagePullers := pullers
          pendingEvents := []
          workTurn := 0 })) := by
  obtain ⟨pullers, acknowledged⟩ : ∃ pullers,
      acknowledgeIn echoEvent [("lark", echoPuller)] = .ok pullers := ⟨_, rfl⟩
  have processes : Leads (processNextProviderEvent sampleSyncer
      { echoProcessor with state := searchedState })
      (⟨answeredLog, posted⟩ : Scene setting) recordCalls ⟨recordedLog, posted⟩
      (.ok (true, { echoProcessor with
        state := searchedState.markSyncRecord (inboundKey 3 echoEvent) 3 4
        messagePullers := pullers
        pendingEvents := [] })) := by
    refine Leads.calls_eq (.bind hosts.records ?_) (List.append_nil _)
    show Leads (Action.ofExcept (acknowledgeIn echoEvent
      [("lark", echoPuller)]) >>= _) _ _ _ _
    rw [acknowledged]
    exact leads_ret
  exact ⟨pullers, acknowledged,
    Leads.calls_eq (.bind leads_ret (.bind processes leads_ret)) rfl⟩

def recordTickCalls : List Exchange :=
  ⟨.stopIsSet, false⟩ ::
    (collectCalls (some echoEvent) ++ recordCalls ++ [⟨.stopWait 10, false⟩])

/-- The second process records the message in its first tick. -/
theorem Hosts.ticksEcho (hosts : Hosts setting silent posted) : ∃ next,
    Leads ((Stage.polling replayedVars).program sampleSyncer)
      ⟨answeredLog, posted⟩ recordTickCalls ⟨recordedLog, posted⟩
      (.ok (some (.polling next))) := by
  rcases hosts.worksEcho with ⟨pullers, -, works⟩
  have ticks : ∃ held, Leads (tick sampleSyncer replayedVars.held)
      (⟨answeredLog, posted⟩ : Scene setting)
      (⟨.stopIsSet, false⟩ :: (collectCalls (some echoEvent) ++ recordCalls))
      ⟨recordedLog, posted⟩ (.ok (true, held)) :=
    ⟨_, Leads.calls_eq (leads_call replies_goesOn (.bind leads_ret (.bind
      hosts.collectsEcho works))) rfl⟩
  rcases ticks with ⟨ticked, ticks⟩
  have waits : Leads (stopWait 10) (⟨recordedLog, posted⟩ : Scene setting)
      [⟨.stopWait 10, false⟩] ⟨recordedLog, posted⟩ (.ok false) :=
    leads_call (replies_server rfl rfl) leads_ret
  exact ⟨_, Leads.calls_eq (.handle (.bind (.bind (.bind ticks leads_ret)
    (.bind waits leads_ret)) leads_ret)) rfl⟩

/-- It comes to the publish of the record. -/
theorem Hosts.asksToRecord (hosts : Hosts setting silent posted) :
    Poses ((Stage.polling replayedVars).program sampleSyncer)
      ⟨answeredLog, posted⟩
      (⟨.stopIsSet, false⟩ :: (collectCalls (some echoEvent) ++
        [⟨.currentTimeMs, (5 : Int)⟩, ⟨.getStatus 8 "bot", .ok ⟨2⟩⟩]))
      ⟨answeredLog, posted⟩
      (.publishAutoSeq 8 "bot" 3 echoMessage.payload [7]) := by
  have unseen : inboundKey 3 echoEvent ∉ searchedState.inboundSeen :=
    Finset.notMem_empty _
  have publishes : Poses (publishWithRetry sampleConfig.retry
      ((recordMethod echoRoute (fullRecordInput echoEvent (some 2) 5)).publish
        sampleSyncer.text)) (⟨answeredLog, posted⟩ : Scene setting)
      [⟨.getStatus 8 "bot", .ok ⟨2⟩⟩] ⟨answeredLog, posted⟩
      (.publishAutoSeq 8 "bot" 3 echoMessage.payload [7]) :=
    poses_publish (Nat.succ_pos 1) record_echoMessage
  have records : Poses (publishRecords sampleSyncer echoRoute echoEvent
      (some 2)) (⟨answeredLog, posted⟩ : Scene setting)
      [⟨.currentTimeMs, (5 : Int)⟩, ⟨.getStatus 8 "bot", .ok ⟨2⟩⟩]
      ⟨answeredLog, posted⟩
      (.publishAutoSeq 8 "bot" 3 echoMessage.payload [7]) :=
    poses_call (replies_server rfl rfl) publishes.bind.handle
  have processes : Poses (publishProviderEvent sampleSyncer searchedState 3
      echoEvent) (⟨answeredLog, posted⟩ : Scene setting)
      [⟨.currentTimeMs, (5 : Int)⟩, ⟨.getStatus 8 "bot", .ok ⟨2⟩⟩]
      ⟨answeredLog, posted⟩
      (.publishAutoSeq 8 "bot" 3 echoMessage.payload [7]) := by
    rw [publishProviderEvent, if_neg unseen, recordRoute_echoEvent]
    exact Poses.calls_eq (leads_ret.poses records.bind) rfl
  have ticks : Poses (tick sampleSyncer replayedVars.held)
      (⟨answeredLog, posted⟩ : Scene setting)
      (⟨.stopIsSet, false⟩ :: (collectCalls (some echoEvent) ++
        [⟨.currentTimeMs, (5 : Int)⟩, ⟨.getStatus 8 "bot", .ok ⟨2⟩⟩]))
      ⟨answeredLog, posted⟩
      (.publishAutoSeq 8 "bot" 3 echoMessage.payload [7]) :=
    Poses.calls_eq (poses_call replies_goesOn (leads_ret.poses
      (hosts.collectsEcho.poses (leads_ret.poses processes.bind.bind)))) rfl
  exact ticks.bind.bind.bind.handle

/-! ### The whole run -/

/-- The calls of the first process up to its first tick. -/
def firstCalls : List Exchange := bootCalls ++ readCalls

/-- The calls up to the first tick of the second process. -/
def secondCalls : List Exchange :=
  firstCalls ++ sendTickCalls ++ rebootCalls ++ idleCalls

/-- The world before the first process. -/
def beginning (silent : setting.provider.State) : WorldState setting :=
  (⟨.empty, silent⟩ : Scene setting).world []

/-- The world when the first process has read the request. -/
def askedWorld (silent : setting.provider.State) : WorldState setting :=
  (⟨requestedLog, silent⟩ : Scene setting).world firstCalls

/-- The world when the first process sends the request. -/
def sendingWorld (silent : setting.provider.State) : WorldState setting :=
  (⟨requestedLog, silent⟩ : Scene setting).world
    (firstCalls ++ ⟨.stopIsSet, false⟩ :: collectCalls none)

/-- The world when the first process has published the result. -/
def answeredWorld (posted : setting.provider.State) : WorldState setting :=
  (⟨answeredLog, posted⟩ : Scene setting).world (firstCalls ++ sendTickCalls)

/-- The world when the second process has read the history. -/
def replayedWorld (posted : setting.provider.State) : WorldState setting :=
  (⟨answeredLog, posted⟩ : Scene setting).world secondCalls

/-- The world when the second process publishes the record. -/
def recordingWorld (posted : setting.provider.State) : WorldState setting :=
  (⟨answeredLog, posted⟩ : Scene setting).world (secondCalls ++
    ⟨.stopIsSet, false⟩ :: (collectCalls (some echoEvent) ++
      [⟨.currentTimeMs, (5 : Int)⟩, ⟨.getStatus 8 "bot", .ok ⟨2⟩⟩]))

/-- The world when the second process has published the record. -/
def recordedWorld (posted : setting.provider.State) : WorldState setting :=
  (⟨recordedLog, posted⟩ : Scene setting).world (secondCalls ++ recordTickCalls)

theorem begins_beginning : Begins (beginning silent) := ⟨rfl, rfl⟩

theorem Hosts.run_asked (hosts : Hosts setting silent posted)
    (deploys : deployed sampleSyncer) :
    WorkerRun setting deployed (beginning silent) sampleSyncer
      (.polling askedVars) (askedWorld silent) :=
  ((WorkerRun.starts deploys created_chat .refl).proceeds
    (hosts.boots [])).proceeds (hosts.reads bootCalls)

/-- The first process crashes after its tick. -/
theorem Hosts.run_replayed (hosts : Hosts setting silent posted)
    (deploys : deployed sampleSyncer) :
    WorkerRun setting deployed (beginning silent) sampleSyncer
      (.polling replayedVars) (replayedWorld posted) := by
  rcases hosts.ticks with ⟨next, ticks⟩
  have restarted : WorkerRun setting deployed (beginning silent) sampleSyncer
      (.starting (chatProcessor newPuller)) (answeredWorld posted) :=
    (hosts.run_asked deploys).restarts (ticks firstCalls).visits .refl deploys
      created_chat
  have booted := restarted.proceeds (hosts.reboots (firstCalls ++ sendTickCalls))
  exact booted.proceeds
    (leads_idle (firstCalls ++ sendTickCalls ++ rebootCalls))

theorem Hosts.moment (hosts : Hosts setting silent posted)
    (deploys : deployed sampleSyncer) :
    Moment setting deployed (beginning silent) (recordedWorld posted) := by
  rcases hosts.ticksEcho with ⟨next, ticks⟩
  exact ⟨sampleSyncer, .polling replayedVars, replayedWorld posted,
    hosts.run_replayed deploys, (ticks secondCalls).visits⟩

theorem Hosts.asks (hosts : Hosts setting silent posted)
    (deploys : deployed sampleSyncer) :
    Asks setting deployed (beginning silent) (sendingWorld silent)
      (.sendMessage "lark" "oc1" "ou8" "text" [] "r1") :=
  ⟨sampleSyncer, .polling askedVars, askedWorld silent,
    hosts.run_asked deploys, hosts.asksToSend firstCalls⟩

theorem sends_recordedWorld : sendsOf (recordedWorld posted).trace =
    [⟨("lark", "oc1"), "ou8", "text", [], "r1"⟩] := rfl

theorem read_requestMessage :
    readMessage sampleSyncer.text requestMessage = some requestParsed :=
  (parseMessage_eq_ok_iff.mp parse_requestMessage).1

theorem read_resultMessage :
    readMessage sampleSyncer.text resultMessage = some resultParsed :=
  (parseMessage_eq_ok_iff.mp parse_resultMessage).1

/-- Nobody else publishes anything but requests. -/
theorem Hosts.soleWriter (hosts : Hosts setting silent posted) {kind : Kind}
    (other : kind ≠ .sendRequest) :
    SoleWriter setting sampleSyncer.text kind := by
  intro log message parsed allowed read
  have wellFormed : (Json.obj requestPayload).WellFormed := by
    simp [requestPayload, Json.wellFormed_obj_iff]
  have isRequest := (readMessage_of_encoded (hosts.foreign log message allowed)
    wellFormed).symm.trans read
  cases isRequest
  exact other.symm

/-- The record says which message it is of. -/
theorem carries_echoMessage : ∃ parsed,
    WorkerMessages.CarriesEvent sampleSyncer 3 echoEvent (some 2) echoMessage
      parsed :=
  WorkerMessages.carriesEvent_of_record recordRoute_echoEvent rfl
    ⟨5, Or.inl rfl⟩ record_echoMessage

end Run

/-- Others publish one request only. -/
def requestSetting : Setting where
  provider := arbitraryProvider
  foreign _ message := message = requestMessage
  committable _ := True

theorem hosts_requestSetting : Hosts requestSetting () () where
  requested _ := rfl
  foreign _ _ := congrArg Message.payload
  committable _ := trivial
  idle _ _ _ _ := trivial
  sends := trivial
  delivers := trivial

end Sample

end OpenEventIm.Syncer.WorkerRuns
