import OpenEventIm.Syncer.ReconnectHandoff

/-!
# The puller's methods as statements

Every run of `start`, `take_message`, `acknowledge` and `stop`, as the puller's
programs describe them, is a sequence of statements: what holds between any two
statements holds in particular before and after each method.
-/

namespace OpenEventIm.Syncer.HandoffStatements

open OpenEventIm.Foundation
open OpenEventIm.Foundation.Interaction
open OpenEventIm.Sdk.Errors
open OpenEventIm.Service.Calls
open OpenEventIm.Syncer.Models
open OpenEventIm.Syncer.ProviderMessages
open OpenEventIm.Syncer.ProviderMessages.ProviderMessagePuller
open OpenEventIm.Syncer.ReconnectHandoff

/-! ## The stream as an environment -/

/-- How the clock and the stream answer; other calls leave the stream alone. -/
def StreamAnswers (before : EventStream) :
    (request : Call) → Answer request → EventStream → Prop
  | .currentTimeMs, nowMs, after => nowMs = before.clock ∧ after = before
  | .startEventStream .., _, after => after = before.opened
  | .stopEventStream _, _, after => after = before.closed
  | .eventStreamGeneration _, .ok generation, after =>
      generation = before.generation ∧ after = before
  | _, _, after => after = before

@[reducible]
def streamWorld : Environment service where
  State := EventStream
  Interferes := StreamSteps
  Answers := StreamAnswers

/-- A number of steps. -/
abbrev Steps := Relation.ReflTransGen Step

section Steps

variable {puller : ProviderMessagePuller} {stream later : EventStream}
  {control : Control} {given : List GivenScan}

theorem steps_of_evolves (evolves : streamWorld.Evolves stream later) :
    Steps ⟨puller, stream, control, given⟩ ⟨puller, later, control, given⟩ := by
  induction evolves with
  | refl => exact .refl
  | tail _ step ih => exact ih.tail (.stream step)

/-- The call leaves the stream alone. -/
def LeavesStream (call : Call) : Prop :=
  match call with
  | .startEventStream .. => False
  | .stopEventStream _ => False
  | _ => True

theorem StreamAnswers.unchanged {before after : EventStream} {request : Call}
    {answer : Answer request} (leaves : LeavesStream request)
    (answers : StreamAnswers before request answer after) :
    after = before := by
  cases request with
  | startEventStream => exact absurd leaves id
  | stopEventStream => exact absurd leaves id
  | currentTimeMs => exact answers.2
  | eventStreamGeneration =>
      cases answer with
      | ok generation => exact answers.2
      | error error => exact answers
  | _ => exact answers

end Steps

/-! ## `start` -/

section Start

variable {puller result : ProviderMessagePuller}
  {stream after : EventStream} {given : List GivenScan}

theorem steps_of_start {highwater : Dict String (Option Int)}
    (run : Runs streamWorld stream (puller.start highwater) after
      (.ok result)) :
    ∃ more, Steps ⟨puller, stream, .idle, given⟩
      ⟨result, after, .idle, more⟩ := by
  unfold start at run
  split_ifs at run with started empty
  · obtain ⟨rfl, same⟩ := runs_ret.mp run
    cases same
    exact ⟨given, .refl⟩
  · obtain ⟨-, ⟨⟩⟩ := runs_fail.mp run
  · obtain ⟨ready, answer, opened, evolves, answers, rest⟩ :=
      runs_callBind run
    have atOpen := (@steps_of_evolves puller _ _ .idle given evolves).tail
      (.statement (@Statement.openStream _ highwater rfl
        (Bool.eq_false_of_not_eq_true started) empty))
    cases answer with
    | error error => obtain ⟨-, ⟨⟩⟩ := runs_fail.mp rest
    | ok done =>
        have same : opened = ready.opened := answers
        subst same
        obtain ⟨_, nowMs, ticking, evolves, ⟨rfl, rfl⟩, rest⟩ :=
          runs_callBind rest
        have built := ((atOpen.trans (steps_of_evolves evolves)).tail
          (.statement (.readClock rfl))).tail (.statement (.buildSessions rfl))
        obtain ⟨counting, answer, counted, evolves, answers, rest⟩ :=
          runs_callBind rest
        cases answer with
        | error error => obtain ⟨-, ⟨⟩⟩ := runs_fail.mp rest
        | ok generation =>
            obtain ⟨rfl, rfl⟩ := answers
            obtain ⟨rfl, same⟩ := runs_ret.mp rest
            cases same
            have stored := (((built.trans (steps_of_evolves evolves)).tail
              (.statement (.orderSessions rfl))).tail
                (.statement (.storeGeneration rfl))).tail
                  (.statement (.finishStart rfl))
            rw [startedAt, ← Dict.keys_mapValues highwater
              (puller.startedSession ticking.clock)]
            exact ⟨_, stored⟩

end Start

/-! ## `_schedule_reconnect_handoff` -/

section Handoff

variable {puller result : ProviderMessagePuller}
  {stream after : EventStream} {given : List GivenScan}

/-- The loop hands off one session after the other. -/
theorem steps_of_handOffs {nowMs : Int}
    {done rest : List (String × SessionPullState)}
    (split : puller.sessions.items = done ++ rest) :
    ∃ sessions more,
      sessions.items = done ++ rest.map
        (fun item => (item.1, puller.handOff nowMs item.2)) ∧
      Steps ⟨puller, stream, .handingOff nowMs (rest.map Prod.fst), given⟩
        ⟨{ puller with sessions := sessions }, stream, .handingOff nowMs [],
          more⟩ := by
  induction rest generalizing puller done given with
  | nil => exact ⟨puller.sessions, given, split, .refl⟩
  | cons item rest ih =>
      have found : puller.sessions.get? item.1 = some item.2 :=
        Dict.get?_eq_some_iff.mpr
          (split ▸ List.mem_append_right _ List.mem_cons_self)
      have absent : item.1 ∉ done.map Prod.fst := by
        intro member
        have distinct := puller.sessions.distinct
        rw [split, List.map_append, List.nodup_append] at distinct
        exact distinct.2.2 _ member _ List.mem_cons_self rfl
      have handed : (puller.setSession item.1
          (puller.handOff nowMs item.2)).sessions.items =
            (done ++ [(item.1, puller.handOff nowMs item.2)]) ++ rest := by
        show Items.set _ _ puller.sessions.items = _
        rw [split, Items.set_append_cons absent, List.append_assoc]
        rfl
      obtain ⟨sessions, more, items, steps⟩ := ih handed
      refine ⟨sessions, more, ?_, ?_⟩
      · rw [items, List.append_assoc]
        rfl
      · exact .head (.statement (.handOffSession rfl found rfl)) steps

theorem steps_of_scheduleReconnectHandoff
    (run : Runs streamWorld stream puller.scheduleReconnectHandoff after
      (.ok result)) :
    ∃ more, Steps ⟨puller, stream, .idle, given⟩
      ⟨result, after, .idle, more⟩ := by
  obtain ⟨reading, answer, read, evolves, answers, rest⟩ := runs_callBind run
  have atRead := (@steps_of_evolves puller _ _ .idle given evolves).tail
    (.statement (.readGeneration rfl))
  cases answer with
  | error error => obtain ⟨-, ⟨⟩⟩ := runs_fail.mp rest
  | ok generation =>
      obtain ⟨rfl, rfl⟩ := answers
      rw [Action.ofExcept_ok, Program.ret_bind] at rest
      split_ifs at rest with backwards same
      · obtain ⟨-, ⟨⟩⟩ := runs_fail.mp rest
      · obtain ⟨rfl, equal⟩ := runs_ret.mp rest
        cases equal
        exact ⟨_, atRead.tail (.statement (.keepGeneration rfl same.le))⟩
      · have isNew := lt_of_le_of_ne (Nat.not_lt.mp backwards) (Ne.symm same)
        obtain ⟨_, nowMs, ticking, evolves, ⟨rfl, rfl⟩, rest⟩ :=
          runs_callBind rest
        obtain ⟨rfl, equal⟩ := runs_ret.mp rest
        cases equal
        have atLoop := ((atRead.tail
          (.statement (.recordGeneration rfl isNew))).trans
            (steps_of_evolves evolves)).tail
              (.statement (.readHandoffClock rfl))
        obtain ⟨sessions, more, items, steps⟩ := @steps_of_handOffs
          { puller with streamGeneration := read.generation } after given
          after.clock [] puller.sessions.items rfl
        have mapped : sessions = puller.sessions.mapValues
            (puller.handOff after.clock) := by
          rcases sessions with ⟨sessionItems, distinct⟩
          cases items
          rfl
        subst mapped
        exact ⟨more, (atLoop.trans steps).tail (.statement (.finishHandoff rfl))⟩

end Handoff

/-! ## The other methods -/

section Others

variable {puller result : ProviderMessagePuller}

/-- Storing the state of a session that the puller has. -/
theorem elsewhere_setSession {sessionId : String}
    {state next : SessionPullState}
    (found : puller.sessions.get? sessionId = some state) :
    Elsewhere puller (puller.setSession sessionId next) :=
  ⟨rfl, keys_setSession found⟩

theorem elsewhere_acknowledge {event : ProviderEvent}
    (acknowledged : puller.acknowledge event = .ok result) :
    Elsewhere puller result := by
  unfold acknowledge at acknowledged
  split_ifs at acknowledged with otherProvider
  cases found : puller.sessions.get? event.sessionId with
  | none =>
      rw [found] at acknowledged
      cases acknowledged
  | some state =>
      simp only [found] at acknowledged
      split_ifs at acknowledged with other
      cases acknowledged
      exact elsewhere_setSession found

/-- Whatever its calls answer, the program leaves the stream alone, and its
results are as described. -/
def Yields {Result : Type} (holds : Result → Prop) : Action Result → Prop
  | .ret result => holds result
  | .fail _ => True
  | .call request next =>
      LeavesStream request ∧ ∀ answer, Yields holds (next answer)

theorem Yields.mono {Result : Type} {holds holds' : Result → Prop}
    {program : Action Result} (yields : Yields holds program)
    (weaker : ∀ result, holds result → holds' result) :
    Yields holds' program := by
  induction program with
  | ret result => exact weaker result yields
  | fail => trivial
  | call request next ih =>
      exact ⟨yields.1, fun answer => ih answer (yields.2 answer)⟩

theorem Yields.bind {Result Next : Type} {holds : Next → Prop}
    {middle : Result → Prop} {program : Action Result}
    {continuation : Result → Action Next} (first : Yields middle program)
    (rest : ∀ result, middle result → Yields holds (continuation result)) :
    Yields holds (program >>= continuation) := by
  induction program with
  | ret result => exact rest result first
  | fail => trivial
  | call request next ih =>
      exact ⟨first.1, fun answer => ih answer (first.2 answer)⟩

/-- During such a program only the stream acts. -/
theorem Yields.runs {Result : Type} {holds : Result → Prop}
    {program : Action Result} {stream after : EventStream}
    {outcome : Except PyError Result} (yields : Yields holds program)
    (run : Runs streamWorld stream program after outcome) :
    streamWorld.Evolves stream after ∧
      ∀ result, outcome = .ok result → holds result := by
  induction program generalizing stream with
  | ret result =>
      obtain ⟨rfl, rfl⟩ := runs_ret.mp run
      refine ⟨.refl, ?_⟩
      rintro _ ⟨⟩
      exact yields
  | fail error =>
      obtain ⟨rfl, rfl⟩ := runs_fail.mp run
      exact ⟨.refl, nofun⟩
  | call request next ih =>
      obtain ⟨ready, answer, answered, evolves, answers, rest⟩ := runs_call run
      have same := StreamAnswers.unchanged yields.1 answers
      subst same
      obtain ⟨later, returned⟩ := ih answer (yields.2 answer) rest
      exact ⟨evolves.trans later, returned⟩

theorem elsewhere_deliver {index : Nat} {sessionId : String}
    {state next : SessionPullState} {event : ProviderEvent}
    (found : puller.sessions.get? sessionId = some state) :
    Elsewhere puller (puller.deliver index sessionId next event) :=
  ⟨rfl, keys_setSession found⟩

theorem elsewhere_deliverLive {index : Nat} {sessionId : String}
    {state next : SessionPullState} {event : ProviderEvent}
    (found : puller.sessions.get? sessionId = some state)
    (delivered : puller.deliverLive index sessionId next =
      some (event, result)) : Elsewhere puller result := by
  unfold deliverLive at delivered
  split_ifs at delivered with noScan
  obtain ⟨taken, -, same⟩ := Option.map_eq_some_iff.mp delivered
  cases same
  exact ⟨rfl, keys_setSession found⟩

theorem yields_collectLiveEvent :
    Yields (Elsewhere puller) puller.collectLiveEvent := by
  unfold collectLiveEvent
  split_ifs with full
  · exact Elsewhere.refl puller
  · refine ⟨trivial, fun answer => ?_⟩
    cases answer with
    | error error => exact trivial
    | ok event =>
        cases event with
        | none => exact Elsewhere.refl puller
        | some event =>
            show Yields _ (if _ then _ else _)
            split_ifs with otherProvider unknown
            · exact trivial
            · exact trivial
            · exact ⟨rfl, rfl⟩

/-- What `take_message` returns, as far as the frame goes. -/
def FrameOf (puller : ProviderMessagePuller)
    (taken : Option ProviderEvent × ProviderMessagePuller) : Prop :=
  Elsewhere puller taken.2

theorem yields_fetchHistoryPageOf {sessionId : String}
    {state : SessionPullState} {nowMs : Int} :
    Yields (fun _ => True)
      (puller.fetchHistoryPageOf sessionId state nowMs) := by
  unfold fetchHistoryPageOf
  cases state.historyScan with
  | none => exact trivial
  | some scan =>
      refine ⟨trivial, fun answer => ?_⟩
      cases answer with
      | error error =>
          show Yields _ (if _ then _ else _)
          split_ifs with transient
          · exact trivial
          · exact trivial
      | ok page =>
          show Yields _ (if _ then _ else _)
          split_ifs with foreign
          · exact trivial
          · exact trivial

theorem yields_serveLive {index : Nat} {sessionId : String}
    {state next : SessionPullState}
    (found : puller.sessions.get? sessionId = some state) :
    Yields (FrameOf puller)
      (match puller.deliverLive index sessionId next with
      | some (event, puller) => return (some event, puller)
      | none => return (none, puller)) := by
  cases delivered : puller.deliverLive index sessionId next with
  | none => exact Elsewhere.refl puller
  | some served => exact elsewhere_deliverLive found delivered

theorem yields_serveSession {nowMs : Int} {index : Nat} {sessionId : String}
    {state : SessionPullState}
    (found : puller.sessions.get? sessionId = some state) :
    Yields (FrameOf puller)
      (puller.serveSession nowMs index sessionId state) := by
  unfold serveSession
  by_cases inFlight : state.inFlight.isSome = true
  · rw [if_pos inFlight]
    exact Elsewhere.refl puller
  · rw [if_neg inFlight]
    split
    · exact elsewhere_deliver found
    · by_cases due : state.historyScan.isSome = true ∧
          state.nextHistoryAtMs ≤ nowMs
      · rw [if_pos due]
        apply Yields.bind yields_fetchHistoryPageOf
        intro fetched _
        have stored : (puller.advanced index sessionId fetched).sessions.get?
            sessionId = some fetched := Dict.get?_set_self _ _ _
        have advance : Elsewhere puller
            (puller.advanced index sessionId fetched) :=
          ⟨rfl, keys_setSession found⟩
        split
        · exact advance.trans (elsewhere_deliver stored)
        · exact (yields_serveLive stored).mono fun _ => advance.trans
      · rw [if_neg due]
        exact yields_serveLive found

theorem yields_serveSessions {nowMs : Int} {offset remaining : Nat} :
    Yields (FrameOf puller)
      (puller.serveSessions nowMs offset remaining) := by
  induction remaining generalizing puller offset with
  | zero => exact Elsewhere.refl puller
  | succ remaining ih =>
      simp only [serveSessions]
      split
      · exact trivial
      · split
        · exact trivial
        · rename_i sessionId _ state found
          apply Yields.bind (yields_serveSession found)
          rintro ⟨event, served⟩ frame
          cases event with
          | some event => exact frame
          | none =>
              exact ih.mono fun _ => Elsewhere.trans frame

theorem yields_raiseStreamError :
    Yields (fun _ => True) puller.raiseStreamError := by
  refine ⟨trivial, fun answer => ?_⟩
  cases answer with
  | error error => exact trivial
  | ok answered =>
      cases answered with
      | none => exact trivial
      | some error => exact trivial

end Others

/-! ## `take_message` -/

section TakeMessage

variable {puller result : ProviderMessagePuller}
  {stream after : EventStream} {given : List GivenScan}

/-- A program that leaves the stream and the frame alone. -/
theorem steps_of_yields {Result : Type} {program : Action Result}
    {puller : ProviderMessagePuller}
    (next : Result → ProviderMessagePuller)
    (yields : Yields (fun result => Elsewhere puller (next result)) program)
    {value : Result}
    (run : Runs streamWorld stream program after (.ok value)) :
    Steps ⟨puller, stream, .idle, given⟩
      ⟨next value, after, .idle, given⟩ := by
  obtain ⟨evolves, returned⟩ := yields.runs run
  exact (steps_of_evolves evolves).tail
    (.statement (.elsewhere rfl (returned value rfl)))

theorem steps_of_takeMessage {event : Option ProviderEvent}
    (run : Runs streamWorld stream puller.takeMessage after
      (.ok (event, result))) :
    ∃ more, Steps ⟨puller, stream, .idle, given⟩
      ⟨result, after, .idle, more⟩ := by
  unfold takeMessage at run
  split_ifs at run with notStarted
  · obtain ⟨-, ⟨⟩⟩ := runs_fail.mp run
  · have checked : ∀ {puller : ProviderMessagePuller},
        Yields (fun _ => Elsewhere puller puller) puller.raiseStreamError :=
      fun {puller} => yields_raiseStreamError.mono
        fun _ _ => Elsewhere.refl puller
    have continues : ∀ {Result Next : Type} {program : Action Result}
        {continuation : Result → Action Next} {before last : EventStream}
        {value : Next}, Runs streamWorld before (program >>= continuation)
          last (.ok value) → ∃ middle reached,
            Runs streamWorld before program middle (.ok reached) ∧
              Runs streamWorld middle (continuation reached) last
                (.ok value) := by
      intro Result Next program continuation before last value whole
      rcases runs_bind whole with ⟨middle, reached, head, tail⟩ | ⟨_, -, ⟨⟩⟩
      exact ⟨middle, reached, head, tail⟩
    obtain ⟨_, _, firstCheck, run⟩ := continues run
    obtain ⟨_, handed, firstHandoff, run⟩ := continues run
    obtain ⟨_, collected, collect, run⟩ := continues run
    obtain ⟨_, _, secondCheck, run⟩ := continues run
    obtain ⟨_, again, secondHandoff, run⟩ := continues run
    obtain ⟨ready, nowMs, _, evolves, ⟨-, rfl⟩, serve⟩ := runs_callBind run
    obtain ⟨firstGiven, firstSteps⟩ :=
      @steps_of_scheduleReconnectHandoff _ _ _ _ given firstHandoff
    obtain ⟨secondGiven, secondSteps⟩ :=
      @steps_of_scheduleReconnectHandoff _ _ _ _ firstGiven secondHandoff
    have served := @steps_of_yields _ _ secondGiven _ _ _ Prod.snd
      yields_serveSessions _ serve
    exact ⟨secondGiven,
      (steps_of_yields (fun _ => puller) checked firstCheck).trans
        (firstSteps.trans
          ((steps_of_yields id yields_collectLiveEvent collect).trans
            ((steps_of_yields (fun _ => collected) checked
              secondCheck).trans
                (secondSteps.trans
                  ((steps_of_evolves evolves).trans served)))))⟩

end TakeMessage

/-! ## Runs of the methods -/

/-- The puller and the stream after any number of method calls. -/
inductive MethodsReach (provider : String) (config : ProviderSyncConfig)
    (clock : Int) : ProviderMessagePuller → EventStream → Prop where
  | created : MethodsReach provider config clock (create provider config)
      (initialMoment provider config clock).stream
  | waits {puller before after}
      (reached : MethodsReach provider config clock puller before)
      (steps : StreamSteps before after) :
      MethodsReach provider config clock puller after
  | starts {puller result before after highwater}
      (reached : MethodsReach provider config clock puller before)
      (run : Runs streamWorld before (puller.start highwater) after
        (.ok result)) : MethodsReach provider config clock result after
  | takes {puller result before after event}
      (reached : MethodsReach provider config clock puller before)
      (run : Runs streamWorld before puller.takeMessage after
        (.ok (event, result))) :
      MethodsReach provider config clock result after
  | acknowledges {puller result before event}
      (reached : MethodsReach provider config clock puller before)
      (acknowledged : puller.acknowledge event = .ok result) :
      MethodsReach provider config clock result before
  | stops {puller result before after}
      (reached : MethodsReach provider config clock puller before)
      (run : Runs streamWorld before puller.stop after (.ok result)) :
      MethodsReach provider config clock result after

theorem steps_of_stop {puller result : ProviderMessagePuller}
    {stream after : EventStream} {given : List GivenScan}
    (run : Runs streamWorld stream puller.stop after (.ok result)) :
    Steps ⟨puller, stream, .idle, given⟩ ⟨result, after, .idle, given⟩ := by
  obtain ⟨ready, answer, _, evolves, answers, rest⟩ := runs_callBind run
  cases answer with
  | error error => obtain ⟨-, ⟨⟩⟩ := runs_fail.mp rest
  | ok done =>
      obtain ⟨rfl, same⟩ := runs_ret.mp rest
      cases same
      rw [show after = ready.closed from answers]
      exact (steps_of_evolves evolves).tail (.statement (.stop rfl))

/-- What the methods reach is reached by their statements. -/
theorem steps_of_methodsReach {provider : String}
    {config : ProviderSyncConfig} {clock : Int}
    {puller : ProviderMessagePuller} {stream : EventStream}
    (reached : MethodsReach provider config clock puller stream) :
    ∃ given, Steps (initialMoment provider config clock)
      ⟨puller, stream, .idle, given⟩ := by
  induction reached with
  | created => exact ⟨[], .refl⟩
  | waits _ steps ih =>
      obtain ⟨given, earlier⟩ := ih
      exact ⟨given, earlier.tail (.stream steps)⟩
  | starts _ run ih =>
      obtain ⟨given, earlier⟩ := ih
      obtain ⟨more, later⟩ := steps_of_start run
      exact ⟨more, earlier.trans later⟩
  | takes _ run ih =>
      obtain ⟨given, earlier⟩ := ih
      obtain ⟨more, later⟩ := steps_of_takeMessage run
      exact ⟨more, earlier.trans later⟩
  | acknowledges _ acknowledged ih =>
      obtain ⟨given, earlier⟩ := ih
      exact ⟨given, earlier.tail (.statement
        (.elsewhere rfl (elsewhere_acknowledge acknowledged)))⟩
  | stops _ run ih =>
      obtain ⟨given, earlier⟩ := ih
      exact ⟨given, earlier.trans (steps_of_stop run)⟩

end OpenEventIm.Syncer.HandoffStatements
