import OpenEventIm.Syncer.SessionRuns

/-!
# Transient history failures are invisible

Between two reconnects a session reads one window, page by page.  A query that
fails is asked again later, with the same page token; so the pages received and
the history delivered are those of the same run without its failures.
-/

namespace OpenEventIm.Syncer.HistoryFailures

open OpenEventIm.Foundation
open OpenEventIm.Foundation.Interaction
open OpenEventIm.Foundation.LabelledPaths
open OpenEventIm.Foundation.Transcripts
open OpenEventIm.Sdk.Errors
open OpenEventIm.Service.Calls
open OpenEventIm.Syncer.LiveStream
open OpenEventIm.Syncer.Models
open OpenEventIm.Syncer.ProviderMessages
open OpenEventIm.Syncer.ProviderMessages.ProviderMessagePuller
open OpenEventIm.Syncer.PullerSessions
open OpenEventIm.Syncer.PullerTurns
open OpenEventIm.Syncer.RoundRobin
open OpenEventIm.Syncer.SessionRuns

/-! ## Successful queries -/

/-- A query that has been answered with a page. -/
structure Success where
  scan : HistoryScan
  page : HistoryPage

def success? : SessionAction → Option Success
  | .receives scan page => some ⟨scan, page⟩
  | _ => none

def successes (actions : List SessionAction) : List Success :=
  actions.filterMap success?

/-- The history events that have been delivered. -/
def deliveredHistory (actions : List SessionAction) : List ProviderEvent :=
  actions.filterMap SessionAction.historyDelivered?

def isFailure : SessionAction → Bool
  | .fails _ _ => true
  | _ => false

/-- The same actions with the failures removed. -/
def withoutFailures (actions : List SessionAction) : List SessionAction :=
  actions.filter fun action => isFailure action = false

/-- Each query uses the token of the page before it, the first one the given
token. -/
def TokensFollow (token : Option String) (made : List Success) : Prop :=
  made.map (fun success => success.scan.pageToken) =
    (token :: made.map fun success => success.page.nextPageToken).dropLast

/-- What is left of a window after some of its pages. -/
def scanAfter (window : HistoryScan) (made : List Success) :
    Option HistoryScan :=
  match made.getLast? with
  | none => some window
  | some success => success.page.nextPageToken.map fun token =>
      { window with pageToken := some token }

/-- The reading of a window that has not been replaced. -/
structure Reads (window : HistoryScan) (made : List Success)
    (state : SessionPullState) : Prop where
  same : ∀ success ∈ made, success.scan.startMs = window.startMs ∧
    success.scan.endMs = window.endMs
  tokens : TokensFollow window.pageToken made
  scan : state.historyScan = scanAfter window made

variable {config : ProviderSyncConfig} {provider sessionId : String}
  {window : HistoryScan} {made : List Success} {state later : SessionPullState}
  {actions : List SessionAction} {action : SessionAction}
  {start view next : SessionView}

theorem reads_nil (scanning : state.historyScan = some window) :
    Reads window [] state :=
  ⟨fun _ member => absurd member List.not_mem_nil, rfl, scanning⟩

theorem scanAfter_concat (success : Success) :
    scanAfter window (made ++ [success]) =
      success.page.nextPageToken.map fun token =>
        { window with pageToken := some token } := by
  rw [scanAfter, List.getLast?_concat]

/-- The token of the scan is the one that the last page has named. -/
theorem scanAfter_token {scan : HistoryScan}
    (scanning : scanAfter window made = some scan) :
    scan.startMs = window.startMs ∧ scan.endMs = window.endMs ∧
      (window.pageToken ::
        made.map fun success => success.page.nextPageToken).getLast? =
          some scan.pageToken := by
  induction made using List.reverseRecOn with
  | nil =>
      cases scanning
      exact ⟨rfl, rfl, rfl⟩
  | append_singleton made success =>
      rw [scanAfter_concat] at scanning
      rcases Option.map_eq_some_iff.mp scanning with ⟨token, next, rfl⟩
      refine ⟨rfl, rfl, ?_⟩
      rw [List.map_append, ← List.cons_append, List.map_singleton,
        List.getLast?_concat, next]

theorem tokensFollow_concat {token : Option String} {success : Success}
    (follow : TokensFollow token made)
    (next : (token :: made.map fun success =>
      success.page.nextPageToken).getLast? = some success.scan.pageToken) :
    TokensFollow token (made ++ [success]) := by
  rw [TokensFollow, List.map_append, List.map_append, follow,
    ← List.cons_append, List.map_singleton, List.map_singleton,
    List.dropLast_concat]
  exact List.dropLast_append_getLast? _ next

/-- A page more. -/
theorem Reads.receives {scan : HistoryScan} {page : HistoryPage}
    (reads : Reads window made state)
    (scanning : state.historyScan = some scan) :
    Reads window (made ++ [⟨scan, page⟩]) (receivedPage state scan page) := by
  rw [reads.scan] at scanning
  rcases scanAfter_token scanning with ⟨start, stop, token⟩
  refine ⟨?_, tokensFollow_concat reads.tokens token, ?_⟩
  · intro success member
    rcases List.mem_append.mp member with earlier | last
    · exact reads.same success earlier
    · rw [List.mem_singleton.mp last]
      exact ⟨start, stop⟩
  · rw [scanAfter_concat, receivedPage]
    cases next : page.nextPageToken with
    | none => rfl
    | some token =>
        show some _ = some _
        rw [start, stop]

/-- What a segment has read of its window, and what it has delivered. -/
structure Progress (window : HistoryScan) (start : SessionView)
    (actions : List SessionAction) (view : SessionView) : Prop where
  reads : Reads window (successes actions) view.state
  delivered : deliveredHistory actions ++ view.state.historyEvents =
    start.state.historyEvents ++
      (successes actions).flatMap fun success => success.page.events

theorem successes_concat_none (silent : success? action = none) :
    successes (actions ++ [action]) = successes actions := by
  rw [successes, List.filterMap_append, List.filterMap_cons_none silent,
    List.filterMap_nil, List.append_nil]
  rfl

theorem deliveredHistory_concat_none
    (silent : action.historyDelivered? = none) :
    deliveredHistory (actions ++ [action]) = deliveredHistory actions := by
  rw [deliveredHistory, List.filterMap_append, List.filterMap_cons_none silent,
    List.filterMap_nil, List.append_nil]
  rfl

/-- A step that neither receives a page nor delivers history. -/
theorem Progress.unchanged (progress : Progress window start actions view)
    (unreceived : success? action = none)
    (undelivered : action.historyDelivered? = none)
    (scan : next.state.historyScan = view.state.historyScan)
    (queue : next.state.historyEvents = view.state.historyEvents) :
    Progress window start (actions ++ [action]) next := by
  have reads := progress.reads
  constructor
  · rw [successes_concat_none unreceived]
    exact ⟨reads.same, reads.tokens, scan.trans reads.scan⟩
  · rw [deliveredHistory_concat_none undelivered,
      successes_concat_none unreceived, queue]
    exact progress.delivered

theorem Progress.step (progress : Progress window start actions view)
    (step : SessionStep config provider sessionId view action next)
    (kept : action.scheduled? = none) :
    Progress window start (actions ++ [action]) next := by
  cases step with
  | schedules => cases kept
  | collects => exact progress.unchanged rfl rfl rfl rfl
  | @receives scan _ page _ scanning =>
      have made : successes (actions ++ [.receives scan page]) =
          successes actions ++ [⟨scan, page⟩] := List.filterMap_append
      constructor
      · rw [made]
        exact progress.reads.receives scanning
      · rw [made, deliveredHistory_concat_none rfl, List.flatMap_append,
          List.flatMap_singleton, ← List.append_assoc, ← progress.delivered,
          List.append_assoc]
        exact congrArg _ (receivedPage_historyEvents view.state scan page)
  | fails => exact progress.unchanged rfl rfl rfl rfl
  | @takesHistory event rest _ queue =>
      have taken : deliveredHistory (actions ++ [.takesHistory event]) =
          deliveredHistory actions ++ [event] := List.filterMap_append
      have reads := progress.reads
      constructor
      · rw [successes_concat_none rfl]
        exact ⟨reads.same, reads.tokens, reads.scan⟩
      · rw [taken, successes_concat_none rfl, ← progress.delivered, queue,
          List.append_assoc]
        rfl
  | takesLive => exact progress.unchanged rfl rfl rfl rfl
  | acknowledges => exact progress.unchanged rfl rfl rfl rfl

/-- Between two reconnects a session reads one window. -/
theorem progress_of_path
    (scanning : start.state.historyScan = some window)
    (path : SessionPath config provider sessionId start actions view)
    (kept : ∀ action ∈ actions, SessionAction.scheduled? action = none) :
    Progress window start actions view := by
  induction path with
  | refl => exact ⟨reads_nil scanning, (List.append_nil _).symm⟩
  | tail _ step ih =>
      refine (ih fun action member => ?_).step step ?_
      · exact kept action (List.mem_append_left _ member)
      · exact kept _ (List.mem_append_right _ List.mem_cons_self)

/-! ## The run without its failures -/

/-- The same session, with another time for its next query. -/
def withDelay (view : SessionView) (nextHistoryAtMs : Int) : SessionView :=
  { view with state := { view.state with nextHistoryAtMs := nextHistoryAtMs } }

/-- A step other than a failure can be taken as well by a session that need not
wait as long. -/
theorem sessionStep_withDelay {sooner : Int}
    (step : SessionStep config provider sessionId view action next)
    (succeeds : isFailure action = false)
    (waits : sooner ≤ view.state.nextHistoryAtMs) :
    ∃ later, SessionStep config provider sessionId (withDelay view sooner)
        action (withDelay next later) ∧
      later ≤ next.state.nextHistoryAtMs := by
  cases step with
  | schedules => exact ⟨0, .schedules, le_rfl⟩
  | collects own => exact ⟨sooner, .collects own, waits⟩
  | @receives scan _ page due scanning own =>
      have dueSooner : Due _ (withDelay view sooner).state :=
        ⟨due.idle, due.empty, due.scanning, waits.trans due.waited⟩
      have received : SessionStep config provider sessionId
          (withDelay view sooner) (.receives scan page) _ :=
        .receives dueSooner scanning own
      exact ⟨_, received, le_rfl⟩
  | fails => cases succeeds
  | takesHistory idle queue => exact ⟨sooner, .takesHistory idle queue, waits⟩
  | takesLive idle empty scanned live =>
      exact ⟨sooner, .takesLive idle empty scanned live, waits⟩
  | acknowledges inFlight same =>
      exact ⟨sooner, .acknowledges inFlight same, waits⟩

theorem withoutFailures_concat (actions : List SessionAction)
    (action : SessionAction) :
    withoutFailures (actions ++ [action]) = withoutFailures actions ++
      if isFailure action = false then [action] else [] := by
  rw [withoutFailures, List.filter_append, withoutFailures]
  cases failure : isFailure action <;> simp [failure]

/-- The failures of a path can be left out: the session is where it was, and
waits no longer. -/
theorem path_withoutFailures
    (path : SessionPath config provider sessionId start actions view) :
    ∃ sooner, SessionPath config provider sessionId start
        (withoutFailures actions) (withDelay view sooner) ∧
      sooner ≤ view.state.nextHistoryAtMs := by
  induction path with
  | refl => exact ⟨start.state.nextHistoryAtMs, .refl, le_rfl⟩
  | @tail actions action middle last _ step ih =>
      rcases ih with ⟨sooner, erased, waits⟩
      rw [withoutFailures_concat]
      cases failure : isFailure action with
      | false =>
          rcases sessionStep_withDelay step failure waits with
            ⟨later, step, waitsLater⟩
          exact ⟨later, .tail erased step, waitsLater⟩
      | true =>
          rw [if_neg Bool.noConfusion, List.append_nil]
          cases step with
          | fails due =>
              have delay := Int.natCast_nonneg config.historyRetryDelayMs
              exact ⟨sooner, erased,
                (waits.trans due.waited).trans (le_add_of_nonneg_right delay)⟩
          | _ => cases failure

/-- What a failure shows, it shows to nobody else. -/
theorem filterMap_withoutFailures {Item : Type}
    {shown : SessionAction → Option Item}
    (hidden : ∀ action, isFailure action = true → shown action = none)
    (actions : List SessionAction) :
    (withoutFailures actions).filterMap shown = actions.filterMap shown := by
  induction actions with
  | nil => rfl
  | cons action rest ih =>
      cases failure : isFailure action with
      | false =>
          rw [withoutFailures, List.filter_cons_of_pos (by simp [failure]),
            List.filterMap_cons, List.filterMap_cons]
          rw [withoutFailures] at ih
          rw [ih]
      | true =>
          rw [withoutFailures, List.filter_cons_of_neg (by simp [failure]),
            List.filterMap_cons_none (hidden action failure)]
          exact ih

/-! ## Two readings of one window -/

/-- One list begins with the other one. -/
def Comparable {Item : Type} (first second : List Item) : Prop :=
  first <+: second ∨ second <+: first

theorem tokensFollow_cons_iff {token : Option String} {success : Success} :
    TokensFollow token (success :: made) ↔
      success.scan.pageToken = token ∧
        TokensFollow success.page.nextPageToken made :=
  List.cons_eq_cons

/-- The queries of a window are determined by the pages it is answered with. -/
theorem successes_comparable {pages : Option String → HistoryPage}
    {token : Option String} {made others : List Success}
    (follow : TokensFollow token made) (followOthers : TokensFollow token others)
    (same : ∀ success ∈ made, success.scan.startMs = window.startMs ∧
      success.scan.endMs = window.endMs)
    (sameOthers : ∀ success ∈ others, success.scan.startMs = window.startMs ∧
      success.scan.endMs = window.endMs)
    (answered : ∀ success ∈ made ++ others,
      success.page = pages success.scan.pageToken) :
    Comparable made others := by
  induction made generalizing token others with
  | nil => exact Or.inl (List.nil_prefix)
  | cons success rest ih =>
      cases others with
      | nil => exact Or.inr (List.nil_prefix)
      | cons other more =>
          rcases tokensFollow_cons_iff.mp follow with ⟨asked, follows⟩
          rcases tokensFollow_cons_iff.mp followOthers with
            ⟨askedOther, followsOther⟩
          have page := answered success List.mem_cons_self
          have pageOther := answered other
            (List.mem_append_right _ List.mem_cons_self)
          have window := same success List.mem_cons_self
          have windowOther := sameOthers other List.mem_cons_self
          have equal : success = other := by
            rcases success with ⟨⟨start, stop, asked⟩, page⟩
            rcases other with ⟨⟨startOther, stopOther, askedOther⟩, pageOther⟩
            dsimp only at asked askedOther page pageOther window windowOther
            cases asked.trans askedOther.symm
            cases window.1.trans windowOther.1.symm
            cases window.2.trans windowOther.2.symm
            cases page.trans pageOther.symm
            rfl
          subst equal
          have rest : Comparable rest more := by
            apply ih follows followsOther
            · exact fun success member =>
                same success (List.mem_cons_of_mem _ member)
            · exact fun success member =>
                sameOthers success (List.mem_cons_of_mem _ member)
            · intro later member
              apply answered later
              rcases List.mem_append.mp member with mine | theirs
              · exact List.mem_cons_of_mem _ (List.mem_append_left _ mine)
              · exact List.mem_append_right _ (List.mem_cons_of_mem _ theirs)
          rcases rest with first | second
          · exact Or.inl (List.prefix_cons_inj _ |>.mpr first)
          · exact Or.inr (List.prefix_cons_inj _ |>.mpr second)

theorem Progress.delivered_isPrefix
    (progress : Progress window start actions view) {more : List Success}
    (begins : successes actions <+: more) :
    deliveredHistory actions <+: start.state.historyEvents ++
      more.flatMap fun success => success.page.events := by
  rcases begins with ⟨rest, rfl⟩
  rw [List.flatMap_append, ← List.append_assoc, ← progress.delivered,
    List.append_assoc]
  exact List.prefix_append _ _

/-- What is delivered is determined by the pages, too. -/
theorem deliveredHistory_comparable {others : List SessionAction}
    {reached : SessionView} (progress : Progress window start actions view)
    (progressOther : Progress window start others reached)
    (comparable : Comparable (successes actions) (successes others)) :
    Comparable (deliveredHistory actions) (deliveredHistory others) := by
  rcases comparable with first | second
  · exact List.prefix_or_prefix_of_prefix (progress.delivered_isPrefix first)
      (progressOther.delivered_isPrefix List.prefix_rfl)
  · exact List.prefix_or_prefix_of_prefix
      (progress.delivered_isPrefix List.prefix_rfl)
      (progressOther.delivered_isPrefix second)

/-! ## A failed query -/

/-- What a failed query leaves of the puller: the session waits, and the cursor
has moved on. -/
def afterFailure (puller : ProviderMessagePuller) (nowMs : Int) (index : Nat)
    (sessionId : String) (state : SessionPullState) : ProviderMessagePuller :=
  { puller with
    sessions := puller.sessions.set sessionId
      { state with
        nextHistoryAtMs := nowMs + puller.config.historyRetryDelayMs }
    sessionCursor := (index + 1) % puller.sessionOrder.length }

theorem queried_failed {environment : Environment service}
    {before after : environment.State} {puller : ProviderMessagePuller}
    {nowMs : Int} {scan : HistoryScan} {exc : PyError}
    {fetched : SessionPullState}
    (queried : Queried environment puller nowMs sessionId state before
      [⟨pageCall puller sessionId scan, .error exc⟩] fetched after) :
    fetched = { state with
      nextHistoryAtMs := nowMs + puller.config.historyRetryDelayMs } := by
  rcases queried.asked with ⟨⟨start, stop, token⟩, answer, _, -, same, -, -,
    received⟩
  rcases scan with ⟨startAsked, stopAsked, tokenAsked⟩
  cases received with
  | failed => rfl
  | page => cases same

/-- A failed query returns no event and leaves everything else as it was. -/
theorem serveSession_failed {environment : Environment service}
    {before after : environment.State} {puller reached : ProviderMessagePuller}
    {nowMs : Int} {index : Nat} {scan : HistoryScan} {exc : PyError}
    {taken : Option ProviderEvent}
    (transcript : Transcript environment before
      (puller.serveSession nowMs index sessionId state)
      [⟨pageCall puller sessionId scan, .error exc⟩] after
      (.ok (taken, reached))) :
    taken = none ∧
      reached = afterFailure puller nowMs index sessionId state := by
  generalize made : [(⟨pageCall puller sessionId scan, .error exc⟩ :
    Exchanged service)] = exchanges at transcript
  cases served_of_transcript transcript with
  | busy => cases made
  | queued => cases made
  | live => cases made
  | nothing => cases made
  | queriedEvent queried received =>
      subst made
      rw [queried_failed queried] at received
      have empty := queried.due.empty
      rw [empty] at received
      cases received
  | queriedLive queried received delivered =>
      subst made
      rw [queried_failed queried, deliverLive] at delivered
      have scanning := queried.due.scanning
      rw [if_neg (by
        intro absent
        rw [absent] at scanning
        cases scanning)] at delivered
      cases delivered
  | queriedNothing queried =>
      subst made
      rw [queried_failed queried]
      exact ⟨rfl, rfl⟩

/-! ## Every run of the puller -/

/-- The session is at the beginning of a window: it has just been started, or
handed off after a reconnect. -/
inductive BeginsWindow : List SessionAction → Prop where
  | started : BeginsWindow []
  | reconnected {earlier : List SessionAction} {scan : HistoryScan} :
      BeginsWindow (earlier ++ [.schedules scan])

/-- What holds of a segment between two reconnects, from the beginning of its
window. -/
structure FailuresInvisible (config : ProviderSyncConfig)
    (provider sessionId : String) (before : SessionView)
    (segment : List SessionAction) (after : SessionView) : Prop where
  reads : ∃ window, before.state.historyScan = some window ∧
    window.pageToken = none ∧ Progress window before segment after
  cleared : after.state.historyScan = none ↔ ∃ success,
    (successes segment).getLast? = some success ∧
      success.page.nextPageToken = none
  /-- The same run without its failures. -/
  erased : ∃ sooner, SessionPath config provider sessionId before
    (withoutFailures segment) (withDelay after sooner)
  sameSuccesses : successes (withoutFailures segment) = successes segment
  sameHistory : deliveredHistory (withoutFailures segment) =
    deliveredHistory segment
  /-- Another run from the same moment, with other failures or none, whose
  queries are answered with the same pages. -/
  repeated : ∀ (others : List SessionAction) (reached : SessionView)
    (pages : Option String → HistoryPage),
    SessionPath config provider sessionId before others reached →
      (∀ action ∈ others, SessionAction.scheduled? action = none) →
      (∀ success ∈ successes segment ++ successes others,
        success.page = pages success.scan.pageToken) →
      Comparable (successes segment) (successes others) ∧
        Comparable (deliveredHistory segment) (deliveredHistory others)

/-- A failed query changes the delay of its session and the session cursor, and
returns no event. -/
def FailuresLocal (environment : Environment service) : Prop :=
  ∀ (before after : environment.State) (puller reached : ProviderMessagePuller)
    (nowMs : Int) (index : Nat) (sessionId : String) (state : SessionPullState)
    (scan : HistoryScan) (exc : PyError) (taken : Option ProviderEvent),
    Transcript environment before
        (puller.serveSession nowMs index sessionId state)
        [⟨pageCall puller sessionId scan, .error exc⟩] after
        (.ok (taken, reached)) →
      taken = none ∧
        reached = afterFailure puller nowMs index sessionId state

/-- A window begins with its first page. -/
theorem beginsWindow_scan (view : SessionView) {startedMs : Int}
    {confirmedMs : Option Int} (begins : BeginsWindow actions)
    (path : SessionPath config provider sessionId
      (startedView provider config startedMs confirmedMs) actions view) :
    ∃ window, view.state.historyScan = some window ∧
      window.pageToken = none := by
  cases begins with
  | started =>
      cases path_nil_iff.mp path
      exact ⟨_, rfl, rfl⟩
  | reconnected =>
      rcases path_concat_iff.mp path with ⟨middle, -, step⟩
      cases step with
      | schedules => exact ⟨_, rfl, rfl⟩

theorem scanAfter_eq_none_iff :
    scanAfter window made = none ↔ ∃ success,
      made.getLast? = some success ∧ success.page.nextPageToken = none := by
  rw [scanAfter]
  cases last : made.getLast? with
  | none => simp
  | some success => simp

theorem failuresInvisible_of_path {segment : List SessionAction}
    (scanning : start.state.historyScan = some window)
    (first : window.pageToken = none)
    (path : SessionPath config provider sessionId start segment view)
    (kept : ∀ action ∈ segment, SessionAction.scheduled? action = none) :
    FailuresInvisible config provider sessionId start segment view := by
  have progress := progress_of_path scanning path kept
  rcases path_withoutFailures path with ⟨sooner, erased, -⟩
  refine ⟨⟨window, scanning, first, progress⟩, ?_, ⟨sooner, erased⟩, ?_, ?_, ?_⟩
  · rw [progress.reads.scan]
    exact scanAfter_eq_none_iff
  · apply filterMap_withoutFailures
    intro action failure
    cases action with
    | fails => rfl
    | _ => cases failure
  · apply filterMap_withoutFailures
    intro action failure
    cases action with
    | fails => rfl
    | _ => cases failure
  · intro others reached pages rerun keptOthers answered
    have progressOther := progress_of_path scanning rerun keptOthers
    have comparable := successes_comparable progress.reads.tokens
      progressOther.reads.tokens progress.reads.same progressOther.reads.same
      answered
    exact ⟨comparable, deliveredHistory_comparable progress progressOther
      comparable⟩

/--
Transient history failures are invisible, for whatever the adapter answers.
Between two reconnects a session asks for the pages of one window one after the
other and delivers their events in order, as it does without the failures.
-/
theorem historyFailures_invisible {environment : Environment service}
    {highwater : Dict String (Option Int)} {startedMs : Int} {seen : Seen}
    {puller : ProviderMessagePuller} {now : environment.State}
    (run : PullerRun environment provider config highwater startedMs seen puller
      now) {confirmedMs : Option Int}
    (known : highwater.get? sessionId = some confirmedMs) :
    (∃ actions state, Follows provider config sessionId startedMs confirmedMs
        seen puller actions state ∧
      ∀ earlier segment later, actions = earlier ++ (segment ++ later) →
        BeginsWindow earlier →
        (∀ action ∈ segment, SessionAction.scheduled? action = none) →
        ∃ before after,
          SessionPath config provider sessionId
            (startedView provider config startedMs confirmedMs) earlier
            before ∧
          SessionPath config provider sessionId before segment after ∧
          FailuresInvisible config provider sessionId before segment after) ∧
      FailuresLocal environment := by
  constructor
  · rcases run.invariant.follows sessionId confirmedMs known with
      ⟨actions, state, follows⟩
    refine ⟨actions, state, follows, ?_⟩
    intro earlier segment later split begins kept
    have path := follows.path
    rw [split] at path
    rcases path_append_iff.mp path with ⟨before, first, rest⟩
    rcases path_append_iff.mp rest with ⟨after, middle, -⟩
    rcases beginsWindow_scan before begins first with
      ⟨window, scanning, fresh⟩
    exact ⟨before, after, first, middle,
      failuresInvisible_of_path scanning fresh middle kept⟩
  · intro before after puller reached nowMs index sessionId state scan exc taken
      transcript
    exact serveSession_failed transcript

/-- A query that fails once, between a reconnect and its page. -/
theorem historyFailures_invisible_sample :
    (∃ actions state, Follows "lark" sampleConfig "oc1" 200 none sampleSeen
        acknowledgedPuller actions state ∧
      ∀ earlier segment later, actions = earlier ++ (segment ++ later) →
        BeginsWindow earlier →
        (∀ action ∈ segment, SessionAction.scheduled? action = none) →
        ∃ before after,
          SessionPath sampleConfig "lark" "oc1"
            (startedView "lark" sampleConfig 200 none) earlier before ∧
          SessionPath sampleConfig "lark" "oc1" before segment after ∧
          FailuresInvisible sampleConfig "lark" "oc1" before segment after) ∧
      FailuresLocal arbitraryAdapter :=
  historyFailures_invisible pullerRun_sample rfl

end OpenEventIm.Syncer.HistoryFailures
