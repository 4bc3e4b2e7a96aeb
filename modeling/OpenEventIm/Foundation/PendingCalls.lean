import OpenEventIm.Foundation.Interaction

/-!
# The call that comes next

`Issues` is an execution up to the moment at which the program makes a call.  A
specification that says under which circumstances a call is made is stated about
it; the rules below take such an execution apart along the structure of the
program.
-/

namespace OpenEventIm.Foundation.PendingCalls

open OpenEventIm.Foundation.Interaction

variable {signature : Signature} {Failure Result Next : Type}
  {environment : Environment signature}

/-- An execution that is about to make a call, whether or not it is answered. -/
inductive Issues (environment : Environment signature) :
    environment.State → Program signature Failure Result →
      environment.State → signature.Call → Prop where
  | now {before ready request}
      {next : signature.Answer request → Program signature Failure Result}
      (evolves : environment.Evolves before ready) :
      Issues environment before (.call request next) ready request
  | later {before ready answered after request answer issued}
      {next : signature.Answer request → Program signature Failure Result}
      (evolves : environment.Evolves before ready)
      (answers : environment.Answers ready request answer answered)
      (rest : Issues environment answered (next answer) after issued) :
      Issues environment before (.call request next) after issued

variable {before ready : environment.State} {issued : signature.Call}

/-- The moment of a call is one at which the execution can be cut off. -/
theorem Issues.visits {program : Program signature Failure Result}
    (issues : Issues environment before program ready issued) :
    Visits environment before program ready := by
  induction issues with
  | now evolves => exact .waiting evolves
  | later evolves answers _ ih => exact .call evolves answers ih

theorem not_issues_ret {result : Result} :
    ¬Issues environment before
      (.ret result : Program signature Failure Result) ready issued := by
  intro issues
  cases issues

theorem not_issues_fail {failure : Failure} :
    ¬Issues environment before
      (.fail failure : Program signature Failure Result) ready issued := by
  intro issues
  cases issues

theorem issues_call {request : signature.Call}
    {next : signature.Answer request → Program signature Failure Result}
    (issues : Issues environment before (.call request next) ready issued) :
    (issued = request ∧ environment.Evolves before ready) ∨
      ∃ asked answer answered, environment.Evolves before asked ∧
        environment.Answers asked request answer answered ∧
          Issues environment answered (next answer) ready issued := by
  cases issues with
  | now evolves => exact Or.inl ⟨rfl, evolves⟩
  | later evolves answers rest =>
      exact Or.inr ⟨_, _, _, evolves, answers, rest⟩

/-- Only calls of the program are made. -/
theorem issues_calls {allowed : signature.Call → Prop}
    {program : Program signature Failure Result}
    (issues : Issues environment before program ready issued)
    (calls : program.Calls allowed) : allowed issued := by
  induction issues with
  | now => exact calls.1
  | later _ _ _ ih => exact ih (calls.2 _)

theorem issues_bind {program : Program signature Failure Result}
    {continuation : Result → Program signature Failure Next}
    (issues : Issues environment before (program >>= continuation) ready
      issued) :
    Issues environment before program ready issued ∨
      ∃ middle result, Runs environment before program middle (.ok result) ∧
        Issues environment middle (continuation result) ready issued := by
  induction program generalizing before with
  | ret result => exact Or.inr ⟨before, result, .ret, issues⟩
  | fail failure => exact absurd issues not_issues_fail
  | call request next ih =>
      rcases issues_call issues with ⟨rfl, evolves⟩ |
        ⟨asked, answer, answered, evolves, answers, rest⟩
      · exact Or.inl (.now evolves)
      · rcases ih answer rest with first | ⟨middle, result, run, last⟩
        · exact Or.inl (.later evolves answers first)
        · exact Or.inr ⟨middle, result, .call evolves answers run, last⟩

theorem issues_handle {program : Program signature Failure Result}
    {handler : Failure → Program signature Failure Result}
    (issues : Issues environment before (program.handle handler) ready
      issued) :
    Issues environment before program ready issued ∨
      ∃ middle failure,
        Runs environment before program middle (.error failure) ∧
          Issues environment middle (handler failure) ready issued := by
  induction program generalizing before with
  | ret result => exact Or.inl issues
  | fail failure => exact Or.inr ⟨before, failure, .fail, issues⟩
  | call request next ih =>
      rcases issues_call issues with ⟨rfl, evolves⟩ |
        ⟨asked, answer, answered, evolves, answers, rest⟩
      · exact Or.inl (.now evolves)
      · rcases ih answer rest with first | ⟨middle, failure, run, last⟩
        · exact Or.inl (.later evolves answers first)
        · exact Or.inr ⟨middle, failure, .call evolves answers run, last⟩

theorem Issues.bind {program : Program signature Failure Result}
    {continuation : Result → Program signature Failure Next}
    (issues : Issues environment before program ready issued) :
    Issues environment before (program >>= continuation) ready issued := by
  induction issues with
  | now evolves => exact .now evolves
  | later evolves answers _ ih => exact .later evolves answers ih

theorem Issues.handle {program : Program signature Failure Result}
    {handler : Failure → Program signature Failure Result}
    (issues : Issues environment before program ready issued) :
    Issues environment before (program.handle handler) ready issued := by
  induction issues with
  | now evolves => exact .now evolves
  | later evolves answers _ ih => exact .later evolves answers ih

/-- A call that is made behind a completed part of the program. -/
theorem Issues.after {program : Program signature Failure Result}
    {continuation : Result → Program signature Failure Next}
    {middle : environment.State} {result : Result}
    (run : Runs environment before program middle (.ok result))
    (issues : Issues environment middle (continuation result) ready issued) :
    Issues environment before (program >>= continuation) ready issued := by
  generalize reachedEq : (Except.ok result : Except Failure Result) = reached
    at run
  induction run with
  | ret =>
      cases reachedEq
      exact issues
  | fail => cases reachedEq
  | call evolves answers _ ih => exact .later evolves answers (ih issues reachedEq)

/-- What the others and the calls that are made keep holds wherever the
execution is cut off. -/
theorem visits_induct {assertion : environment.State → Prop}
    {program : Program signature Failure Result} {after : environment.State}
    (visits : Visits environment before program after)
    (stable : environment.Stable assertion)
    (kept : ∀ ready request answer answered,
      Issues environment before program ready request →
        environment.Answers ready request answer answered →
          assertion ready → assertion answered)
    (holds : assertion before) : assertion after := by
  induction visits with
  | here => exact holds
  | waiting evolves => exact stable.evolves evolves holds
  | call evolves answers rest ih =>
      apply ih
      · intro ready request answer answered issues
        exact kept ready request answer answered
          (.later evolves answers issues)
      · exact kept _ _ _ _ (.now evolves) answers
          (stable.evolves evolves holds)

/-- What a safe program returns is also what it returns in an execution. -/
theorem safe_runs {invariant : environment.State → Prop}
    {returns : Result → environment.State → Prop}
    {fails : Failure → environment.State → Prop}
    {program : Program signature Failure Result} {state : environment.State}
    (safe : Safe environment invariant returns fails program state) :
    Safe environment invariant
      (fun result after => returns result after ∧
        Runs environment state program after (.ok result))
      fails program state := by
  induction program generalizing state with
  | ret result => exact ⟨safe.1, safe.2, .ret⟩
  | fail failure => exact safe
  | call request next ih =>
      refine ⟨safe.1, fun ready evolves => ?_⟩
      refine ⟨(safe.2 ready evolves).1, fun answer answered answers => ?_⟩
      exact (ih answer ((safe.2 ready evolves).2 answer answered answers)).mono
        (fun _ _ _ both => ⟨both.1, .call evolves answers both.2⟩)
        (fun _ _ _ fails => fails)

/-- A program whose failures are replaced by others. -/
theorem safe_rethrow {invariant : environment.State → Prop}
    {returns : Result → environment.State → Prop}
    {fails : Failure → environment.State → Prop}
    {program : Program signature Failure Result} {state : environment.State}
    (safe : Safe environment invariant returns fails program state)
    (raised : Failure → Failure) :
    Safe environment invariant returns (fun _ _ => True)
      (program.handle fun failure => .fail (raised failure)) state := by
  apply safe.handle
  intro failure after holds _
  exact ⟨holds, trivial⟩

/-! ## Guarded calls -/

/-- Every call is permitted in the state in which it is made. -/
def Guarded (environment : Environment signature)
    (permitted : environment.State → signature.Call → Prop)
    (program : Program signature Failure Result)
    (state : environment.State) : Prop :=
  ∀ ready request, Issues environment state program ready request →
    permitted ready request

section Guards

variable {permitted : environment.State → signature.Call → Prop}
  {program : Program signature Failure Result} {state : environment.State}

theorem guarded_ret {result : Result} : Guarded environment permitted
    (.ret result : Program signature Failure Result) state :=
  fun _ _ issues => absurd issues not_issues_ret

theorem guarded_fail {failure : Failure} : Guarded environment permitted
    (.fail failure : Program signature Failure Result) state :=
  fun _ _ issues => absurd issues not_issues_fail

/-- Calls that are permitted everywhere need no guard. -/
theorem guarded_calls {allowed : signature.Call → Prop}
    (calls : program.Calls allowed)
    (everywhere : ∀ state request, allowed request →
      permitted state request) :
    Guarded environment permitted program state :=
  fun ready request issues => everywhere ready request
    (issues_calls issues calls)

/-- A call that is permitted under a stable assertion. -/
theorem guarded_call {assertion : environment.State → Prop}
    {request : signature.Call}
    {next : signature.Answer request → Program signature Failure Result}
    (stable : environment.Stable assertion) (holds : assertion state)
    (permits : ∀ ready, assertion ready → permitted ready request)
    (rest : ∀ ready answer answered, assertion ready →
      environment.Answers ready request answer answered →
        Guarded environment permitted (next answer) answered) :
    Guarded environment permitted (.call request next) state := by
  intro ready issued issues
  rcases issues_call issues with ⟨rfl, evolves⟩ |
    ⟨asked, answer, answered, evolves, answers, later⟩
  · exact permits ready (stable.evolves evolves holds)
  · exact rest asked answer answered (stable.evolves evolves holds) answers
      ready issued later

/-- Calls that are permitted under an assertion that they do not destroy. -/
theorem guarded_kept {assertion : environment.State → Prop}
    {allowed : signature.Call → Prop} (stable : environment.Stable assertion)
    (preserved : ∀ before request answer after, allowed request →
      environment.Answers before request answer after →
        assertion before → assertion after)
    (permits : ∀ state request, allowed request → assertion state →
      permitted state request)
    (calls : program.Calls allowed) (holds : assertion state) :
    Guarded environment permitted program state := by
  induction program generalizing state with
  | ret => exact guarded_ret
  | fail => exact guarded_fail
  | call request next ih =>
      refine guarded_call stable holds (fun ready isHeld =>
        permits ready request calls.1 isHeld) ?_
      intro ready answer answered isHeld answers
      exact ih answer (calls.2 answer)
        (preserved ready request answer answered calls.1 answers isHeld)

variable {invariant : environment.State → Prop}
  {returns : Result → environment.State → Prop}
  {fails : Failure → environment.State → Prop}

theorem Guarded.bind {continuation : Result → Program signature Failure Next}
    (first : Guarded environment permitted program state)
    (safe : Safe environment invariant returns fails program state)
    (rest : ∀ result after, invariant after → returns result after →
      Guarded environment permitted (continuation result) after) :
    Guarded environment permitted (program >>= continuation) state := by
  intro ready request issues
  rcases issues_bind issues with early | ⟨middle, result, run, late⟩
  · exact first ready request early
  · have reached := safe.runs_ok run
    exact rest result middle reached.1 reached.2 ready request late

theorem Guarded.handle {handler : Failure → Program signature Failure Result}
    (first : Guarded environment permitted program state)
    (safe : Safe environment invariant returns fails program state)
    (recover : ∀ failure after, invariant after → fails failure after →
      Guarded environment permitted (handler failure) after) :
    Guarded environment permitted (program.handle handler) state := by
  intro ready request issues
  rcases issues_handle issues with early | ⟨middle, failure, run, late⟩
  · exact first ready request early
  · have reached := safe.runs_error run
    exact recover failure middle reached.1 reached.2 ready request late

end Guards

end OpenEventIm.Foundation.PendingCalls
