import Mathlib.Logic.Relation

/-!
# Interactive programs and their environments

A program that talks to the outside world is represented by the tree of its
calls: it returns, fails, or makes one call and goes on with the answer.  An
environment says which answers a call can get and what can happen behind the
program's back between two calls.

`Runs` is the complete execution of a program in an environment, `Visits` the
execution cut off at an arbitrary point (a crash).  `Safe` is a weakest
precondition with an invariant: the invariant holds whenever the program can be
cut off, and the two postconditions hold when it returns or fails.  The
soundness theorems connect it with both executions, so one symbolic execution
of a program answers for its completed runs and for its crashes.
-/

namespace OpenEventIm.Foundation.Interaction

/-- The calls a program may make and the answers each of them expects. -/
structure Signature where
  Call : Type
  Answer : Call → Type

/-- A program that returns a `Result`, fails with a `Failure`, or calls out. -/
inductive Program (signature : Signature) (Failure Result : Type) where
  | ret (result : Result)
  | fail (failure : Failure)
  | call (request : signature.Call)
      (next : signature.Answer request → Program signature Failure Result)

variable {signature : Signature} {Failure Result Next : Type}

namespace Program

/-- Sequential composition: a failure skips the continuation. -/
def bind :
    Program signature Failure Result →
      (Result → Program signature Failure Next) →
        Program signature Failure Next
  | .ret result, continuation => continuation result
  | .fail failure, _ => .fail failure
  | .call request next, continuation =>
      .call request fun answer => (next answer).bind continuation

/-- Run a handler when the program fails. -/
def handle :
    Program signature Failure Result →
      (Failure → Program signature Failure Result) →
        Program signature Failure Result
  | .ret result, _ => .ret result
  | .fail failure, handler => handler failure
  | .call request next, handler =>
      .call request fun answer => (next answer).handle handler

/-- A single call, returning its answer. -/
def perform (request : signature.Call) :
    Program signature Failure (signature.Answer request) :=
  .call request .ret

instance : Monad (Program signature Failure) where
  pure := .ret
  bind := bind

instance : MonadExcept Failure (Program signature Failure) where
  throw := .fail
  tryCatch := handle

@[simp]
theorem pure_eq_ret (result : Result) :
    (pure result : Program signature Failure Result) = .ret result := rfl

@[simp]
theorem throw_eq_fail (failure : Failure) :
    (throw failure : Program signature Failure Result) = .fail failure := rfl

@[simp]
theorem ret_bind (result : Result)
    (continuation : Result → Program signature Failure Next) :
    ((.ret result : Program signature Failure Result) >>= continuation) =
      continuation result := rfl

@[simp]
theorem fail_bind (failure : Failure)
    (continuation : Result → Program signature Failure Next) :
    ((.fail failure : Program signature Failure Result) >>= continuation) =
      .fail failure := rfl

@[simp]
theorem call_bind (request : signature.Call)
    (next : signature.Answer request → Program signature Failure Result)
    (continuation : Result → Program signature Failure Next) :
    (.call request next >>= continuation) =
      .call request fun answer => next answer >>= continuation := rfl

@[simp]
theorem perform_bind (request : signature.Call)
    (continuation :
      signature.Answer request → Program signature Failure Next) :
    (perform request >>= continuation) = .call request continuation := rfl

@[simp]
theorem bind_eq (program : Program signature Failure Result)
    (continuation : Result → Program signature Failure Next) :
    program.bind continuation = program >>= continuation := rfl

@[simp]
theorem handle_ret (result : Result)
    (handler : Failure → Program signature Failure Result) :
    (Program.ret result).handle handler = .ret result := rfl

@[simp]
theorem handle_fail (failure : Failure)
    (handler : Failure → Program signature Failure Result) :
    (Program.fail failure).handle handler = handler failure := rfl

@[simp]
theorem tryCatch_eq_handle (program : Program signature Failure Result)
    (handler : Failure → Program signature Failure Result) :
    tryCatch program handler = program.handle handler := rfl

theorem bind_ret (program : Program signature Failure Result) :
    (program >>= Program.ret) = program := by
  induction program with
  | ret result => rfl
  | fail failure => rfl
  | call request next ih =>
      simp only [call_bind]
      exact congrArg (Program.call request) (funext ih)

theorem bind_bind {Last : Type}
    (program : Program signature Failure Result)
    (first : Result → Program signature Failure Next)
    (second : Next → Program signature Failure Last) :
    (program >>= first >>= second) =
      program >>= fun result => first result >>= second := by
  induction program with
  | ret result => rfl
  | fail failure => rfl
  | call request next ih =>
      simp only [call_bind]
      exact congrArg (Program.call request) (funext ih)

instance : LawfulMonad (Program signature Failure) :=
  LawfulMonad.mk' _ bind_ret (fun _ _ => rfl) bind_bind

/-- Every call the program can ever make satisfies `allowed`. -/
def Calls (allowed : signature.Call → Prop) :
    Program signature Failure Result → Prop
  | .ret _ => True
  | .fail _ => True
  | .call request next =>
      allowed request ∧ ∀ answer, (next answer).Calls allowed

theorem Calls.bind {allowed : signature.Call → Prop}
    {program : Program signature Failure Result}
    {continuation : Result → Program signature Failure Next}
    (first : program.Calls allowed)
    (rest : ∀ result, (continuation result).Calls allowed) :
    (program >>= continuation).Calls allowed := by
  induction program with
  | ret result => exact rest result
  | fail failure => exact True.intro
  | call request next ih =>
      exact ⟨first.1, fun answer => ih answer (first.2 answer)⟩

/-- Whatever the calls answer, a result that is returned has the property. -/
def Yields (property : Result → Prop) :
    Program signature Failure Result → Prop
  | .ret result => property result
  | .fail _ => True
  | .call _ next => ∀ answer, (next answer).Yields property

theorem Yields.mono {property weaker : Result → Prop}
    {program : Program signature Failure Result}
    (yields : program.Yields property)
    (implies : ∀ result, property result → weaker result) :
    program.Yields weaker := by
  induction program with
  | ret result => exact implies result yields
  | fail failure => exact True.intro
  | call request next ih => exact fun answer => ih answer (yields answer)

theorem Yields.bind {property : Result → Prop} {final : Next → Prop}
    {program : Program signature Failure Result}
    {continuation : Result → Program signature Failure Next}
    (yields : program.Yields property)
    (rest : ∀ result, property result → (continuation result).Yields final) :
    (program >>= continuation).Yields final := by
  induction program with
  | ret result => exact rest result yields
  | fail failure => exact True.intro
  | call request next ih => exact fun answer => ih answer (yields answer)

theorem Yields.handle {property : Result → Prop}
    {program : Program signature Failure Result}
    {handler : Failure → Program signature Failure Result}
    (yields : program.Yields property)
    (recover : ∀ failure, (handler failure).Yields property) :
    (program.handle handler).Yields property := by
  induction program with
  | ret result => exact yields
  | fail failure => exact recover failure
  | call request next ih => exact fun answer => ih answer (yields answer)

end Program

/--
An environment: the answers a call may get, and the steps others may take
between two calls of the program.
-/
structure Environment (signature : Signature) where
  State : Type
  Interferes : State → State → Prop
  Answers : State → (request : signature.Call) →
    signature.Answer request → State → Prop

variable {environment : Environment signature}

/-- Any number of steps of the others. -/
def Environment.Evolves (environment : Environment signature) :
    environment.State → environment.State → Prop :=
  Relation.ReflTransGen environment.Interferes

/-- A property no step of the others destroys. -/
def Environment.Stable (environment : Environment signature)
    (property : environment.State → Prop) : Prop :=
  ∀ before after, environment.Interferes before after →
    property before → property after

theorem Environment.Stable.evolves
    {property : environment.State → Prop}
    (stable : environment.Stable property)
    {before after : environment.State}
    (evolves : environment.Evolves before after)
    (holds : property before) : property after := by
  induction evolves with
  | refl => exact holds
  | tail _ step ih => exact stable _ _ step ih

/-- A complete execution: others may act before each call. -/
inductive Runs (environment : Environment signature) :
    environment.State → Program signature Failure Result →
      environment.State → Except Failure Result → Prop where
  | ret {state} {result : Result} :
      Runs environment state (.ret result) state (.ok result)
  | fail {state} {failure : Failure} :
      Runs environment state (.fail failure) state (.error failure)
  | call {before ready answered after request answer next outcome}
      (evolves : environment.Evolves before ready)
      (answers : environment.Answers ready request answer answered)
      (rest : Runs environment answered (next answer) after outcome) :
      Runs environment before (.call request next) after outcome

/-- An execution cut off at an arbitrary point. -/
inductive Visits (environment : Environment signature) :
    environment.State → Program signature Failure Result →
      environment.State → Prop where
  | here {state} {program : Program signature Failure Result} :
      Visits environment state program state
  | waiting {before ready request}
      {next : signature.Answer request → Program signature Failure Result}
      (evolves : environment.Evolves before ready) :
      Visits environment before (.call request next) ready
  | call {before ready answered after request answer}
      {next : signature.Answer request → Program signature Failure Result}
      (evolves : environment.Evolves before ready)
      (answers : environment.Answers ready request answer answered)
      (rest : Visits environment answered (next answer) after) :
      Visits environment before (.call request next) after

/--
Weakest precondition with an invariant.  Between two calls the others may take
the environment anywhere, so each call is examined in every state they can
reach.
-/
def Safe (environment : Environment signature)
    (invariant : environment.State → Prop)
    (returns : Result → environment.State → Prop)
    (fails : Failure → environment.State → Prop) :
    Program signature Failure Result → environment.State → Prop
  | .ret result, state => invariant state ∧ returns result state
  | .fail failure, state => invariant state ∧ fails failure state
  | .call request next, state =>
      invariant state ∧
        ∀ ready, environment.Evolves state ready →
          invariant ready ∧
            ∀ answer answered,
              environment.Answers ready request answer answered →
                Safe environment invariant returns fails
                  (next answer) answered

section Rules

variable {invariant : environment.State → Prop}
  {returns : Result → environment.State → Prop}
  {fails : Failure → environment.State → Prop}
  {program : Program signature Failure Result}
  {state after : environment.State}

theorem safe_call {request : signature.Call}
    {next : signature.Answer request → Program signature Failure Result} :
    Safe environment invariant returns fails (.call request next) state ↔
      invariant state ∧
        ∀ ready, environment.Evolves state ready →
          invariant ready ∧
            ∀ answer answered,
              environment.Answers ready request answer answered →
                Safe environment invariant returns fails
                  (next answer) answered := Iff.rfl

theorem Safe.invariant_here
    (safe : Safe environment invariant returns fails program state) :
    invariant state := by
  cases program with
  | ret result => exact safe.1
  | fail failure => exact safe.1
  | call request next => exact safe.1

/--
The rule for one call: a stable assertion that holds before it also holds when
the call is made.
-/
theorem Safe.call {assertion : environment.State → Prop}
    {request : signature.Call}
    {next : signature.Answer request → Program signature Failure Result}
    (stable : environment.Stable assertion)
    (sound : ∀ state, assertion state → invariant state)
    (holds : assertion state)
    (step : ∀ ready answer answered, assertion ready →
      environment.Answers ready request answer answered →
        Safe environment invariant returns fails (next answer) answered) :
    Safe environment invariant returns fails (.call request next) state := by
  refine ⟨sound state holds, fun ready evolves => ?_⟩
  have readyHolds := stable.evolves evolves holds
  exact ⟨sound ready readyHolds, fun answer answered answers =>
    step ready answer answered readyHolds answers⟩

/-- The rule for a call whose answer is processed before the rest. -/
theorem Safe.callBind {assertion : environment.State → Prop}
    {request : signature.Call}
    {next : signature.Answer request → Program signature Failure Result}
    {continuation : Result → Program signature Failure Next}
    {returns : Next → environment.State → Prop}
    (stable : environment.Stable assertion)
    (sound : ∀ state, assertion state → invariant state)
    (holds : assertion state)
    (step : ∀ ready answer answered, assertion ready →
      environment.Answers ready request answer answered →
        Safe environment invariant returns fails
          (next answer >>= continuation) answered) :
    Safe environment invariant returns fails
      (.call request next >>= continuation) state :=
  Safe.call stable sound holds step

theorem Safe.mono
    {returns' : Result → environment.State → Prop}
    {fails' : Failure → environment.State → Prop}
    (safe : Safe environment invariant returns fails program state)
    (onReturn : ∀ result state,
      invariant state → returns result state → returns' result state)
    (onFail : ∀ failure state,
      invariant state → fails failure state → fails' failure state) :
    Safe environment invariant returns' fails' program state := by
  induction program generalizing state with
  | ret result => exact ⟨safe.1, onReturn _ _ safe.1 safe.2⟩
  | fail failure => exact ⟨safe.1, onFail _ _ safe.1 safe.2⟩
  | call request next ih =>
      refine ⟨safe.1, fun ready evolves => ?_⟩
      obtain ⟨readyHolds, step⟩ := safe.2 ready evolves
      exact ⟨readyHolds, fun answer answered answers =>
        ih answer (step answer answered answers)⟩

/-- What results have whatever the calls answer. -/
theorem Safe.yields {property : Result → Prop}
    (safe : Safe environment invariant returns fails program state)
    (yields : program.Yields property) :
    Safe environment invariant
      (fun result state => returns result state ∧ property result) fails
      program state := by
  induction program generalizing state with
  | ret result => exact ⟨safe.1, safe.2, yields⟩
  | fail failure => exact safe
  | call request next ih =>
      refine ⟨safe.1, fun ready evolves => ?_⟩
      obtain ⟨readyHolds, step⟩ := safe.2 ready evolves
      exact ⟨readyHolds, fun answer answered answers =>
        ih answer (step answer answered answers) (yields answer)⟩

/-- Change the invariant of a program along an implication. -/
theorem Safe.weaken
    {invariant' : environment.State → Prop}
    (safe : Safe environment invariant returns fails program state)
    (weaker : ∀ state, invariant state → invariant' state) :
    Safe environment invariant' returns fails program state := by
  induction program generalizing state with
  | ret result => exact ⟨weaker _ safe.1, safe.2⟩
  | fail failure => exact ⟨weaker _ safe.1, safe.2⟩
  | call request next ih =>
      refine ⟨weaker _ safe.1, fun ready evolves => ?_⟩
      obtain ⟨readyHolds, step⟩ := safe.2 ready evolves
      exact ⟨weaker _ readyHolds, fun answer answered answers =>
        ih answer (step answer answered answers)⟩

theorem Safe.bind
    {continuation : Result → Program signature Failure Next}
    {returns' : Next → environment.State → Prop}
    {fails' : Failure → environment.State → Prop}
    (safe : Safe environment invariant returns fails' program state)
    (rest : ∀ result state, invariant state → returns result state →
      Safe environment invariant returns' fails' (continuation result) state) :
    Safe environment invariant returns' fails'
      (program >>= continuation) state := by
  induction program generalizing state with
  | ret result => exact rest _ _ safe.1 safe.2
  | fail failure => exact safe
  | call request next ih =>
      refine ⟨safe.1, fun ready evolves => ?_⟩
      obtain ⟨readyHolds, step⟩ := safe.2 ready evolves
      exact ⟨readyHolds, fun answer answered answers =>
        ih answer (step answer answered answers)⟩

theorem Safe.handle
    {handler : Failure → Program signature Failure Result}
    {fails' : Failure → environment.State → Prop}
    (safe : Safe environment invariant returns fails program state)
    (recover : ∀ failure state, invariant state → fails failure state →
      Safe environment invariant returns fails' (handler failure) state) :
    Safe environment invariant returns fails' (program.handle handler) state := by
  induction program generalizing state with
  | ret result => exact safe
  | fail failure => exact recover _ _ safe.1 safe.2
  | call request next ih =>
      refine ⟨safe.1, fun ready evolves => ?_⟩
      obtain ⟨readyHolds, step⟩ := safe.2 ready evolves
      exact ⟨readyHolds, fun answer answered answers =>
        ih answer (step answer answered answers)⟩

/-- Two specifications of one program over one invariant hold together. -/
theorem Safe.and
    {returns' : Result → environment.State → Prop}
    {fails' : Failure → environment.State → Prop}
    (left : Safe environment invariant returns fails program state)
    (right : Safe environment invariant returns' fails' program state) :
    Safe environment invariant
      (fun result state => returns result state ∧ returns' result state)
      (fun failure state => fails failure state ∧ fails' failure state)
      program state := by
  induction program generalizing state with
  | ret result => exact ⟨left.1, left.2, right.2⟩
  | fail failure => exact ⟨left.1, left.2, right.2⟩
  | call request next ih =>
      refine ⟨left.1, fun ready evolves => ?_⟩
      obtain ⟨readyHolds, leftStep⟩ := left.2 ready evolves
      exact ⟨readyHolds, fun answer answered answers =>
        ih answer (leftStep answer answered answers)
          ((right.2 ready evolves).2 answer answered answers)⟩

/--
A program all of whose calls preserve a stable assertion keeps it throughout.
-/
theorem Safe.ofCalls {assertion : environment.State → Prop}
    {allowed : signature.Call → Prop}
    (stable : environment.Stable assertion)
    (sound : ∀ state, assertion state → invariant state)
    (preserved : ∀ before request answer answered, allowed request →
      environment.Answers before request answer answered →
        assertion before → assertion answered)
    (calls : program.Calls allowed)
    (holds : assertion state) :
    Safe environment invariant (fun _ => assertion) (fun _ => assertion)
      program state := by
  induction program generalizing state with
  | ret result => exact ⟨sound state holds, holds⟩
  | fail failure => exact ⟨sound state holds, holds⟩
  | call request next ih =>
      apply Safe.call stable sound holds
      intro ready answer answered readyHolds answers
      exact ih answer (calls.2 answer)
        (preserved _ _ _ _ calls.1 answers readyHolds)

/-- Nothing is claimed about the program. -/
theorem safe_true (program : Program signature Failure Result)
    (state : environment.State) :
    Safe environment (fun _ => True) (fun _ _ => True) (fun _ _ => True)
      program state := by
  induction program generalizing state with
  | ret result => exact ⟨trivial, trivial⟩
  | fail failure => exact ⟨trivial, trivial⟩
  | call request next ih =>
      exact ⟨trivial, fun ready _ =>
        ⟨trivial, fun answer answered _ => ih answer answered⟩⟩

/-! ## Soundness -/

theorem Safe.runs_ok
    (safe : Safe environment invariant returns fails program state)
    {result : Result}
    (run : Runs environment state program after (.ok result)) :
    invariant after ∧ returns result after := by
  generalize outcomeEq : (Except.ok result : Except Failure Result) = outcome
    at run
  induction run with
  | ret => cases outcomeEq; exact safe
  | fail => cases outcomeEq
  | call evolves answers _ ih =>
      exact ih ((safe.2 _ evolves).2 _ _ answers) outcomeEq

theorem Safe.runs_error
    (safe : Safe environment invariant returns fails program state)
    {failure : Failure}
    (run : Runs environment state program after (.error failure)) :
    invariant after ∧ fails failure after := by
  generalize outcomeEq : (Except.error failure : Except Failure Result) =
    outcome at run
  induction run with
  | ret => cases outcomeEq
  | fail => cases outcomeEq; exact safe
  | call evolves answers _ ih =>
      exact ih ((safe.2 _ evolves).2 _ _ answers) outcomeEq

theorem Safe.visits
    (safe : Safe environment invariant returns fails program state)
    (visit : Visits environment state program after) :
    invariant after := by
  induction visit with
  | here => exact safe.invariant_here
  | waiting evolves => exact (safe.2 _ evolves).1
  | call evolves answers _ ih =>
      exact ih ((safe.2 _ evolves).2 _ _ answers)

/-- A completed execution can be seen as one that was cut off at its end. -/
theorem Runs.visits {outcome : Except Failure Result}
    (run : Runs environment state program after outcome) :
    Visits environment state program after := by
  induction run with
  | ret => exact .here
  | fail => exact .here
  | call evolves answers _ ih => exact .call evolves answers ih

end Rules

/-- A preorder that every step respects relates the ends of an execution. -/
theorem Visits.relates
    {program : Program signature Failure Result}
    {relation : environment.State → environment.State → Prop}
    {before after : environment.State}
    (visit : Visits environment before program after)
    (refl : ∀ state, relation state state)
    (trans : ∀ first second third, relation first second →
      relation second third → relation first third)
    (interferes : ∀ before after, environment.Interferes before after →
      relation before after)
    (answers : ∀ before request answer after,
      environment.Answers before request answer after →
        relation before after) : relation before after := by
  have evolved : ∀ {before after}, environment.Evolves before after →
      relation before after := by
    intro before after evolves
    induction evolves with
    | refl => exact refl _
    | tail _ step ih => exact trans _ _ _ ih (interferes _ _ step)
  induction visit with
  | here => exact refl _
  | waiting evolves => exact evolved evolves
  | call evolves answered _ ih =>
      exact trans _ _ _ (evolved evolves)
        (trans _ _ _ (answers _ _ _ _ answered) ih)

/-! ## Loops -/

section Loops

variable {Vars : Type}

/--
The states in which a loop is at the start of an iteration.  The body returns
the variables for the next iteration, or the result with which the loop ends;
between two iterations the others may act.
-/
inductive LoopReaches (environment : Environment signature)
    (body : Vars → Program signature Failure (Vars ⊕ Result)) :
    Vars → environment.State → Vars → environment.State → Prop where
  | start {vars state} : LoopReaches environment body vars state vars state
  | interferes {first before vars middle after}
      (reached : LoopReaches environment body first before vars middle)
      (step : environment.Interferes middle after) :
      LoopReaches environment body first before vars after
  | iterate {first before vars middle next after}
      (reached : LoopReaches environment body first before vars middle)
      (run : Runs environment middle (body vars) after (.ok (.inl next))) :
      LoopReaches environment body first before next after

/-- A loop invariant, kept by the others and by every iteration. -/
theorem LoopReaches.invariant
    {body : Vars → Program signature Failure (Vars ⊕ Result)}
    {holds : Vars → environment.State → Prop}
    {first vars : Vars} {before after : environment.State}
    (reached : LoopReaches environment body first before vars after)
    (stable : ∀ vars, environment.Stable (holds vars))
    (kept : ∀ vars next middle after, holds vars middle →
      Runs environment middle (body vars) after (.ok (.inl next)) →
        holds next after)
    (initially : holds first before) : holds vars after := by
  induction reached with
  | start => exact initially
  | interferes _ step ih => exact stable _ _ _ step ih
  | iterate _ run ih => exact kept _ _ _ _ ih run

end Loops

/-! ## Composition and inversion of executions -/

theorem Program.Yields.runs {property : Result → Prop}
    {program : Program signature Failure Result}
    {before after : environment.State} {result : Result}
    (yields : program.Yields property)
    (run : Runs environment before program after (.ok result)) :
    property result := by
  generalize reachedEq : (Except.ok result : Except Failure Result) = reached
    at run
  induction run with
  | ret =>
      cases reachedEq
      exact yields
  | fail => cases reachedEq
  | call _ _ _ ih => exact ih (yields _) reachedEq

theorem Runs.bind
    {program : Program signature Failure Result}
    {continuation : Result → Program signature Failure Next}
    {before middle after : environment.State} {result : Result}
    {outcome : Except Failure Next}
    (first : Runs environment before program middle (.ok result))
    (rest : Runs environment middle (continuation result) after outcome) :
    Runs environment before (program >>= continuation) after outcome := by
  generalize reachedEq : (Except.ok result : Except Failure Result) = reached
    at first
  induction first with
  | ret =>
      cases reachedEq
      exact rest
  | fail => cases reachedEq
  | call evolves answers _ ih => exact .call evolves answers (ih rest reachedEq)

theorem Runs.handle
    {program : Program signature Failure Result}
    {handler : Failure → Program signature Failure Result}
    {before after : environment.State} {result : Result}
    (run : Runs environment before program after (.ok result)) :
    Runs environment before (program.handle handler) after (.ok result) := by
  generalize reachedEq : (Except.ok result : Except Failure Result) = reached
    at run
  induction run with
  | ret => exact .ret
  | fail => cases reachedEq
  | call evolves answers _ ih => exact .call evolves answers (ih reachedEq)

/-- A handler that takes over. -/
theorem Runs.recover
    {program : Program signature Failure Result}
    {handler : Failure → Program signature Failure Result}
    {before middle after : environment.State} {failure : Failure}
    {outcome : Except Failure Result}
    (run : Runs environment before program middle (.error failure))
    (rest : Runs environment middle (handler failure) after outcome) :
    Runs environment before (program.handle handler) after outcome := by
  generalize reachedEq : (Except.error failure : Except Failure Result) =
    reached at run
  induction run with
  | ret => cases reachedEq
  | fail =>
      cases reachedEq
      exact rest
  | call evolves answers _ ih => exact .call evolves answers (ih rest reachedEq)

theorem runs_call {request : signature.Call}
    {next : signature.Answer request → Program signature Failure Result}
    {before after : environment.State} {outcome : Except Failure Result}
    (run : Runs environment before (.call request next) after outcome) :
    ∃ ready answer answered, environment.Evolves before ready ∧
      environment.Answers ready request answer answered ∧
        Runs environment answered (next answer) after outcome := by
  cases run with
  | call evolves answers rest => exact ⟨_, _, _, evolves, answers, rest⟩

/-- The rule for a call whose answer is processed before the rest. -/
theorem runs_callBind {request : signature.Call}
    {next : signature.Answer request → Program signature Failure Result}
    {continuation : Result → Program signature Failure Next}
    {before after : environment.State} {outcome : Except Failure Next}
    (run : Runs environment before (.call request next >>= continuation)
      after outcome) :
    ∃ ready answer answered, environment.Evolves before ready ∧
      environment.Answers ready request answer answered ∧
        Runs environment answered (next answer >>= continuation) after
          outcome :=
  runs_call run

theorem runs_bind
    {program : Program signature Failure Result}
    {continuation : Result → Program signature Failure Next}
    {before after : environment.State} {outcome : Except Failure Next}
    (run : Runs environment before (program >>= continuation) after outcome) :
    (∃ middle result,
        Runs environment before program middle (.ok result) ∧
          Runs environment middle (continuation result) after outcome) ∨
      ∃ failure, Runs environment before program after (.error failure) ∧
        outcome = .error failure := by
  induction program generalizing before with
  | ret result => exact Or.inl ⟨before, result, .ret, run⟩
  | fail failure =>
      cases run with
      | fail => exact Or.inr ⟨failure, .fail, rfl⟩
  | call request next ih =>
      cases run with
      | call evolves answers rest =>
          rcases ih _ rest with
            ⟨middle, result, head, tail⟩ | ⟨failure, head, equal⟩
          · exact Or.inl ⟨middle, result, .call evolves answers head, tail⟩
          · exact Or.inr ⟨failure, .call evolves answers head, equal⟩

theorem runs_handle
    {program : Program signature Failure Result}
    {handler : Failure → Program signature Failure Result}
    {before after : environment.State} {outcome : Except Failure Result}
    (run : Runs environment before (program.handle handler) after outcome) :
    (∃ result, Runs environment before program after (.ok result) ∧
        outcome = .ok result) ∨
      ∃ middle failure,
        Runs environment before program middle (.error failure) ∧
          Runs environment middle (handler failure) after outcome := by
  induction program generalizing before with
  | ret result =>
      cases run with
      | ret => exact Or.inl ⟨result, .ret, rfl⟩
  | fail failure => exact Or.inr ⟨before, failure, .fail, run⟩
  | call request next ih =>
      cases run with
      | call evolves answers rest =>
          rcases ih _ rest with
            ⟨result, head, equal⟩ | ⟨middle, failure, head, tail⟩
          · exact Or.inl ⟨result, .call evolves answers head, equal⟩
          · exact Or.inr ⟨middle, failure, .call evolves answers head, tail⟩

theorem visits_bind
    {program : Program signature Failure Result}
    {continuation : Result → Program signature Failure Next}
    {before after : environment.State}
    (visits : Visits environment before (program >>= continuation) after) :
    Visits environment before program after ∨
      ∃ middle result, Runs environment before program middle (.ok result) ∧
        Visits environment middle (continuation result) after := by
  induction program generalizing before with
  | ret result => exact Or.inr ⟨before, result, .ret, visits⟩
  | fail failure =>
      cases visits with
      | here => exact Or.inl .here
  | call request next ih =>
      cases visits with
      | here => exact Or.inl .here
      | waiting evolves => exact Or.inl (.waiting evolves)
      | call evolves answers rest =>
          rcases ih _ rest with head | ⟨middle, result, head, tail⟩
          · exact Or.inl (.call evolves answers head)
          · exact Or.inr ⟨middle, result, .call evolves answers head, tail⟩

theorem visits_handle
    {program : Program signature Failure Result}
    {handler : Failure → Program signature Failure Result}
    {before after : environment.State}
    (visits : Visits environment before (program.handle handler) after) :
    Visits environment before program after ∨
      ∃ middle failure,
        Runs environment before program middle (.error failure) ∧
          Visits environment middle (handler failure) after := by
  induction program generalizing before with
  | ret result => exact Or.inl visits
  | fail failure => exact Or.inr ⟨before, failure, .fail, visits⟩
  | call request next ih =>
      cases visits with
      | here => exact Or.inl .here
      | waiting evolves => exact Or.inl (.waiting evolves)
      | call evolves answers rest =>
          rcases ih _ rest with head | ⟨middle, failure, head, tail⟩
          · exact Or.inl (.call evolves answers head)
          · exact Or.inr ⟨middle, failure, .call evolves answers head, tail⟩

theorem runs_ret {result : Result} {before after : environment.State}
    {outcome : Except Failure Result} :
    Runs environment before (.ret result) after outcome ↔
      after = before ∧ outcome = .ok result := by
  constructor
  · intro run
    cases run with
    | ret => exact ⟨rfl, rfl⟩
  · rintro ⟨rfl, rfl⟩
    exact .ret

theorem runs_fail {failure : Failure} {before after : environment.State}
    {outcome : Except Failure Result} :
    Runs environment before (.fail failure) after outcome ↔
      after = before ∧ outcome = .error failure := by
  constructor
  · intro run
    cases run with
    | fail => exact ⟨rfl, rfl⟩
  · rintro ⟨rfl, rfl⟩
    exact .fail

theorem visits_fail {failure : Failure} {before after : environment.State}
    (visits : Visits environment before
      (.fail failure : Program signature Failure Result) after) :
    after = before := by
  cases visits with
  | here => rfl

end OpenEventIm.Foundation.Interaction
