import OpenEventIm.Foundation.Transcripts

/-!
# Programs over two signatures

A program whose calls belong to two signatures can use the programs of either
one.  What a program of the second signature does inside a larger program is
what it does by itself in the environment that answers the second kind of calls
only.
-/

namespace OpenEventIm.Foundation.SignatureSums

open OpenEventIm.Foundation.Interaction
open OpenEventIm.Foundation.Transcripts

/-- The calls of both signatures. -/
@[reducible]
def sum (first second : Signature) : Signature where
  Call := first.Call ⊕ second.Call
  Answer
    | .inl request => first.Answer request
    | .inr request => second.Answer request

variable {first second : Signature} {Failure Result Next : Type}

/-- A program of the second signature among the programs of both. -/
def right :
    Program second Failure Result → Program (sum first second) Failure Result
  | .ret result => .ret result
  | .fail failure => .fail failure
  | .call request next => .call (.inr request) fun answer => right (next answer)

@[simp]
theorem right_ret (result : Result) :
    (right (.ret result) : Program (sum first second) Failure Result) =
      .ret result := rfl

@[simp]
theorem right_fail (failure : Failure) :
    (right (.fail failure) : Program (sum first second) Failure Result) =
      .fail failure := rfl

@[simp]
theorem right_call (request : second.Call)
    (next : second.Answer request → Program second Failure Result) :
    (right (.call request next) :
        Program (sum first second) Failure Result) =
      .call (.inr request) fun answer => right (next answer) := rfl

theorem right_handle (program : Program second Failure Result)
    (handler : Failure → Program second Failure Result) :
    (right program : Program (sum first second) Failure Result).handle
        (fun failure => right (handler failure)) =
      right (program.handle handler) := by
  induction program with
  | ret result => rfl
  | fail failure => rfl
  | call request next ih =>
      simp only [right_call, Program.handle, ih]

/-- The part of an environment that answers the second kind of calls. -/
@[reducible]
def rightOf (environment : Environment (sum first second)) :
    Environment second where
  State := environment.State
  Interferes := environment.Interferes
  Answers before request := environment.Answers before (.inr request)

/-- A call of the second signature among the calls of both. -/
def inRight (exchange : Exchanged second) : Exchanged (sum first second) :=
  ⟨.inr exchange.1, exchange.2⟩

variable {environment : Environment (sum first second)}
  {before after : environment.State}

/-- Inside the larger program a program does what it does by itself. -/
theorem transcript_right {program : Program second Failure Result}
    {exchanges : List (Exchanged (sum first second))}
    {outcome : Except Failure Result}
    (transcript : Transcript environment before (right program) exchanges after
      outcome) :
    ∃ own, exchanges = own.map inRight ∧
      Transcript (rightOf environment) before program own after outcome := by
  induction program generalizing before exchanges with
  | ret result =>
      rcases transcript_ret transcript with ⟨rfl, rfl, rfl⟩
      exact ⟨[], rfl, .ret⟩
  | fail failure =>
      rcases transcript_fail transcript with ⟨rfl, rfl, rfl⟩
      exact ⟨[], rfl, .fail⟩
  | call request next ih =>
      rcases transcript_call transcript with
        ⟨ready, answer, answered, rest, rfl, evolves, answers, tail⟩
      rcases ih _ tail with ⟨own, rfl, transcribed⟩
      exact ⟨⟨request, answer⟩ :: own, rfl,
        .call evolves answers transcribed⟩

end OpenEventIm.Foundation.SignatureSums
