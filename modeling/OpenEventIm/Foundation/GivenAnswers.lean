import OpenEventIm.Foundation.Interaction

/-!
# Results under assumptions about answers

A program often returns nothing but what it has been told.  `YieldsGiven` states
a property of the results for the case that all answers are given ones; it is
proved along the structure of the program, without an environment.  Where the
environment records what it has told, such a property holds of what has been
told so far.
-/

namespace OpenEventIm.Foundation.GivenAnswers

open OpenEventIm.Foundation.Interaction

variable {signature : Signature} {Failure Result Next : Type}
  {given : (request : signature.Call) → signature.Answer request → Prop}

/-- If all answers are given ones, a result that is returned has the
property. -/
def YieldsGiven
    (given : (request : signature.Call) → signature.Answer request → Prop)
    (property : Result → Prop) : Program signature Failure Result → Prop
  | .ret result => property result
  | .fail _ => True
  | .call request next =>
      ∀ answer, given request answer → YieldsGiven given property (next answer)

section Rules

variable {property : Result → Prop}
  {program : Program signature Failure Result}

theorem YieldsGiven.bind {final : Next → Prop}
    {continuation : Result → Program signature Failure Next}
    (yields : YieldsGiven given property program)
    (rest : ∀ result, property result →
      YieldsGiven given final (continuation result)) :
    YieldsGiven given final (program >>= continuation) := by
  induction program with
  | ret result => exact rest result yields
  | fail failure => exact True.intro
  | call request next ih =>
      exact fun answer isGiven => ih answer (yields answer isGiven)

theorem YieldsGiven.handle
    {handler : Failure → Program signature Failure Result}
    (yields : YieldsGiven given property program)
    (recover : ∀ failure, YieldsGiven given property (handler failure)) :
    YieldsGiven given property (program.handle handler) := by
  induction program with
  | ret result => exact yields
  | fail failure => exact recover failure
  | call request next ih =>
      exact fun answer isGiven => ih answer (yields answer isGiven)

/-- What a program returns whatever it is told. -/
theorem yieldsGiven_of_yields (yields : program.Yields property) :
    YieldsGiven given property program := by
  induction program with
  | ret result => exact yields
  | fail failure => exact True.intro
  | call request next ih => exact fun answer _ => ih answer (yields answer)

end Rules

/-! ## What has been told -/

section Told

variable {environment : Environment signature} {Fact : Type}
  {told : environment.State → Fact → Prop}
  {tells : (request : signature.Call) → signature.Answer request → Fact → Prop}

/-- An environment that does not forget what its answers have told. -/
structure Records (environment : Environment signature)
    (told : environment.State → Fact → Prop)
    (tells : (request : signature.Call) → signature.Answer request →
      Fact → Prop) : Prop where
  stable : ∀ fact, environment.Stable fun state => told state fact
  kept : ∀ before request answer after,
    environment.Answers before request answer after →
      ∀ fact, told before fact → told after fact
  tells : ∀ before request answer after,
    environment.Answers before request answer after →
      ∀ fact, tells request answer fact → told after fact

/-- The answer tells known facts only. -/
def TellsKnown
    (tells : (request : signature.Call) → signature.Answer request →
      Fact → Prop)
    (known : Fact → Prop) (request : signature.Call)
    (answer : signature.Answer request) : Prop :=
  ∀ fact, tells request answer fact → known fact

/-- A property that holds of all known facts holds of what has been told. -/
theorem safe_of_yieldsGiven (records : Records environment told tells)
    {property : (Fact → Prop) → Result → Prop}
    {program : Program signature Failure Result} {state : environment.State}
    (yields : ∀ known : Fact → Prop, (∀ fact, told state fact → known fact) →
      YieldsGiven (TellsKnown tells known) (property known) program) :
    Safe environment (fun _ => True)
      (fun result after => property (told after) result) (fun _ _ => True)
      program state := by
  induction program generalizing state with
  | ret result => exact ⟨trivial, yields (told state) fun _ isTold => isTold⟩
  | fail failure => exact ⟨trivial, trivial⟩
  | call request next ih =>
      refine ⟨trivial, fun ready evolves => ⟨trivial, ?_⟩⟩
      intro answer answered answers
      apply ih answer
      intro known whole
      apply yields known
      · intro fact isTold
        apply whole
        apply records.kept _ _ _ _ answers
        exact (records.stable fact).evolves evolves isTold
      · intro fact isTold
        exact whole fact (records.tells _ _ _ _ answers fact isTold)

end Told

end OpenEventIm.Foundation.GivenAnswers
