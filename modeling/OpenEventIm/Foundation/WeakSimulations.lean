import OpenEventIm.Foundation.Transcripts

/-!
# Weak simulations

In a `Simulation` an answer is matched by the same answer.  Where answering is
itself a sequence of steps, others act in the middle of it; a weak simulation
lets them go on after the answer.  It relates states by any relation, which can
carry an invariant, and needs to match only the calls that a program makes.
-/

namespace OpenEventIm.Foundation.WeakSimulations

open OpenEventIm.Foundation.Interaction
open OpenEventIm.Foundation.Transcripts

variable {signature : Signature} {Failure Result : Type}
  {source target : Environment signature}

/-- Steps are matched by steps, the answers of allowed calls by the same answers
with steps after them. -/
structure WeakSimulation (source target : Environment signature)
    (allowed : signature.Call → Prop)
    (related : source.State → target.State → Prop) : Prop where
  interferes : ∀ before after image, source.Interferes before after →
    related before image →
      ∃ next, target.Evolves image next ∧ related after next
  answers : ∀ before request answer after image, allowed request →
    source.Answers before request answer after → related before image →
      ∃ answered next, target.Answers image request answer answered ∧
        target.Evolves answered next ∧ related after next

variable {allowed : signature.Call → Prop}
  {related : source.State → target.State → Prop}
  {before after : source.State} {image : target.State}

theorem WeakSimulation.evolves
    (simulation : WeakSimulation source target allowed related)
    (evolves : source.Evolves before after) (relates : related before image) :
    ∃ next, target.Evolves image next ∧ related after next := by
  induction evolves with
  | refl => exact ⟨image, .refl, relates⟩
  | tail _ step ih =>
      rcases ih with ⟨middle, earlier, relates⟩
      rcases simulation.interferes _ _ _ step relates with
        ⟨next, later, relates⟩
      exact ⟨next, earlier.trans later, relates⟩

/-- A transcript can begin later. -/
theorem transcript_begins {program : Program signature Failure Result}
    {first second last : target.State}
    {exchanges : List (Exchanged signature)}
    {outcome : Except Failure Result} (evolves : target.Evolves first second)
    (transcript : Transcript target second program exchanges last outcome) :
    ∃ earlier, Transcript target first program exchanges earlier outcome ∧
      target.Evolves earlier last := by
  cases transcript with
  | ret => exact ⟨first, .ret, evolves⟩
  | fail => exact ⟨first, .fail, evolves⟩
  | call waits answers rest =>
      exact ⟨last, .call (evolves.trans waits) answers rest, .refl⟩

/-- A program that makes allowed calls only has the same calls and answers in
the simulating environment. -/
theorem WeakSimulation.transcript
    (simulation : WeakSimulation source target allowed related)
    {program : Program signature Failure Result}
    {exchanges : List (Exchanged signature)} {outcome : Except Failure Result}
    (calls : program.Calls allowed)
    (transcript : Transcript source before program exchanges after outcome)
    (relates : related before image) :
    ∃ answered next, Transcript target image program exchanges answered
        outcome ∧
      target.Evolves answered next ∧ related after next := by
  induction transcript generalizing image with
  | ret => exact ⟨image, image, .ret, .refl, relates⟩
  | fail => exact ⟨image, image, .fail, .refl, relates⟩
  | call evolves answers _ ih =>
      rcases simulation.evolves evolves relates with
        ⟨ready, waits, relates⟩
      rcases simulation.answers _ _ _ _ _ calls.1 answers relates with
        ⟨answered, going, given, goesOn, relates⟩
      rcases ih (calls.2 _) relates with ⟨last, next, rest, later, relates⟩
      rcases transcript_begins goesOn rest with
        ⟨earlier, rest, between⟩
      exact ⟨earlier, next, .call waits given rest, between.trans later,
        relates⟩

end OpenEventIm.Foundation.WeakSimulations
