import OpenEventIm.Foundation.Transcripts

/-!
# Programs under a simulation

What a program does in an environment it also does in one that simulates the
environment.  So a specification that was proved in the simulating environment
holds in the simulated one.
-/

namespace OpenEventIm.Foundation.Transcripts.Simulation

open OpenEventIm.Foundation.Interaction

variable {signature : Signature} {Failure Result : Type}
  {source target : Environment signature}
  {program : Program signature Failure Result} {before after : source.State}

/-- A specification that holds of what is seen. -/
theorem safe (simulation : Simulation source target)
    {invariant : target.State → Prop}
    {returns : Result → target.State → Prop}
    {fails : Failure → target.State → Prop}
    (safe : Safe target invariant returns fails program
      (simulation.view before)) :
    Safe source (fun state => invariant (simulation.view state))
      (fun result state => returns result (simulation.view state))
      (fun failure state => fails failure (simulation.view state)) program
      before := by
  induction program generalizing before with
  | ret result => exact safe
  | fail failure => exact safe
  | call request next ih =>
      refine ⟨safe.1, fun ready evolves => ?_⟩
      obtain ⟨within, step⟩ := safe.2 _ (simulation.evolves evolves)
      refine ⟨within, fun answer answered answers => ?_⟩
      exact ih answer (step answer _ (simulation.answers _ _ _ _ answers))

theorem runs (simulation : Simulation source target)
    {outcome : Except Failure Result}
    (run : Runs source before program after outcome) :
    Runs target (simulation.view before) program (simulation.view after)
      outcome := by
  induction run with
  | ret => exact .ret
  | fail => exact .fail
  | call evolves answers _ ih =>
      exact .call (simulation.evolves evolves)
        (simulation.answers _ _ _ _ answers) ih

theorem visits (simulation : Simulation source target)
    (visit : Visits source before program after) :
    Visits target (simulation.view before) program
      (simulation.view after) := by
  induction visit with
  | here => exact .here
  | waiting evolves => exact .waiting (simulation.evolves evolves)
  | call evolves answers _ ih =>
      exact .call (simulation.evolves evolves)
        (simulation.answers _ _ _ _ answers) ih

end OpenEventIm.Foundation.Transcripts.Simulation
