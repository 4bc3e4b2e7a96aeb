import OpenEventIm.Foundation.Interaction

/-!
# Transcripts of executions

`Transcript` is a complete execution together with the list of its calls and
answers.  A specification that speaks about which calls a program made, and in
which order, is stated about the transcript; the rules below take a transcript
apart along the structure of the program.  A simulation carries executions of
one environment over to another one.
-/

namespace OpenEventIm.Foundation.Transcripts

open OpenEventIm.Foundation.Interaction

/-- A call together with its answer. -/
abbrev Exchanged (signature : Signature) : Type :=
  (request : signature.Call) × signature.Answer request

variable {signature : Signature} {Failure Result Next : Type}
  {environment : Environment signature}

/-- A complete execution with its calls and their answers. -/
inductive Transcript (environment : Environment signature) :
    environment.State → Program signature Failure Result →
      List (Exchanged signature) → environment.State →
        Except Failure Result → Prop where
  | ret {state} {result : Result} :
      Transcript environment state (.ret result) [] state (.ok result)
  | fail {state} {failure : Failure} :
      Transcript environment state (.fail failure) [] state (.error failure)
  | call {before ready answered after request answer next exchanges outcome}
      (evolves : environment.Evolves before ready)
      (answers : environment.Answers ready request answer answered)
      (rest : Transcript environment answered (next answer) exchanges after
        outcome) :
      Transcript environment before (.call request next)
        (⟨request, answer⟩ :: exchanges) after outcome

variable {before after : environment.State}
  {exchanges : List (Exchanged signature)}

theorem Transcript.runs {program : Program signature Failure Result}
    {outcome : Except Failure Result}
    (transcript : Transcript environment before program exchanges after
      outcome) : Runs environment before program after outcome := by
  induction transcript with
  | ret => exact .ret
  | fail => exact .fail
  | call evolves answers _ ih => exact .call evolves answers ih

/-- Every execution has a transcript. -/
theorem transcript_of_runs {program : Program signature Failure Result}
    {outcome : Except Failure Result}
    (run : Runs environment before program after outcome) :
    ∃ exchanges, Transcript environment before program exchanges after
      outcome := by
  induction run with
  | ret => exact ⟨[], .ret⟩
  | fail => exact ⟨[], .fail⟩
  | call evolves answers _ ih =>
      rcases ih with ⟨exchanges, rest⟩
      exact ⟨_, .call evolves answers rest⟩

/-- Every exchange of a transcript has been answered by the environment. -/
theorem Transcript.answered {program : Program signature Failure Result}
    {outcome : Except Failure Result} {exchange : Exchanged signature}
    (transcript : Transcript environment before program exchanges after outcome)
    (member : exchange ∈ exchanges) :
    ∃ ready answered,
      environment.Answers ready exchange.1 exchange.2 answered := by
  induction transcript with
  | ret => cases member
  | fail => cases member
  | call evolves answers _ ih =>
      rcases List.mem_cons.mp member with rfl | later
      · exact ⟨_, _, answers⟩
      · exact ih later

/-! ## Taking a transcript apart -/

theorem transcript_ret {result : Result} {outcome : Except Failure Result}
    (transcript : Transcript environment before (.ret result) exchanges after
      outcome) :
    exchanges = [] ∧ after = before ∧ outcome = .ok result := by
  cases transcript with
  | ret => exact ⟨rfl, rfl, rfl⟩

theorem transcript_fail {failure : Failure} {outcome : Except Failure Result}
    (transcript : Transcript environment before (.fail failure) exchanges after
      outcome) :
    exchanges = [] ∧ after = before ∧ outcome = .error failure := by
  cases transcript with
  | fail => exact ⟨rfl, rfl, rfl⟩

theorem transcript_call {request : signature.Call}
    {next : signature.Answer request → Program signature Failure Result}
    {outcome : Except Failure Result}
    (transcript : Transcript environment before (.call request next) exchanges
      after outcome) :
    ∃ ready answer answered rest, exchanges = ⟨request, answer⟩ :: rest ∧
      environment.Evolves before ready ∧
        environment.Answers ready request answer answered ∧
          Transcript environment answered (next answer) rest after
            outcome := by
  cases transcript with
  | call evolves answers rest => exact ⟨_, _, _, _, rfl, evolves, answers, rest⟩

/-- The rule for a call whose answer is processed before the rest. -/
theorem transcript_callBind {request : signature.Call}
    {next : signature.Answer request → Program signature Failure Result}
    {continuation : Result → Program signature Failure Next}
    {outcome : Except Failure Next}
    (transcript : Transcript environment before
      (.call request next >>= continuation) exchanges after outcome) :
    ∃ ready answer answered rest, exchanges = ⟨request, answer⟩ :: rest ∧
      environment.Evolves before ready ∧
        environment.Answers ready request answer answered ∧
          Transcript environment answered (next answer >>= continuation) rest
            after outcome :=
  transcript_call transcript

theorem transcript_bind {program : Program signature Failure Result}
    {continuation : Result → Program signature Failure Next}
    {outcome : Except Failure Next}
    (transcript : Transcript environment before (program >>= continuation)
      exchanges after outcome) :
    (∃ middle result first rest, exchanges = first ++ rest ∧
        Transcript environment before program first middle (.ok result) ∧
          Transcript environment middle (continuation result) rest after
            outcome) ∨
      ∃ failure, outcome = .error failure ∧
        Transcript environment before program exchanges after
          (.error failure) := by
  induction program generalizing before exchanges with
  | ret result =>
      exact Or.inl ⟨before, result, [], exchanges, rfl, .ret, transcript⟩
  | fail failure =>
      rcases transcript_fail transcript with ⟨rfl, rfl, equal⟩
      exact Or.inr ⟨failure, equal, .fail⟩
  | call request next ih =>
      rcases transcript_call transcript with
        ⟨ready, answer, answered, rest, rfl, evolves, answers, tail⟩
      rcases ih _ tail with ⟨middle, result, first, last, rfl, head, final⟩ |
        ⟨failure, equal, head⟩
      · exact Or.inl ⟨middle, result, _, last, rfl,
          .call evolves answers head, final⟩
      · exact Or.inr ⟨failure, equal, .call evolves answers head⟩

theorem transcript_handle {program : Program signature Failure Result}
    {handler : Failure → Program signature Failure Result}
    {outcome : Except Failure Result}
    (transcript : Transcript environment before (program.handle handler)
      exchanges after outcome) :
    (∃ result, outcome = .ok result ∧
        Transcript environment before program exchanges after (.ok result)) ∨
      ∃ middle failure first rest, exchanges = first ++ rest ∧
        Transcript environment before program first middle (.error failure) ∧
          Transcript environment middle (handler failure) rest after
            outcome := by
  induction program generalizing before exchanges with
  | ret result =>
      rcases transcript_ret transcript with ⟨rfl, rfl, equal⟩
      exact Or.inl ⟨result, equal, .ret⟩
  | fail failure =>
      exact Or.inr ⟨before, failure, [], exchanges, rfl, .fail, transcript⟩
  | call request next ih =>
      rcases transcript_call transcript with
        ⟨ready, answer, answered, rest, rfl, evolves, answers, tail⟩
      rcases ih _ tail with ⟨result, equal, head⟩ |
        ⟨middle, failure, first, last, rfl, head, final⟩
      · exact Or.inl ⟨result, equal, .call evolves answers head⟩
      · exact Or.inr ⟨middle, failure, _, last, rfl,
          .call evolves answers head, final⟩

/-- The rule for a handler around a sequence: it handles the failures of both
parts. -/
theorem transcript_bindHandle {program : Program signature Failure Result}
    {continuation : Result → Program signature Failure Next}
    {handler : Failure → Program signature Failure Next}
    {outcome : Except Failure Next}
    (transcript : Transcript environment before
      ((program >>= continuation).handle handler) exchanges after outcome) :
    (∃ middle result first rest, exchanges = first ++ rest ∧
        Transcript environment before program first middle (.ok result) ∧
          Transcript environment middle ((continuation result).handle handler)
            rest after outcome) ∨
      ∃ middle failure first rest, exchanges = first ++ rest ∧
        Transcript environment before program first middle (.error failure) ∧
          Transcript environment middle (handler failure) rest after
            outcome := by
  induction program generalizing before exchanges with
  | ret result =>
      exact Or.inl ⟨before, result, [], exchanges, rfl, .ret, transcript⟩
  | fail failure =>
      exact Or.inr ⟨before, failure, [], exchanges, rfl, .fail, transcript⟩
  | call request next ih =>
      rcases transcript_call transcript with
        ⟨ready, answer, answered, rest, rfl, evolves, answers, tail⟩
      rcases ih _ tail with ⟨middle, result, first, last, rfl, head, final⟩ |
        ⟨middle, failure, first, last, rfl, head, final⟩
      · exact Or.inl ⟨middle, result, _, last, rfl,
          .call evolves answers head, final⟩
      · exact Or.inr ⟨middle, failure, _, last, rfl,
          .call evolves answers head, final⟩

/-- A relation that holds of no exchange and is kept by one exchange more at the
beginning holds of every transcript. -/
theorem transcript_relates
    {relates : environment.State → List (Exchanged signature) →
      environment.State → Prop}
    {program : Program signature Failure Result}
    {outcome : Except Failure Result}
    (transcript : Transcript environment before program exchanges after
      outcome)
    (nothing : ∀ state, relates state [] state)
    (exchange : ∀ before ready answered after request answer rest,
      environment.Evolves before ready →
        environment.Answers ready request answer answered →
          relates answered rest after →
            relates before (⟨request, answer⟩ :: rest) after) :
    relates before exchanges after := by
  induction transcript with
  | ret => exact nothing _
  | fail => exact nothing _
  | call evolves answers _ ih =>
      exact exchange _ _ _ _ _ _ _ evolves answers ih

/-! ## Simulations -/

/--
A simulation of one environment in another one: a step of the others becomes
some steps, an answer becomes the same answer.
-/
structure Simulation (source target : Environment signature) where
  view : source.State → target.State
  interferes : ∀ before after, source.Interferes before after →
    target.Evolves (view before) (view after)
  answers : ∀ before request answer after,
    source.Answers before request answer after →
      target.Answers (view before) request answer (view after)

theorem Simulation.evolves {source target : Environment signature}
    (simulation : Simulation source target) {before after : source.State}
    (evolves : source.Evolves before after) :
    target.Evolves (simulation.view before) (simulation.view after) := by
  induction evolves with
  | refl => exact .refl
  | tail _ step ih => exact ih.trans (simulation.interferes _ _ step)

/-- A simulation keeps the transcript. -/
theorem Simulation.transcript {source target : Environment signature}
    (simulation : Simulation source target) {before after : source.State}
    {program : Program signature Failure Result}
    {outcome : Except Failure Result}
    (transcript : Transcript source before program exchanges after outcome) :
    Transcript target (simulation.view before) program exchanges
      (simulation.view after) outcome := by
  induction transcript with
  | ret => exact .ret
  | fail => exact .fail
  | call evolves answers _ ih =>
      exact .call (simulation.evolves evolves)
        (simulation.answers _ _ _ _ answers) ih

end OpenEventIm.Foundation.Transcripts
