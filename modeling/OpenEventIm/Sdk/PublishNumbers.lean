import OpenEventIm.Sdk.PublishReconciliation

/-!
# The numbers that a publish returns

A publish that returns a number returns one above all numbers that the log had
when the publish began, whether it read the number from the reply or found it
by reconciliation.
-/

namespace OpenEventIm.Sdk.PublishNumbers

open OpenEventIm.Foundation
open OpenEventIm.Foundation.Interaction
open OpenEventIm.Sdk.Errors
open OpenEventIm.Sdk.Normalizer
open OpenEventIm.Sdk.Client
open OpenEventIm.Sdk.PublishReconciliation
open OpenEventIm.Service.Calls
open OpenEventIm.Service.World

variable {setting : Setting} {record : Record} {token : String} {bound : Nat}
  {state : WorldState setting}

/-- The log has reached the number. -/
def HasReached (bound : Nat) (state : WorldState setting) : Prop :=
  bound ≤ state.log.last

theorem HasReached.answers {before after : WorldState setting} {request : Call}
    {answer : Answer request} (reached : HasReached bound before)
    (answers : Answers before request answer after) : HasReached bound after :=
  Nat.le_trans reached answers.extends.last_le

theorem stable_hasReached :
    (world setting).Stable (HasReached bound) :=
  fun _ _ step reached => Nat.le_trans reached step.extends.last_le

/-- The log reaches the bound throughout, and what is returned satisfies the
property. -/
abbrev Numbered {Result : Type} (setting : Setting) (bound : Nat)
    (returns : Result → Prop) (program : Action Result)
    (state : WorldState setting) : Prop :=
  Safe (world setting) (HasReached bound) (fun result _ => returns result)
    (fun _ _ => True) program state

/-- The rule for a call whose answer is processed before the rest. -/
theorem numbered_call {Result : Type} {returns : Result → Prop}
    {request : Call} {next : Answer request → Action Result}
    (reached : HasReached bound state)
    (step : ∀ before answer after, HasReached bound before →
      HasReached bound after → Answers before request answer after →
        Numbered setting bound returns (next answer) after) :
    Numbered setting bound returns (.call request next) state :=
  Safe.call stable_hasReached (fun _ => id) reached
    fun before answer after holds answers =>
      step before answer after holds (holds.answers answers) answers

theorem numbered_requireResponseUint64 {value : Nat} {fieldName : String}
    {positive : Bool} {returns : Nat → Prop}
    (reached : HasReached bound state) (holds : returns value) :
    Numbered setting bound returns
      (requireResponseUint64 value fieldName positive) state :=
  safe_requireResponseUint64 reached (fun _ _ => holds) fun _ => True.intro

theorem numbered_getPrePublishMaxSeq {principal : Nat}
    (reached : HasReached bound state) :
    Numbered setting bound (bound ≤ ·) (getPrePublishMaxSeq principal token)
      state := by
  have read : Numbered setting bound (bound ≤ ·) (do
      let response ← getStatus principal token
      requireResponseUint64 response.maxSeq "max_seq" false) state := by
    apply numbered_call reached
    intro before answer after early late answers
    cases answer with
    | error => exact ⟨late, True.intro⟩
    | ok response =>
        apply numbered_requireResponseUint64 late
        rw [answers.server.1]
        exact early
  exact read.handle fun _ _ within _ => ⟨within, True.intro⟩

theorem numbered_publishOnce (reached : HasReached bound state) :
    Numbered setting bound (bound < ·) (publishOnce token record) state := by
  apply numbered_call reached
  intro before answer after early late answers
  cases answer with
  | error => exact ⟨late, True.intro⟩
  | ok response =>
      rw [Action.ofExcept_ok]
      simp only [Program.bind_eq, Program.ret_bind]
      cases replied : response.seq with
      | none => exact ⟨late, True.intro⟩
      | some seq =>
          unfold requireResponseUint64
          apply safe_requireResponseUint64 late _ fun _ => True.intro
          intro small isPositive
          have usable : ¬UnusableReply response := by
            intro unusable
            rcases unusable seq replied with isZero | isLarge
            · exact absurd (isPositive rfl) (by omega)
            · omega
          rcases PublishAnswers.ok answers.server with
            ⟨-, unusable⟩ | ⟨message, -, -, appends, same | unusable⟩
          · exact absurd unusable usable
          · rw [replied] at same
            cases same
            have below : before.log.last < before.log.frontier :=
              before.log.last_lt_frontier
            exact early.trans_lt (below.trans_le appends.2.2)
          · exact absurd unusable usable

/-- The scan finds a message at or above its start. -/
theorem numbered_reconcilePages {reconcileMaxSeq fromSeq : Nat}
    (reached : HasReached bound state) (above : bound < fromSeq) :
    Numbered setting bound (fun found => ∀ seq, found = some seq → bound < seq)
      (reconcilePages token record reconcileMaxSeq fromSeq) state := by
  induction remaining : reconcileMaxSeq + 1 - fromSeq using
    Nat.strong_induction_on generalizing fromSeq state with
  | _ remaining ih =>
      rw [reconcilePages]
      split_ifs with inRange
      · apply numbered_call reached
        intro before answer after _ late answers
        cases answer with
        | error => exact ⟨late, True.intro⟩
        | ok response =>
            rcases answers.server.ok with ⟨honest, -⟩
            rw [Action.ofExcept_ok]
            simp only [Program.bind_eq, Program.ret_bind]
            cases found :
                findPublished record reconcileMaxSeq response.messages with
            | some message =>
                rcases findPublished_eq_some found with ⟨onPage, -⟩
                rcases (mem_honestPage honest).mp onPage with
                  ⟨entry, -, same, low, -⟩
                have isAbove : bound < message.seq := above.trans_le low
                apply Safe.bind (numbered_requireResponseUint64 late isAbove)
                intro seq final within isSeq
                refine ⟨within, ?_⟩
                rintro _ ⟨⟩
                exact isSeq
            | none =>
                have checked : Numbered setting bound
                    (fun nextSeq => nextSeq = response.nextSeq)
                    (requireResponseUint64 response.nextSeq "next_seq" true)
                    after := numbered_requireResponseUint64 late rfl
                apply Safe.bind checked
                intro nextSeq final within same
                split_ifs with stuck
                · exact ⟨within, True.intro⟩
                · exact ih _ (by omega) within (by omega) rfl
      · exact ⟨reached, nofun⟩

theorem numbered_reconcileUncertainPublish {floor : Nat} {error : PyError}
    (reached : HasReached bound state) (low : bound ≤ floor) :
    Numbered setting bound (bound < ·)
      (reconcileUncertainPublish token record floor error) state := by
  have search : Numbered setting bound
      (fun found => ∀ seq, found = some seq → bound < seq)
      (searchPublished token record floor) state := by
    apply numbered_call reached
    intro before answer after _ late answers
    cases answer with
    | error => exact ⟨late, True.intro⟩
    | ok response =>
        rw [Action.ofExcept_ok]
        simp only [Program.bind_eq, Program.ret_bind]
        have checked : Numbered setting bound (fun _ => True)
            (requireResponseUint64 response.maxSeq "max_seq" false) after :=
          numbered_requireResponseUint64 late True.intro
        apply Safe.bind checked
        intro maxSeq final within _
        split_ifs
        · exact ⟨within, True.intro⟩
        · exact numbered_reconcilePages within (Nat.lt_succ_of_le low)
  have handled : Numbered setting bound
      (fun found => ∀ seq, found = some seq → bound < seq)
      ((searchPublished token record floor).handle fun exc =>
        publishFailed (outcomeUnknown exc) false true error) state :=
    search.handle fun _ _ within _ => ⟨within, True.intro⟩
  apply handled.bind
  intro found final within isAbove
  cases found with
  | none => exact ⟨within, True.intro⟩
  | some seq => exact ⟨within, isAbove seq rfl⟩

/-- A publish returns a number above those of the log before it. -/
theorem numbered_publishRecord (reached : HasReached bound state) :
    Numbered setting bound (bound < ·) (publishRecord token record) state := by
  apply (numbered_getPrePublishMaxSeq reached).bind
  intro floor before within low
  apply (numbered_publishOnce within).handle
  intro exc after later _
  split_ifs
  · exact ⟨later, True.intro⟩
  · exact numbered_reconcileUncertainPublish later low

theorem numbered_publish {text : JsonText} {method : PublishMethod}
    (reached : HasReached bound state) :
    Numbered setting bound (bound < ·) (method.publish text) state := by
  rw [PublishMethod.publish_eq]
  cases method.record text with
  | error => exact ⟨reached, True.intro⟩
  | ok record => exact numbered_publishRecord reached

end OpenEventIm.Sdk.PublishNumbers
