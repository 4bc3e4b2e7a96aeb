import Mathlib.Tactic.SplitIfs

/-!
# Sequences of checks

A validation is a sequence of checks in `Except`.  It succeeds exactly when
every check does, and the lemmas here turn a successful validation into the
conjunction of what its checks establish.
-/

namespace OpenEventIm.Foundation.Checked

variable {Failure Result Next : Type}

/-- Raise the failure unless the condition holds. -/
def require (condition : Prop) [Decidable condition] (failure : Failure) :
    Except Failure Unit :=
  if condition then .ok () else .error failure

/-- Perform the checks only when the condition holds. -/
def whenever (condition : Prop) [Decidable condition]
    (checks : Except Failure Unit) : Except Failure Unit :=
  if condition then checks else .ok ()

/-- Perform a check for its failure only. -/
def verify (check : Except Failure Result) : Except Failure Unit :=
  check.map fun _ => ()

theorem bind_eq_ok_iff {check : Except Failure Result}
    {continuation : Result → Except Failure Next} {result : Next} :
    (check >>= continuation) = .ok result ↔
      ∃ value, check = .ok value ∧ continuation value = .ok result := by
  cases check with
  | error failure =>
      constructor
      · intro impossible
        cases impossible
      · rintro ⟨_, impossible, _⟩
        cases impossible
  | ok value =>
      constructor
      · intro equal
        exact ⟨value, rfl, equal⟩
      · rintro ⟨_, ⟨⟩, equal⟩
        exact equal

theorem require_eq_ok_iff {condition : Prop} [Decidable condition]
    {failure : Failure} :
    require condition failure = .ok () ↔ condition := by
  unfold require
  split_ifs with holds <;> simp [holds]

theorem whenever_eq_ok_iff {condition : Prop} [Decidable condition]
    {checks : Except Failure Unit} :
    whenever condition checks = .ok () ↔
      (condition → checks = .ok ()) := by
  unfold whenever
  split_ifs with holds <;> simp [holds]

theorem verify_eq_ok_iff {check : Except Failure Result} :
    verify check = .ok () ↔ ∃ value, check = .ok value := by
  cases check <;> simp [verify, Except.map]

/-- A sequence of two checks without results. -/
theorem unit_bind_eq_ok_iff {check : Except Failure Unit}
    {continuation : Unit → Except Failure Next} {result : Next} :
    (check >>= continuation) = .ok result ↔
      check = .ok () ∧ continuation () = .ok result := by
  rw [bind_eq_ok_iff]
  constructor
  · rintro ⟨⟨⟩, checked, rest⟩
    exact ⟨checked, rest⟩
  · rintro ⟨checked, rest⟩
    exact ⟨(), checked, rest⟩

/-! ## What a computation raises -/

/-- Whatever the computation raises has the property. -/
def RaisesOnly (property : Failure → Prop) (check : Except Failure Result) :
    Prop :=
  ∀ failure, check = .error failure → property failure

section RaisesOnly

variable {property : Failure → Prop}

theorem raisesOnly_ok (result : Result) :
    RaisesOnly property (.ok result) := by
  rintro failure ⟨⟩

theorem raisesOnly_error {failure : Failure} (holds : property failure) :
    RaisesOnly property (.error failure : Except Failure Result) := by
  rintro _ ⟨⟩
  exact holds

theorem raisesOnly_require {condition : Prop} [Decidable condition]
    {failure : Failure} (holds : property failure) :
    RaisesOnly property (require condition failure) := by
  unfold require
  split_ifs
  · exact raisesOnly_ok ()
  · exact raisesOnly_error holds

theorem RaisesOnly.bind {check : Except Failure Result}
    {continuation : Result → Except Failure Next}
    (first : RaisesOnly property check)
    (rest : ∀ result, check = .ok result →
      RaisesOnly property (continuation result)) :
    RaisesOnly property (check >>= continuation) := by
  cases check with
  | error failure =>
      rintro _ ⟨⟩
      exact first failure rfl
  | ok result => exact rest result rfl

end RaisesOnly

/-- A property of the items processed so far, kept by every step of a loop. -/
theorem foldlM_induct {State Item : Type}
    {step : State → Item → Except Failure State} {items : List Item}
    {first final : State} (holds : List Item → State → Prop)
    (ran : items.foldlM step first = .ok final)
    (start : holds [] first)
    (kept : ∀ done item before after, done ++ [item] <+: items →
      holds done before → step before item = .ok after →
        holds (done ++ [item]) after) :
    holds items final := by
  have general : ∀ rest done state, items = done ++ rest →
      holds done state → rest.foldlM step state = .ok final →
        holds items final := by
    intro rest
    induction rest with
    | nil =>
        rintro done state split stateHolds ⟨⟩
        rw [split, List.append_nil]
        exact stateHolds
    | cons item rest ih =>
        intro done state split stateHolds continued
        rw [List.foldlM_cons, bind_eq_ok_iff] at continued
        obtain ⟨next, stepped, continued⟩ := continued
        apply ih (done ++ [item]) next (by simp [split]) _ continued
        exact kept _ _ _ _ ⟨rest, by simp [split]⟩ stateHolds stepped
  exact general items [] first rfl start ran

/-- A loop whose every step succeeds and keeps a property succeeds. -/
theorem foldlM_succeeds {State Item : Type}
    {step : State → Item → Except Failure State} {items : List Item}
    {first : State} (holds : List Item → State → Prop)
    (start : holds [] first)
    (kept : ∀ done item before, done ++ [item] <+: items →
      holds done before →
        ∃ after, step before item = .ok after ∧ holds (done ++ [item]) after) :
    ∃ final, items.foldlM step first = .ok final ∧ holds items final := by
  have general : ∀ rest done state, items = done ++ rest →
      holds done state →
        ∃ final, rest.foldlM step state = .ok final ∧ holds items final := by
    intro rest
    induction rest with
    | nil =>
        intro done state split stateHolds
        rw [split, List.append_nil]
        exact ⟨state, rfl, stateHolds⟩
    | cons item rest ih =>
        intro done state split stateHolds
        rcases kept done item state ⟨rest, by simp [split]⟩ stateHolds with
          ⟨next, stepped, nextHolds⟩
        rcases ih (done ++ [item]) next (by simp [split]) nextHolds with
          ⟨final, continued, finalHolds⟩
        refine ⟨final, ?_, finalHolds⟩
        rw [List.foldlM_cons, bind_eq_ok_iff]
        exact ⟨next, stepped, continued⟩
  exact general items [] first rfl start

/-- Two folds over the same items whose steps keep a relation. -/
theorem foldlM_related {State Other Item : Type}
    {step : State → Item → Except Failure State}
    {otherStep : Other → Item → Except Failure Other}
    {relation : State → Other → Prop} {items : List Item}
    {first final : State} {otherFirst otherFinal : Other}
    (kept : ∀ before otherBefore item after otherAfter,
      relation before otherBefore → step before item = .ok after →
        otherStep otherBefore item = .ok otherAfter →
          relation after otherAfter)
    (start : relation first otherFirst)
    (ran : items.foldlM step first = .ok final)
    (otherRan : items.foldlM otherStep otherFirst = .ok otherFinal) :
    relation final otherFinal := by
  induction items generalizing first otherFirst with
  | nil =>
      cases ran
      cases otherRan
      exact start
  | cons item rest ih =>
      rw [List.foldlM_cons, bind_eq_ok_iff] at ran otherRan
      rcases ran with ⟨next, stepped, later⟩
      rcases otherRan with ⟨otherNext, otherStepped, otherLater⟩
      exact ih (kept _ _ _ _ _ start stepped otherStepped) later otherLater

end OpenEventIm.Foundation.Checked
