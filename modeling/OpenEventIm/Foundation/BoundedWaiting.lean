import Mathlib.Data.List.Count
import OpenEventIm.Foundation.LabelledPaths

/-!
# Bounded waiting

Something waits in a system of labelled steps, some of which count.  When no
step sends it back and every step that counts brings it nearer, it is served
before more steps have counted than it was away.

In a system that serves two kinds of work in turn, a step that counts either
serves the kind that waits, or gives the turn to it.
-/

namespace OpenEventIm.Foundation.BoundedWaiting

open OpenEventIm.Foundation.LabelledPaths

variable {State Label : Type}

/-- Every step serves what waits or lets it wait, and brings it nearer when it
counts. -/
structure Approaches (Step : State → Label → State → Prop)
    (counts : Label → Bool) (Waits Served : State → Prop)
    (distance : State → Nat) : Prop where
  kept : ∀ {before label after}, Step before label after → Served before →
    Served after
  nearer : ∀ {before label after}, Step before label after → Waits before →
    Served after ∨
      Waits after ∧ distance after + (counts label).toNat ≤ distance before

section Approaches

variable {Step : State → Label → State → Prop} {counts : Label → Bool}
  {Waits Served : State → Prop} {distance : State → Nat}
  {labels : List Label} {first last : State}

/-- What still waits after a path is nearer by the steps that counted. -/
theorem Approaches.path
    (approaches : Approaches Step counts Waits Served distance)
    (path : Path Step first labels last) (waits : Waits first) :
    Served last ∨
      Waits last ∧ distance last + labels.countP counts ≤ distance first := by
  induction path with
  | refl => exact Or.inr ⟨waits, Nat.le_refl _⟩
  | @tail labels label middle last _ step ih =>
      rcases ih with served | ⟨waiting, within⟩
      · exact Or.inl (approaches.kept step served)
      · refine (approaches.nearer step waiting).imp_right ?_
        rintro ⟨still, nearer⟩
        refine ⟨still, ?_⟩
        have counted : (labels ++ [label]).countP counts =
            labels.countP counts + (counts label).toNat := by
          rw [List.countP_append, List.countP_singleton]
          cases counts label <;> rfl
        omega

/-- It is served once more steps have counted than it was away. -/
theorem Approaches.served
    (approaches : Approaches Step counts Waits Served distance)
    (path : Path Step first labels last) (waits : Waits first)
    (enough : distance first < labels.countP counts) : Served last := by
  rcases approaches.path path waits with served | ⟨-, within⟩
  · exact served
  · omega

end Approaches

/-- Two kinds of work are served in turn, and one of them is asked about:
`ahead` counts what is served before it, and `others` says that the other kind
has the turn. -/
structure TakesTurns (Step : State → Label → State → Prop)
    (counts : Label → Bool) (Waits Served : State → Prop)
    (ahead : State → Nat) (others : State → Bool) : Prop where
  kept : ∀ {before label after}, Step before label after → Served before →
    Served after
  between : ∀ {before label after}, Step before label after →
    counts label = false → Waits before → Served after ∨
      Waits after ∧ ahead after ≤ ahead before ∧ others after = others before
  serves : ∀ {before label after}, Step before label after →
    counts label = true → Waits before → Served after ∨
      Waits after ∧ (ahead after < ahead before ∨
        others before = true ∧ others after = false ∧
          ahead after ≤ ahead before)

section TakesTurns

variable {Step : State → Label → State → Prop} {counts : Label → Bool}
  {Waits Served : State → Prop} {ahead : State → Nat} {others : State → Bool}
  {labels : List Label} {first last : State}

theorem TakesTurns.approaches
    (turns : TakesTurns Step counts Waits Served ahead others) :
    Approaches Step counts Waits Served
      fun state => 2 * ahead state + (others state).toNat where
  kept := turns.kept
  nearer := by
    intro before label after step waits
    cases counted : counts label with
    | false =>
        refine (turns.between step counted waits).imp_right ?_
        rintro ⟨still, fewer, same⟩
        refine ⟨still, ?_⟩
        rw [same, Bool.toNat_false]
        omega
    | true =>
        refine (turns.serves step counted waits).imp_right ?_
        rintro ⟨still, fewer | ⟨theirs, ours, notMore⟩⟩
        · refine ⟨still, ?_⟩
          have := Bool.toNat_le (others after)
          rw [Bool.toNat_true]
          omega
        · refine ⟨still, ?_⟩
          rw [theirs, ours, Bool.toNat_true, Bool.toNat_false]
          omega

/-- It waits for two steps for each one ahead, for one more when the others have
the turn, and for its own. -/
theorem TakesTurns.served
    (turns : TakesTurns Step counts Waits Served ahead others)
    (path : Path Step first labels last) (waits : Waits first)
    (enough : 2 * ahead first + (others first).toNat < labels.countP counts) :
    Served last :=
  turns.approaches.served path waits enough

end TakesTurns

end OpenEventIm.Foundation.BoundedWaiting
