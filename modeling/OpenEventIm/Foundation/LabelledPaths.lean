import Mathlib.Data.List.Induction

/-!
# Paths of a labelled step relation

A path is a finite sequence of steps together with their labels.  It grows at
its end, so that facts about whole paths follow from facts about one step more;
a path over an appended list of labels splits in the state between the two.
-/

namespace OpenEventIm.Foundation.LabelledPaths

variable {State Label : Type}

/-- The steps between two states, with their labels. -/
inductive Path (Step : State → Label → State → Prop) (first : State) :
    List Label → State → Prop where
  | refl : Path Step first [] first
  | tail {labels : List Label} {label : Label} {middle last : State}
      (path : Path Step first labels middle) (step : Step middle label last) :
      Path Step first (labels ++ [label]) last

variable {Step : State → Label → State → Prop} {first middle last : State}
  {labels more : List Label}

theorem Path.single {label : Label} (step : Step first label last) :
    Path Step first [label] last :=
  .tail .refl step

theorem Path.trans (path : Path Step first labels middle)
    (rest : Path Step middle more last) :
    Path Step first (labels ++ more) last := by
  induction rest with
  | refl =>
      rw [List.append_nil]
      exact path
  | tail _ step ih =>
      rw [← List.append_assoc]
      exact .tail ih step

theorem path_nil_iff : Path Step first [] last ↔ last = first := by
  constructor
  · intro path
    generalize same : ([] : List Label) = all at path
    cases path with
    | refl => rfl
    | tail =>
        have length := congrArg List.length same
        simp at length
  · rintro rfl
    exact .refl

theorem path_concat_iff {label : Label} :
    Path Step first (labels ++ [label]) last ↔
      ∃ middle, Path Step first labels middle ∧ Step middle label last := by
  constructor
  · intro path
    generalize same : labels ++ [label] = all at path
    cases path with
    | refl => simp at same
    | tail path step =>
        rcases List.append_inj' same rfl with ⟨rfl, equal⟩
        cases equal
        exact ⟨_, path, step⟩
  · rintro ⟨middle, path, step⟩
    exact .tail path step

/-- A path splits wherever its labels do. -/
theorem path_append_iff :
    Path Step first (labels ++ more) last ↔
      ∃ middle, Path Step first labels middle ∧
        Path Step middle more last := by
  constructor
  · intro path
    induction more using List.reverseRecOn generalizing last with
    | nil =>
        rw [List.append_nil] at path
        exact ⟨last, path, .refl⟩
    | append_singleton more label ih =>
        rw [← List.append_assoc] at path
        rcases path_concat_iff.mp path with ⟨reached, path, step⟩
        rcases ih path with ⟨middle, path, rest⟩
        exact ⟨middle, path, .tail rest step⟩
  · rintro ⟨middle, path, rest⟩
    exact path.trans rest

theorem path_cons_iff {label : Label} :
    Path Step first (label :: labels) last ↔
      ∃ middle, Step first label middle ∧ Path Step middle labels last := by
  have split := @path_append_iff _ _ Step first last [label] labels
  rw [List.singleton_append] at split
  rw [split]
  constructor
  · rintro ⟨middle, path, rest⟩
    rcases path_concat_iff.mp (List.nil_append [label] ▸ path) with
      ⟨start, none, step⟩
    cases path_nil_iff.mp none
    exact ⟨middle, step, rest⟩
  · rintro ⟨middle, step, rest⟩
    exact ⟨middle, .single step, rest⟩

end OpenEventIm.Foundation.LabelledPaths
