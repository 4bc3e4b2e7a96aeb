import Mathlib.Data.List.Basic
import Mathlib.Data.List.Infix
import Mathlib.Data.List.Nodup

/-!
# Append-only logs with sequence numbers

A sequenced log is a list of entries in increasing number, together with the
least number its owner may still assign.  Logs only grow: an entry is appended
at or above the frontier, and a reader who was told that everything below some
number has been shown to him reserves that number.

A half-open range of numbers below the frontier is therefore final, and reading
the log in consecutive ranges reads it once and in order, whatever was appended
in between.
-/

namespace OpenEventIm.Foundation

/-- Entries in increasing number; numbers are positive and fit the limit. -/
structure SequencedLog (Entry : Type) (number : Entry → Nat)
    (limit : Nat) where
  entries : List Entry
  /-- The least number that may still be assigned. -/
  frontier : Nat
  increasing : entries.Pairwise fun left right => number left < number right
  positive : ∀ entry ∈ entries, 0 < number entry
  started : 0 < frontier
  below : ∀ entry ∈ entries, number entry < frontier
  bounded : ∀ entry ∈ entries, number entry ≤ limit

namespace SequencedLog

variable {Entry : Type} {number : Entry → Nat} {limit : Nat}

/-- The log before the first entry. -/
def empty : SequencedLog Entry number limit where
  entries := []
  frontier := 1
  increasing := List.Pairwise.nil
  positive := by simp
  started := Nat.one_pos
  below := by simp
  bounded := by simp

instance : Inhabited (SequencedLog Entry number limit) := ⟨empty⟩

variable {log old middle new : SequencedLog Entry number limit}

/-! ## The last number -/

/-- The number of the last entry, 0 for the empty log. -/
def last (log : SequencedLog Entry number limit) : Nat :=
  (log.entries.getLast?.map number).getD 0

theorem last_append {before : List Entry} {final : Entry}
    (split : log.entries = before ++ [final]) : log.last = number final := by
  simp [last, split]

theorem number_le_last {entry : Entry} (member : entry ∈ log.entries) :
    number entry ≤ log.last := by
  have nonempty := List.ne_nil_of_mem member
  have split := (List.dropLast_append_getLast nonempty).symm
  have increasing := log.increasing
  rw [last_append split]
  rw [split, List.pairwise_append] at increasing
  rw [split, List.mem_append, List.mem_singleton] at member
  rcases member with inside | equal
  · exact (increasing.2.2 entry inside _ (List.mem_singleton_self _)).le
  · exact le_of_eq (congrArg number equal)

theorem exists_number_eq_last (nonempty : 0 < log.last) :
    ∃ entry ∈ log.entries, number entry = log.last := by
  have notNil : log.entries ≠ [] := by
    intro isNil
    simp [last, isNil] at nonempty
  have split := (List.dropLast_append_getLast notNil).symm
  exact ⟨_, List.getLast_mem notNil, (last_append split).symm⟩

theorem last_le_of_forall {bound : Nat}
    (small : ∀ entry ∈ log.entries, number entry ≤ bound) :
    log.last ≤ bound := by
  rcases Nat.eq_zero_or_pos log.last with isZero | isPositive
  · rw [isZero]
    exact Nat.zero_le bound
  · obtain ⟨entry, member, equal⟩ := exists_number_eq_last isPositive
    exact equal ▸ small entry member

theorem last_le_limit : log.last ≤ limit :=
  last_le_of_forall log.bounded

theorem number_injective {left right : Entry} (leftMember : left ∈ log.entries)
    (rightMember : right ∈ log.entries) (equal : number left = number right) :
    left = right := by
  have distinct : (log.entries.map number).Nodup := by
    apply List.Pairwise.imp Nat.ne_of_lt
    exact List.pairwise_map.mpr log.increasing
  exact List.inj_on_of_nodup_map distinct leftMember rightMember equal

/-- Of two entries, the one with the smaller number comes first. -/
theorem exists_split_of_lt {left right : Entry}
    (leftMember : left ∈ log.entries) (rightMember : right ∈ log.entries)
    (less : number left < number right) : ∃ first middle last,
      log.entries = first ++ left :: (middle ++ right :: last) := by
  rcases List.append_of_mem rightMember with ⟨before, last, split⟩
  have increasing := log.increasing
  rw [split] at increasing leftMember
  rcases List.pairwise_append.mp increasing with ⟨-, after, -⟩
  have inside : left ∈ before := by
    rcases List.mem_append.mp leftMember with earlier | later
    · exact earlier
    · rcases List.mem_cons.mp later with rfl | beyond
      · exact absurd less (Nat.lt_irrefl _)
      · exact absurd ((List.pairwise_cons.mp after).1 left beyond)
          (Nat.lt_asymm less)
  rcases List.append_of_mem inside with ⟨first, middle, whole⟩
  refine ⟨first, middle, last, ?_⟩
  rw [split, whole, List.append_assoc, List.cons_append]

/-! ## Growth -/

/-- The new log continues the old one, at or above its frontier. -/
def Extends (old new : SequencedLog Entry number limit) : Prop :=
  old.frontier ≤ new.frontier ∧
    ∃ added, new.entries = old.entries ++ added ∧
      ∀ entry ∈ added, old.frontier ≤ number entry

/-- One entry is appended. -/
def Appends (old : SequencedLog Entry number limit) (entry : Entry)
    (new : SequencedLog Entry number limit) : Prop :=
  old.frontier ≤ new.frontier ∧
    new.entries = old.entries ++ [entry] ∧ old.frontier ≤ number entry

/-- No entry is appended, and none will be below the reserved number. -/
def Reserves (old : SequencedLog Entry number limit) (reserved : Nat)
    (new : SequencedLog Entry number limit) : Prop :=
  old.frontier ≤ new.frontier ∧
    new.entries = old.entries ∧ reserved ≤ new.frontier

theorem Extends.refl (log : SequencedLog Entry number limit) :
    log.Extends log :=
  ⟨le_rfl, [], by simp, by simp⟩

theorem Extends.trans (first : old.Extends middle)
    (second : middle.Extends new) : old.Extends new := by
  obtain ⟨firstFrontier, firstAdded, firstSplit, firstFresh⟩ := first
  obtain ⟨secondFrontier, secondAdded, secondSplit, secondFresh⟩ := second
  refine ⟨firstFrontier.trans secondFrontier, firstAdded ++ secondAdded,
    by rw [secondSplit, firstSplit, List.append_assoc], ?_⟩
  intro entry member
  rcases List.mem_append.mp member with inFirst | inSecond
  · exact firstFresh entry inFirst
  · exact firstFrontier.trans (secondFresh entry inSecond)

theorem Appends.extends {entry : Entry} (appends : old.Appends entry new) :
    old.Extends new := by
  refine ⟨appends.1, [entry], appends.2.1, ?_⟩
  simpa using appends.2.2

theorem Reserves.extends {reserved : Nat} (reserves : old.Reserves reserved new) :
    old.Extends new :=
  ⟨reserves.1, [], by simp [reserves.2.1], by simp⟩

theorem Extends.isPrefix (grown : old.Extends new) :
    old.entries <+: new.entries := by
  obtain ⟨_, added, split, _⟩ := grown
  exact ⟨added, split.symm⟩

theorem Extends.mem (grown : old.Extends new) {entry : Entry}
    (member : entry ∈ old.entries) : entry ∈ new.entries :=
  grown.isPrefix.subset member

/-- An entry below the old frontier was there before. -/
theorem Extends.mem_of_lt (grown : old.Extends new) {entry : Entry}
    (member : entry ∈ new.entries) (small : number entry < old.frontier) :
    entry ∈ old.entries := by
  obtain ⟨_, added, split, fresh⟩ := grown
  rw [split, List.mem_append] at member
  rcases member with there | isAdded
  · exact there
  · exact absurd small (Nat.not_lt.mpr (fresh entry isAdded))

theorem Extends.last_le (grown : old.Extends new) : old.last ≤ new.last :=
  last_le_of_forall fun _ member => number_le_last (grown.mem member)

theorem last_lt_of_appends {entry : Entry} (appends : old.Appends entry new) :
    old.last < number entry := by
  rcases Nat.eq_zero_or_pos old.last with isZero | isPositive
  · rw [isZero]
    apply new.positive
    rw [appends.2.1]
    exact List.mem_append_right _ (List.mem_singleton_self entry)
  · obtain ⟨final, member, equal⟩ := exists_number_eq_last isPositive
    rw [← equal]
    exact (old.below final member).trans_le appends.2.2

/-- The log with one more entry. -/
def push (log : SequencedLog Entry number limit) (entry : Entry)
    (fresh : log.frontier ≤ number entry) (isPositive : 0 < number entry)
    (small : number entry ≤ limit) : SequencedLog Entry number limit where
  entries := log.entries ++ [entry]
  frontier := number entry + 1
  increasing := by
    rw [List.pairwise_append]
    refine ⟨log.increasing, List.pairwise_singleton _ _, ?_⟩
    intro earlier member final isFinal
    rw [List.mem_singleton.mp isFinal]
    exact (log.below earlier member).trans_le fresh
  positive := by
    intro other member
    rcases List.mem_append.mp member with earlier | final
    · exact log.positive other earlier
    · rw [List.mem_singleton.mp final]
      exact isPositive
  started := Nat.succ_pos _
  below := by
    intro other member
    rcases List.mem_append.mp member with earlier | final
    · exact Nat.lt_succ_of_lt ((log.below other earlier).trans_le fresh)
    · rw [List.mem_singleton.mp final]
      exact Nat.lt_succ_self _
  bounded := by
    intro other member
    rcases List.mem_append.mp member with earlier | final
    · exact log.bounded other earlier
    · rw [List.mem_singleton.mp final]
      exact small

theorem appends_push {entry : Entry} (fresh : log.frontier ≤ number entry)
    (isPositive : 0 < number entry) (small : number entry ≤ limit) :
    log.Appends entry (log.push entry fresh isPositive small) :=
  ⟨Nat.le_succ_of_le fresh, rfl, fresh⟩

/-! ## Ranges -/

/-- The entries of a half-open range of numbers. -/
def range (log : SequencedLog Entry number limit) (low high : Nat) :
    List Entry :=
  log.entries.filter fun entry => low ≤ number entry ∧ number entry < high

theorem mem_range {low high : Nat} {entry : Entry} :
    entry ∈ log.range low high ↔
      entry ∈ log.entries ∧ low ≤ number entry ∧ number entry < high := by
  simp [range]

private theorem filter_range_append {entries : List Entry}
    (increasing : entries.Pairwise fun left right =>
      number left < number right)
    {low mid high : Nat} (first : low ≤ mid) (second : mid ≤ high) :
    (entries.filter fun entry => low ≤ number entry ∧ number entry < mid) ++
        (entries.filter fun entry =>
          mid ≤ number entry ∧ number entry < high) =
      entries.filter fun entry =>
        low ≤ number entry ∧ number entry < high := by
  induction entries with
  | nil => rfl
  | cons entry rest ih =>
      obtain ⟨head, tail⟩ := List.pairwise_cons.mp increasing
      have restSplit := ih tail
      rcases Nat.lt_or_ge (number entry) mid with small | large
      · have notLater : ¬mid ≤ number entry := Nat.not_le.mpr small
        have belowHigh : number entry < high := small.trans_le second
        rcases Nat.lt_or_ge (number entry) low with below | above
        · simpa [List.filter_cons, Nat.not_le.mpr below, notLater] using
            restSplit
        · simpa [List.filter_cons, above, small, notLater, belowHigh] using
            restSplit
      · -- everything from here on lies in the second range
        have noneBefore : (rest.filter fun entry =>
            low ≤ number entry ∧ number entry < mid) = [] := by
          apply List.filter_eq_nil_iff.mpr
          intro other member
          have := head other member
          simp only [decide_eq_true_eq]
          omega
        rw [noneBefore, List.nil_append] at restSplit
        have notEarlier : ¬number entry < mid := Nat.not_lt.mpr large
        simp only [List.filter_cons, noneBefore, restSplit, notEarlier,
          large, first.trans large, and_false, true_and, decide_false,
          Bool.false_eq_true, if_false, List.nil_append]

/-- Consecutive ranges compose. -/
theorem range_append {low mid high : Nat} (first : low ≤ mid)
    (second : mid ≤ high) :
    log.range low mid ++ log.range mid high = log.range low high :=
  filter_range_append log.increasing first second

/-- A range below the frontier is final. -/
theorem Extends.range_eq (grown : old.Extends new) {low high : Nat}
    (final : high ≤ old.frontier) : new.range low high = old.range low high := by
  obtain ⟨_, added, split, fresh⟩ := grown
  have noneAdded : (added.filter fun entry =>
      low ≤ number entry ∧ number entry < high) = [] := by
    apply List.filter_eq_nil_iff.mpr
    intro entry member
    have := fresh entry member
    simp only [decide_eq_true_eq]
    omega
  rw [range, split, List.filter_append, noneAdded, List.append_nil]
  rfl

/-- Beyond the last number a range takes in nothing more. -/
theorem range_of_last_lt {low high : Nat} (beyond : log.last < high) :
    log.range low high = log.range low (log.last + 1) := by
  apply List.filter_congr
  intro entry member
  have := number_le_last member
  simp only [decide_eq_decide]
  omega

/-- All entries are below the frontier. -/
theorem range_frontier : log.range 0 log.frontier = log.entries := by
  apply List.filter_eq_self.mpr
  intro entry member
  simpa using log.below entry member

theorem last_lt_frontier : log.last < log.frontier := by
  rcases Nat.eq_zero_or_pos log.last with isZero | isPositive
  · rw [isZero]
    exact log.started
  · obtain ⟨entry, member, equal⟩ := exists_number_eq_last isPositive
    exact equal ▸ log.below entry member

end SequencedLog

end OpenEventIm.Foundation
