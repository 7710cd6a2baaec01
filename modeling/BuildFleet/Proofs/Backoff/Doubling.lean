import BuildFleet.Backoff
import BuildFleet.Proofs.Time.Spans
import Mathlib.Algebra.Group.Nat.Defs
import Mathlib.Data.List.Induction
import Mathlib.Order.Monotone.Basic

/-!
# Delays double up to the limit

A backoff is asked for delays and reset, in any order. What it hands out depends on how many
delays it has handed out in a row: the first one is the initial delay, and each one after it is
the initial delay doubled so often, or the limit where that is shorter. The limit comes after
the doubling, so a call can fail although the delays themselves are short enough.
-/

namespace BuildFleet

namespace Backoff

variable {initial limit : Span} {backoff later : Backoff} {delay : Span}
  {answers earlier : List (Option Span)} {answer : Option Span}

/-- The delay that comes after so many others in a row. -/
def delayAfter (initial limit : Span) : Nat → Span
  | 0 => initial
  | handed + 1 => ⟨min (initial.nanoseconds * 2 ^ (handed + 1)) limit.nanoseconds,
      lt_of_le_of_lt (Nat.min_le_right _ _) limit.inRange⟩

/-- The delays that were handed out since the last reset. -/
def row (answers : List (Option Span)) : List Span :=
  answers.foldl (fun delays answer => answer.elim [] fun delay => delays ++ [delay]) []

/-- Calls that came through, with their answers: a delay for each call that asked for one, and
nothing for each reset. -/
inductive Run (initial limit : Span) : List (Option Span) → Backoff → Prop
  | start : Run initial limit [] (start initial limit)
  | next {answers : List (Option Span)} {backoff later : Backoff} {delay : Span}
      (run : Run initial limit answers backoff) (hands : backoff.next = some (delay, later)) :
      Run initial limit (answers ++ [some delay]) later
  | reset {answers : List (Option Span)} {backoff : Backoff}
      (run : Run initial limit answers backoff) :
      Run initial limit (answers ++ [none]) backoff.reset

/-! ## The closed form -/

/-- To double a delay and to cut it is to double the initial one once more. -/
theorem min_delayAfter (initial limit : Span) (handed : Nat) :
    min (2 * (delayAfter initial limit handed).nanoseconds) limit.nanoseconds =
      (delayAfter initial limit (handed + 1)).nanoseconds := by
  cases handed with
  | zero => simp [delayAfter, Nat.mul_comm]
  | succ handed =>
      simp only [delayAfter, Nat.pow_succ, ← Nat.mul_assoc]
      omega

section Increasing

variable (within : initial ≤ limit)

include within

theorem delayAfter_le_limit (handed : Nat) : delayAfter initial limit handed ≤ limit := by
  cases handed with
  | zero => exact within
  | succ handed => exact Nat.min_le_right _ _

theorem delayAfter_monotone :
    Monotone fun handed => (delayAfter initial limit handed).nanoseconds := by
  apply monotone_nat_of_le_succ
  intro handed
  have cut := min_delayAfter initial limit handed
  have below : (delayAfter initial limit handed).nanoseconds ≤ limit.nanoseconds :=
    delayAfter_le_limit within handed
  omega

end Increasing

/-! ## One call -/

theorem next_eq_none_iff :
    backoff.next = none ↔ Span.longest.nanoseconds < 2 * backoff.current.nanoseconds := by
  simp [next, Span.twice?_eq_none_iff]

theorem of_next (hands : backoff.next = some (delay, later)) :
    delay = backoff.current ∧ later.initial = backoff.initial ∧ later.limit = backoff.limit ∧
      later.current.nanoseconds =
        min (2 * backoff.current.nanoseconds) backoff.limit.nanoseconds := by
  simp only [next, Option.map_eq_some_iff, Prod.mk.injEq] at hands
  obtain ⟨doubled, twice, rfl, rfl⟩ := hands
  rw [Span.twice?_eq_some_iff] at twice
  simp [Span.nanoseconds_shorter, twice]

/-! ## Any calls -/

@[simp] theorem row_delay : row (answers ++ [some delay]) = row answers ++ [delay] := by
  simp [row]

@[simp] theorem row_reset : row (answers ++ [none]) = [] := by
  simp [row]

theorem row_delays (answers : List (Option Span)) (delays : List Span) :
    row (answers ++ delays.map some) = row answers ++ delays := by
  induction delays using List.reverseRec with
  | nil => simp
  | append_singleton delays delay induction =>
      simp only [List.map_append, List.map_singleton]
      rw [← List.append_assoc, row_delay, induction, List.append_assoc]

/-- The row so far has the closed form, and its next delay is ready. -/
structure Follows (initial limit : Span) (answers : List (Option Span)) (backoff : Backoff) :
    Prop where
  sameInitial : backoff.initial = initial
  sameLimit : backoff.limit = limit
  current : backoff.current = delayAfter initial limit (row answers).length
  row_eq : row answers = (List.range (row answers).length).map (delayAfter initial limit)

theorem Follows.next (follows : Follows initial limit answers backoff)
    (hands : backoff.next = some (delay, later)) :
    Follows initial limit (answers ++ [some delay]) later := by
  have ⟨same, sameInitial, sameLimit, current⟩ := of_next hands
  constructor
  case sameInitial => rw [sameInitial, follows.sameInitial]
  case sameLimit => rw [sameLimit, follows.sameLimit]
  case current =>
    apply Span.ext_nanoseconds
    rw [current, follows.current, follows.sameLimit, min_delayAfter, row_delay,
      List.length_append, List.length_singleton]
  case row_eq =>
    rw [row_delay, List.length_append, List.length_singleton, List.range_succ, List.map_append,
      ← follows.row_eq, List.map_singleton, ← follows.current, same]

theorem Follows.reset (follows : Follows initial limit answers backoff) :
    Follows initial limit (answers ++ [none]) backoff.reset := by
  constructor
  case sameInitial => exact follows.sameInitial
  case sameLimit => exact follows.sameLimit
  case current =>
    rw [row_reset]
    exact follows.sameInitial
  case row_eq => simp

theorem Run.follows (run : Run initial limit answers backoff) :
    Follows initial limit answers backoff := by
  induction run with
  | start => exact ⟨rfl, rfl, rfl, rfl⟩
  | next run hands induction => exact induction.next hands
  | reset run induction => exact induction.reset

theorem Run.le_limit (run : Run initial limit answers backoff) (within : initial ≤ limit) :
    ∀ delay, some delay ∈ answers → delay ≤ limit := by
  induction run with
  | start => simp
  | next run hands induction =>
      intro delay handed
      rcases List.mem_append.mp handed with before | last
      · exact induction delay before
      · have same := (of_next hands).1
        rw [run.follows.current] at same
        simp only [List.mem_singleton, Option.some.injEq] at last
        rw [last, same]
        exact delayAfter_le_limit within _
  | reset run induction => simpa using induction

theorem Run.row_increases (run : Run initial limit answers backoff) (within : initial ≤ limit) :
    (row answers).Pairwise (· ≤ ·) := by
  rw [run.follows.row_eq, List.pairwise_map]
  apply List.pairwise_lt_range.imp
  intro handed more fewer
  exact delayAfter_monotone within (Nat.le_of_lt fewer)

/-! Every first part of the calls is a run by itself, so what holds of the row at the end holds
of every row. -/

theorem Run.before_last (run : Run initial limit (answers ++ [answer]) backoff) :
    ∃ before, Run initial limit answers before := by
  generalize whole : answers ++ [answer] = all at run
  cases run with
  | start => simp at whole
  | next run hands =>
      have ⟨same, _⟩ := List.append_inj' whole rfl
      exact ⟨_, same ▸ run⟩
  | reset run =>
      have ⟨same, _⟩ := List.append_inj' whole rfl
      exact ⟨_, same ▸ run⟩

theorem Run.first_part {others : List (Option Span)}
    (run : Run initial limit (answers ++ others) backoff) :
    ∃ before, Run initial limit answers before := by
  induction others using List.reverseRec generalizing backoff with
  | nil => exact ⟨backoff, by simpa using run⟩
  | append_singleton others answer induction =>
      rw [← List.append_assoc] at run
      have ⟨before, shorter⟩ := run.before_last
      exact induction shorter

theorem Run.increases {delays : List Span} {others : List (Option Span)}
    (run : Run initial limit (answers ++ delays.map some ++ others) backoff)
    (within : initial ≤ limit) : delays.Pairwise (· ≤ ·) := by
  have ⟨before, part⟩ := run.first_part
  have increases := part.row_increases within
  rw [row_delays] at increases
  exact (List.pairwise_append.mp increases).2.1

/-- After any calls the next delay is told by the number of delays since the last reset, and
there is none exactly where twice its length is too long for a span. With an initial delay
within the limit no delay is longer than the limit, the delays between two resets never get
shorter, and no call fails if twice the limit is a span. -/
theorem Run.doubles (run : Run initial limit answers backoff) :
    let delay := delayAfter initial limit (row answers).length
    (∀ handed later, backoff.next = some (handed, later) → handed = delay) ∧
      (backoff.next = none ↔ Span.longest.nanoseconds < 2 * delay.nanoseconds) ∧
      (initial ≤ limit →
        (∀ handed, some handed ∈ answers → handed ≤ limit) ∧
        (∀ before (delays : List Span) after, answers = before ++ delays.map some ++ after →
          delays.Pairwise (· ≤ ·)) ∧
        (2 * limit.nanoseconds ≤ Span.longest.nanoseconds → backoff.next ≠ none)) := by
  intro delay
  have current : backoff.current = delay := run.follows.current
  have fails : backoff.next = none ↔ Span.longest.nanoseconds < 2 * delay.nanoseconds := by
    rw [next_eq_none_iff, current]
  constructor
  · intro handed later hands
    rw [(of_next hands).1, current]
  · constructor
    · exact fails
    · intro within
      refine ⟨run.le_limit within, ?_, ?_⟩
      · intro before delays after parts
        subst parts
        exact run.increases within
      · intro fits failed
        have long := fails.mp failed
        have short : delay.nanoseconds ≤ limit.nanoseconds := delayAfter_le_limit within _
        omega

end Backoff

/-! ## A sample row -/

namespace Sample

/-- One second and two seconds, and after a reset one second, two, four and five. -/
def backoffAnswers : List (Option Span) :=
  [some (.ofSeconds 1), some (.ofSeconds 2), none, some (.ofSeconds 1), some (.ofSeconds 2),
    some (.ofSeconds 4), some (.ofSeconds 5)]

theorem backoffAnswers_run : ∃ backoff,
    Backoff.Run (.ofSeconds 1) (.ofSeconds 5) backoffAnswers backoff := by
  have begins : Backoff.Run (.ofSeconds 1) (.ofSeconds 5) [] (.start _ _) := .start
  have reset := ((begins.next rfl).next rfl).reset
  exact ⟨_, (((reset.next rfl).next rfl).next rfl).next rfl⟩

end Sample

theorem Backoff.sample_doubles : ∃ backoff,
    Run (.ofSeconds 1) (.ofSeconds 5) Sample.backoffAnswers backoff ∧ backoff.next ≠ none ∧
      (∀ handed later, backoff.next = some (handed, later) → handed = .ofSeconds 5) ∧
      [Span.ofSeconds 1, .ofSeconds 2, .ofSeconds 4, .ofSeconds 5].Pairwise (· ≤ ·) := by
  rcases Sample.backoffAnswers_run with ⟨backoff, run⟩
  rcases run.doubles with ⟨hands, fails, limited⟩
  rcases limited (by decide) with ⟨_, increase, answered⟩
  refine ⟨backoff, run, answered (by decide), ?_, ?_⟩
  · intro handed later comes
    rw [hands handed later comes]
    decide
  · exact increase [some (.ofSeconds 1), some (.ofSeconds 2), none] _ [] rfl

end BuildFleet
