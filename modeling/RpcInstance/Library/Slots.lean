/-
This file develops an allocator of numbered slots under a clock. A slot is a tick
of the clock and an index within it; a tick has room for `capacity` indices. Each
request reads the clock. A reading equal to the tick of the last slot takes the
next index, or borrows slot `0` of the following tick when the indices are used
up; any other reading starts over at index `0` of the tick it names.

Three questions are settled. The slots of a run increase exactly when no request
reads a tick behind the slot before it (`pairwise_issued_iff`). On a clock that
never runs backwards that is also exactly when they are distinct
(`nodup_issued_iff`), because a request that falls behind a borrowed tick asks
for a slot that was issued already. And on such a clock it can be read off the
load alone (`neverBehind_iff_load`): no window of the clock is asked for more than
one slot beyond its capacity.
-/

import Mathlib.Data.Prod.Lex
import Mathlib.Data.Finset.Prod
import Mathlib.Data.Finset.Card
import Mathlib.Order.Interval.Finset.Nat
import Mathlib.Data.List.Chain
import Mathlib.Tactic.Ring
import Mathlib.Tactic.Linarith
import RpcInstance.Library.Runs

/-- A slot: a tick of the clock and an index within the tick. -/
@[ext] structure Slot where
  tick : ℕ
  index : ℕ
  deriving DecidableEq

namespace Slot

/-- Slots are ordered by tick, and within a tick by index. -/
instance : LinearOrder Slot :=
  LinearOrder.lift' (fun slot => toLex (slot.tick, slot.index)) fun _ _ equal =>
    Slot.ext (congrArg (fun pair => (ofLex pair).1) equal)
      (congrArg (fun pair => (ofLex pair).2) equal)

theorem lt_iff (first second : Slot) :
    first < second ↔
      first.tick < second.tick ∨ first.tick = second.tick ∧ first.index < second.index :=
  Prod.Lex.toLex_lt_toLex (x := (first.tick, first.index)) (y := (second.tick, second.index))

end Slot

namespace Slots

open Runs

variable (capacity : ℕ)

/-! ### One request -/

/-- The slot issued to a request that reads the clock as `reading` after the slot `current`. -/
def advance (current : Slot) (reading : ℕ) : Slot :=
  if current.tick = reading then
    if current.index + 1 = capacity then ⟨reading + 1, 0⟩ else ⟨reading, current.index + 1⟩
  else ⟨reading, 0⟩

/-- What a request can do: take the next index of the tick, borrow the following tick, or
start over at the tick it reads. -/
theorem advance_cases (current : Slot) (reading : ℕ) :
    (current.tick = reading ∧ current.index + 1 ≠ capacity ∧
      advance capacity current reading = ⟨reading, current.index + 1⟩) ∨
    (current.tick = reading ∧ current.index + 1 = capacity ∧
      advance capacity current reading = ⟨reading + 1, 0⟩) ∨
    (current.tick ≠ reading ∧ advance capacity current reading = ⟨reading, 0⟩) := by
  unfold advance
  by_cases same : current.tick = reading
  · by_cases full : current.index + 1 = capacity
    · exact Or.inr (Or.inl ⟨same, full, by rw [if_pos same, if_pos full]⟩)
    · exact Or.inl ⟨same, full, by rw [if_pos same, if_neg full]⟩
  · exact Or.inr (Or.inr ⟨same, by rw [if_neg same]⟩)

/-- A request is served in the tick it reads, or at the start of the following one. -/
theorem advance_tick (current : Slot) (reading : ℕ) :
    (advance capacity current reading).tick = reading ∨
      advance capacity current reading = ⟨reading + 1, 0⟩ := by
  obtain ⟨-, -, next⟩ | ⟨-, -, next⟩ | ⟨-, next⟩ := advance_cases capacity current reading
  · exact Or.inl (by rw [next])
  · exact Or.inr next
  · exact Or.inl (by rw [next])

variable {capacity}

theorem advance_index_lt (positive : 0 < capacity) (current : Slot) (reading : ℕ)
    (inside : current.index < capacity) :
    (advance capacity current reading).index < capacity := by
  obtain ⟨-, room, next⟩ | ⟨-, -, next⟩ | ⟨-, next⟩ := advance_cases capacity current reading
  · rw [next]
    show current.index + 1 < capacity
    omega
  · rw [next]
    exact positive
  · rw [next]
    exact positive

/-- A request moves forward exactly when it does not read a tick behind the last slot. -/
theorem lt_advance_iff (current : Slot) (reading : ℕ) :
    current < advance capacity current reading ↔ current.tick ≤ reading := by
  rw [Slot.lt_iff]
  obtain ⟨same, -, next⟩ | ⟨same, -, next⟩ | ⟨other, next⟩ :=
    advance_cases capacity current reading
  · rw [next]
    show current.tick < reading ∨ current.tick = reading ∧ current.index < current.index + 1 ↔ _
    omega
  · rw [next]
    show current.tick < reading + 1 ∨ current.tick = reading + 1 ∧ current.index < 0 ↔ _
    omega
  · rw [next]
    show current.tick < reading ∨ current.tick = reading ∧ current.index < 0 ↔ _
    omega

/-! ### Runs of requests -/

variable (capacity)

/-- The slots issued to a list of requests, in order. -/
def issued (start : Slot) (readings : List ℕ) : List Slot :=
  (history (advance capacity) start readings).map fun entry => advance capacity entry.1 entry.2

/-- No request reads a tick behind the slot issued before it. -/
def NeverBehind (start : Slot) (readings : List ℕ) : Prop :=
  ∀ entry ∈ history (advance capacity) start readings, entry.1.tick ≤ entry.2

variable {capacity}

@[simp] theorem issued_cons (start : Slot) (reading : ℕ) (rest : List ℕ) :
    issued capacity start (reading :: rest) =
      advance capacity start reading :: issued capacity (advance capacity start reading) rest :=
  rfl

theorem issued_concat (start : Slot) (before : List ℕ) (reading : ℕ) :
    issued capacity start (before ++ [reading]) =
      issued capacity start before ++
        [advance capacity (run (advance capacity) start before) reading] := by
  unfold issued
  rw [history_concat, List.map_append]
  rfl

theorem neverBehind_nil (start : Slot) : NeverBehind capacity start [] :=
  fun _ member => nomatch member

theorem neverBehind_cons (start : Slot) (reading : ℕ) (rest : List ℕ) :
    NeverBehind capacity start (reading :: rest) ↔
      start.tick ≤ reading ∧ NeverBehind capacity (advance capacity start reading) rest := by
  unfold NeverBehind
  rw [history_cons, List.forall_mem_cons]

theorem neverBehind_concat (start : Slot) (before : List ℕ) (reading : ℕ) :
    NeverBehind capacity start (before ++ [reading]) ↔
      NeverBehind capacity start before ∧
        (run (advance capacity) start before).tick ≤ reading := by
  unfold NeverBehind
  rw [history_concat, List.forall_mem_append, List.forall_mem_singleton]

/-- Readings that all come after the start, up to the last one and with it. -/
theorem ahead_concat_iff (start : Slot) (before : List ℕ) (reading : ℕ) :
    (∀ earlier ∈ before ++ [reading], start.tick < earlier) ↔
      (∀ earlier ∈ before, start.tick < earlier) ∧ start.tick < reading := by
  rw [List.forall_mem_append, List.forall_mem_singleton]

/-! ### Increasing slots -/

theorem isChain_issued_iff (start : Slot) (readings : List ℕ) :
    List.IsChain (· < ·) (start :: issued capacity start readings) ↔
      NeverBehind capacity start readings := by
  induction readings generalizing start with
  | nil => exact iff_of_true (List.isChain_singleton start) (neverBehind_nil start)
  | cons reading rest inductionHypothesis =>
    rw [issued_cons, List.isChain_cons_cons, lt_advance_iff, inductionHypothesis,
      neverBehind_cons]

/-- From a start before every reading, the issued slots increase exactly when no request
reads a tick behind the slot issued before it. -/
theorem pairwise_issued_iff (start : Slot) (readings : List ℕ)
    (ahead : ∀ reading ∈ readings, start.tick < reading) :
    (issued capacity start readings).Pairwise (· < ·) ↔
      NeverBehind capacity start readings := by
  rw [← isChain_issued_iff, List.isChain_iff_pairwise, List.pairwise_cons]
  refine ⟨fun increasing => ⟨?_, increasing⟩, And.right⟩
  intro slot member
  obtain ⟨entry, earlier, rfl⟩ := List.mem_map.mp member
  have late := ahead entry.2 (mem_labels (advance capacity) start earlier)
  rw [Slot.lt_iff]
  refine Or.inl ?_
  obtain same | borrowed := advance_tick capacity entry.1 entry.2
  · rw [same]
    exact late
  · rw [borrowed]
    exact Nat.lt_succ_of_lt late

/-! ### Distinct slots on a clock that never runs backwards -/

variable (capacity)

/-- What a run on a clock that never runs backwards has issued: slot `0` of the last tick
read, slot `0` of the tick of the last slot, and nothing further ahead than one tick. -/
structure Opened (start : Slot) (readings : List ℕ) (current : Slot) : Prop where
  behind : ∀ reading ∈ readings, reading ≤ current.tick
  near : ∃ reading ∈ readings, current.tick ≤ reading + 1 ∧
    ⟨reading, 0⟩ ∈ issued capacity start readings
  opened : ⟨current.tick, 0⟩ ∈ issued capacity start readings

variable {capacity} in
theorem opened_advance {start current : Slot} {before : List ℕ} (reading : ℕ)
    (state : current = run (advance capacity) start before)
    (late : ∀ earlier ∈ before, earlier ≤ reading)
    (known : current.tick = reading → ⟨reading, 0⟩ ∈ issued capacity start before) :
    Opened capacity start (before ++ [reading])
      (advance capacity current reading) := by
  have members : issued capacity start (before ++ [reading]) =
      issued capacity start before ++ [advance capacity current reading] := by
    rw [issued_concat, state]
  have first : (⟨reading, 0⟩ : Slot) ∈ issued capacity start (before ++ [reading]) := by
    rw [members]
    obtain ⟨same, -, -⟩ | ⟨same, -, -⟩ | ⟨-, next⟩ := advance_cases capacity current reading
    · exact List.mem_append_left _ (known same)
    · exact List.mem_append_left _ (known same)
    · exact List.mem_append_right _ (by rw [next]; exact List.mem_singleton_self _)
  obtain same | borrowed := advance_tick capacity current reading
  · refine ⟨?_, ⟨reading, by simp, by omega, first⟩, by rw [same]; exact first⟩
    intro earlier member
    rw [same]
    obtain old | new := List.mem_append.mp member
    · exact late earlier old
    · exact (List.mem_singleton.mp new).le
  · refine ⟨?_, ⟨reading, by simp, by rw [borrowed], first⟩, ?_⟩
    · intro earlier member
      rw [borrowed]
      obtain old | new := List.mem_append.mp member
      · exact Nat.le_succ_of_le (late earlier old)
      · exact (List.mem_singleton.mp new).le.trans (Nat.le_succ reading)
    · rw [members, borrowed]
      exact List.mem_append_right _ (List.mem_singleton_self _)

theorem opened_run (start : Slot) (readings : List ℕ) (sorted : readings.Pairwise (· ≤ ·))
    (ahead : ∀ reading ∈ readings, start.tick < reading) (nonempty : readings ≠ []) :
    Opened capacity start readings
      (run (advance capacity) start readings) := by
  induction readings using List.reverseRecOn with
  | nil => exact absurd rfl nonempty
  | append_singleton before reading inductionHypothesis =>
    obtain ⟨sortedBefore, -, late⟩ := List.pairwise_append.mp sorted
    obtain ⟨aheadBefore, later⟩ := (ahead_concat_iff start before reading).mp ahead
    have latest : ∀ earlier ∈ before, earlier ≤ reading :=
      fun earlier member => late earlier member reading (List.mem_singleton_self _)
    rw [run_concat]
    refine opened_advance reading rfl latest fun same => ?_
    by_cases empty : before = []
    · subst empty
      rw [run_nil] at same
      exact absurd same later.ne
    · have opened := (inductionHypothesis sortedBefore aheadBefore empty).opened
      rwa [same] at opened

variable {capacity}

/-- A request that falls behind on a clock that never runs backwards is issued a slot that was
issued before. -/
theorem advance_mem_issued (start : Slot) (before : List ℕ) (reading : ℕ)
    (sorted : (before ++ [reading]).Pairwise (· ≤ ·))
    (ahead : ∀ earlier ∈ before ++ [reading], start.tick < earlier)
    (behind : reading < (run (advance capacity) start before).tick) :
    advance capacity (run (advance capacity) start before) reading ∈
      issued capacity start before := by
  obtain ⟨aheadBefore, later⟩ := (ahead_concat_iff start before reading).mp ahead
  have nonempty : before ≠ [] := by
    rintro rfl
    rw [run_nil] at behind
    exact absurd later behind.asymm
  obtain ⟨sortedBefore, -, late⟩ := List.pairwise_append.mp sorted
  obtain ⟨-, ⟨last, member, near, opened⟩, -⟩ :=
    opened_run capacity start before sortedBefore aheadBefore nonempty
  have same : last = reading :=
    le_antisymm (late last member reading (List.mem_singleton_self _)) (by omega)
  obtain ⟨equal, -, -⟩ | ⟨equal, -, -⟩ | ⟨-, next⟩ :=
    advance_cases capacity (run (advance capacity) start before) reading
  · omega
  · omega
  · rw [next, ← same]
    exact opened

/-- On a clock that never runs backwards the issued slots are distinct exactly when no request
reads a tick behind the slot issued before it. -/
theorem nodup_issued_iff (start : Slot) (readings : List ℕ) (sorted : readings.Pairwise (· ≤ ·))
    (ahead : ∀ reading ∈ readings, start.tick < reading) :
    (issued capacity start readings).Nodup ↔ NeverBehind capacity start readings := by
  refine ⟨fun distinct => ?_, fun never => ?_⟩
  · induction readings using List.reverseRecOn with
    | nil => exact neverBehind_nil start
    | append_singleton before reading inductionHypothesis =>
      rw [issued_concat, List.nodup_append] at distinct
      obtain ⟨distinctBefore, -, fresh⟩ := distinct
      rw [neverBehind_concat]
      refine ⟨inductionHypothesis (List.pairwise_append.mp sorted).1
        ((ahead_concat_iff start before reading).mp ahead).1 distinctBefore, ?_⟩
      by_contra behind
      exact fresh _ (advance_mem_issued start before reading sorted ahead (not_le.mp behind)) _
        (List.mem_singleton_self _) rfl
  · exact ((pairwise_issued_iff start readings ahead).mpr never).imp ne_of_lt

/-! ### The load of a window of the clock -/

/-- The number of requests that read one of the `width` ticks from `first` on. -/
def load (readings : List ℕ) (first width : ℕ) : ℕ :=
  readings.countP fun reading => first ≤ reading ∧ reading < first + width

@[simp] theorem load_zero (readings : List ℕ) (first : ℕ) : load readings first 0 = 0 := by
  rw [load, List.countP_eq_zero]
  intro reading _
  rw [decide_eq_true_eq]
  omega

theorem load_concat (before : List ℕ) (reading first width : ℕ) :
    load (before ++ [reading]) first width =
      load before first width + (if first ≤ reading ∧ reading < first + width then 1 else 0) := by
  unfold load
  rw [List.countP_append, List.countP_singleton]
  simp only [decide_eq_true_eq]

theorem load_succ (readings : List ℕ) (first width : ℕ) :
    load readings first (width + 1) =
      load readings first width + readings.count (first + width) := by
  induction readings using List.reverseRecOn with
  | nil => rfl
  | append_singleton before reading inductionHypothesis =>
    rw [load_concat, load_concat, List.count_append, List.count_singleton, inductionHypothesis]
    by_cases last : reading = first + width
    · rw [if_pos (by omega), if_neg (by omega), if_pos (by simpa using last)]
      omega
    · have unequal : ¬ (reading == first + width) = true := by simpa using last
      rw [if_neg unequal]
      split_ifs <;> omega

theorem load_one (readings : List ℕ) (tick : ℕ) : load readings tick 1 = readings.count tick := by
  rw [load_succ, load_zero, Nat.zero_add, Nat.add_zero]

/-- A window whose ticks are each read at most `capacity` times is read at most `capacity`
times its width. -/
theorem load_le_of_count_le (readings : List ℕ)
    (bound : ∀ tick, readings.count tick ≤ capacity) (first width : ℕ) :
    load readings first width ≤ capacity * width := by
  induction width with
  | zero => rw [load_zero, Nat.mul_zero]
  | succ width inductionHypothesis =>
    rw [load_succ, Nat.mul_succ]
    exact Nat.add_le_add inductionHypothesis (bound (first + width))

theorem load_le_concat (before : List ℕ) (reading first width : ℕ) :
    load before first width ≤ load (before ++ [reading]) first width := by
  rw [load_concat]
  exact Nat.le_add_right _ _

/-- The slots a window has room for: its own, and slot `0` of the tick after it. -/
def room (capacity first width : ℕ) : Finset Slot :=
  insert ⟨first + width, 0⟩
    ((Finset.Ico first (first + width) ×ˢ Finset.range capacity).image
      fun pair => ⟨pair.1, pair.2⟩)

theorem card_room_le (capacity first width : ℕ) :
    (room capacity first width).card ≤ capacity * width + 1 := by
  refine (Finset.card_insert_le _ _).trans (Nat.succ_le_succ ?_)
  refine Finset.card_image_le.trans (le_of_eq ?_)
  rw [Finset.card_product, Nat.card_Ico, Finset.card_range, Nat.add_sub_cancel_left, Nat.mul_comm]

theorem advance_mem_room (positive : 0 < capacity) (current : Slot) (reading first width : ℕ)
    (inside : current.index < capacity) (lower : first ≤ reading)
    (upper : reading < first + width) :
    advance capacity current reading ∈ room capacity first width := by
  have bounded := advance_index_lt positive current reading inside
  by_cases beyond : (advance capacity current reading).tick < first + width
  · refine Finset.mem_insert_of_mem (Finset.mem_image.mpr
      ⟨((advance capacity current reading).tick, (advance capacity current reading).index),
        Finset.mem_product.mpr ⟨Finset.mem_Ico.mpr ⟨?_, beyond⟩, Finset.mem_range.mpr bounded⟩,
        rfl⟩)
    obtain same | borrowed := advance_tick capacity current reading
    · rwa [same]
    · rw [borrowed]
      exact Nat.le_succ_of_le lower
  · obtain same | borrowed := advance_tick capacity current reading
    · omega
    · rw [borrowed] at beyond ⊢
      have last : reading + 1 = first + width := by
        change ¬ reading + 1 < first + width at beyond
        omega
      rw [last]
      exact Finset.mem_insert_self _ _

/-- Distinct slots bound the load: the requests of a window are issued slots of the window, or
slot `0` of the tick after it. -/
theorem load_le_of_nodup (positive : 0 < capacity) (start : Slot) (inside : start.index < capacity)
    (readings : List ℕ) (distinct : (issued capacity start readings).Nodup)
    (first width : ℕ) : load readings first width ≤ capacity * width + 1 := by
  let inWindow : Slot × ℕ → Bool := fun entry => first ≤ entry.2 ∧ entry.2 < first + width
  let served : List Slot := ((history (advance capacity) start readings).filter inWindow).map
    fun entry => advance capacity entry.1 entry.2
  have servedNodup : served.Nodup :=
    distinct.sublist (List.filter_sublist.map _)
  have servedLength : served.length = load readings first width := by
    have labels : load readings first width =
        ((history (advance capacity) start readings).map Prod.snd).countP
          fun reading => first ≤ reading ∧ reading < first + width := by
      rw [history_labels]
      rfl
    rw [labels, List.countP_map, List.length_map, ← List.countP_eq_length_filter]
    rfl
  have servedRoom : served.toFinset ⊆ room capacity first width := by
    intro slot member
    obtain ⟨entry, chosen, rfl⟩ := List.mem_map.mp (List.mem_toFinset.mp member)
    obtain ⟨earlier, window⟩ := List.mem_filter.mp chosen
    obtain ⟨lower, upper⟩ := of_decide_eq_true window
    have kept := invariant_history (advance capacity) start (fun slot => slot.index < capacity)
      (fun _ => True) inside (fun current reading bound _ =>
        advance_index_lt positive current reading bound) readings (fun _ _ => trivial) entry earlier
    exact advance_mem_room positive entry.1 entry.2 first width kept.1 lower upper
  rw [← servedLength, ← List.toFinset_card_of_nodup servedNodup]
  exact (Finset.card_le_card servedRoom).trans (card_room_le capacity first width)

/-- The backlog behind a slot: some window that ends with its tick has been read once for
every slot of the window up to it. -/
def Backlog (capacity : ℕ) (readings : List ℕ) (current : Slot) : Prop :=
  ∃ first width, first + width = current.tick ∧
    capacity * width + current.index + 1 ≤ load readings first (width + 1)

theorem backlog_advance (before : List ℕ) (current : Slot) (reading : ℕ)
    (backlog : current.tick = reading → Backlog capacity before current) :
    Backlog capacity (before ++ [reading]) (advance capacity current reading) := by
  obtain ⟨same, -, next⟩ | ⟨same, full, next⟩ | ⟨-, next⟩ :=
    advance_cases capacity current reading
  · obtain ⟨first, width, ends, filled⟩ := backlog same
    refine ⟨first, width, by rw [next, ends, same], ?_⟩
    rw [next, load_concat, if_pos (by omega)]
    show capacity * width + (current.index + 1) + 1 ≤ _
    omega
  · obtain ⟨first, width, ends, filled⟩ := backlog same
    refine ⟨first, width + 1, by rw [next, ← Nat.add_assoc, ends, same], ?_⟩
    rw [next, load_concat, load_succ, if_pos (by omega), Nat.mul_succ]
    show capacity * width + capacity + 0 + 1 ≤ _
    omega
  · refine ⟨reading, 0, by rw [next]; rfl, ?_⟩
    rw [next, load_concat, if_pos (by omega)]
    show capacity * 0 + 0 + 1 ≤ _
    omega

/-- A request that falls behind on a clock that never runs backwards overloads a window. -/
theorem load_of_behind (before : List ℕ) (current : Slot) (reading : ℕ)
    (late : ∀ earlier ∈ before, earlier ≤ reading) (borrowed : current.tick = reading + 1)
    (backlog : Backlog capacity before current) :
    ∃ first width, capacity * width + 1 < load (before ++ [reading]) first width := by
  obtain ⟨first, width, ends, filled⟩ := backlog
  have unread : before.count (first + width) = 0 := by
    refine List.count_eq_zero.mpr fun member => ?_
    have := late _ member
    omega
  rw [load_succ, unread] at filled
  refine ⟨first, width, ?_⟩
  have nonempty : 0 < width := by
    by_contra zero
    rw [Nat.eq_zero_of_not_pos zero, load_zero] at filled
    omega
  rw [load_concat, if_pos (by omega)]
  omega

/-- On a clock that never runs backwards no request reads a tick behind the slot before it
exactly when no window is read more than once beyond its capacity. -/
theorem neverBehind_iff_load (positive : 0 < capacity) (start : Slot)
    (inside : start.index < capacity) (readings : List ℕ) (sorted : readings.Pairwise (· ≤ ·))
    (ahead : ∀ reading ∈ readings, start.tick < reading) :
    NeverBehind capacity start readings ↔
      ∀ first width, load readings first width ≤ capacity * width + 1 := by
  refine ⟨fun never => load_le_of_nodup positive start inside readings
    ((nodup_issued_iff start readings sorted ahead).mpr never), fun light => ?_⟩
  suffices both : NeverBehind capacity start readings ∧
      (readings ≠ [] → Backlog capacity readings (run (advance capacity) start readings)) from
    both.1
  induction readings using List.reverseRecOn with
  | nil => exact ⟨neverBehind_nil start, fun nonempty => absurd rfl nonempty⟩
  | append_singleton before reading inductionHypothesis =>
    obtain ⟨sortedBefore, -, late⟩ := List.pairwise_append.mp sorted
    have latest : ∀ earlier ∈ before, earlier ≤ reading :=
      fun earlier member => late earlier member reading (List.mem_singleton_self _)
    obtain ⟨aheadBefore, later⟩ := (ahead_concat_iff start before reading).mp ahead
    obtain ⟨never, backlog⟩ := inductionHypothesis sortedBefore aheadBefore fun first width =>
      (load_le_concat before reading first width).trans (light first width)
    by_cases empty : before = []
    · subst empty
      refine ⟨(neverBehind_concat start [] reading).mpr ⟨never, later.le⟩, fun _ => ?_⟩
      rw [run_concat]
      exact backlog_advance [] _ reading fun same => absurd same later.ne
    · have filled := backlog empty
      obtain ⟨-, ⟨last, member, near, -⟩, -⟩ :=
        opened_run capacity start before sortedBefore aheadBefore empty
      have onTime : (run (advance capacity) start before).tick ≤ reading := by
        by_contra behind
        have bound := latest last member
        obtain ⟨first, width, heavy⟩ :=
          load_of_behind before _ reading latest (by omega) filled
        exact absurd (light first width) (not_le.mpr heavy)
      refine ⟨(neverBehind_concat start before reading).mpr ⟨never, onTime⟩, fun _ => ?_⟩
      rw [run_concat]
      exact backlog_advance before _ reading fun _ => filled

/-! ### Clocks that never exhaust a tick -/

theorem count_le_of_concat {before : List ℕ} {reading : ℕ}
    (light : ∀ tick, (before ++ [reading]).count tick ≤ capacity) (tick : ℕ) :
    before.count tick ≤ capacity :=
  ((List.sublist_append_left before [reading]).count_le tick).trans (light tick)

/-- While a tick is read at most `capacity` times, a request is issued a slot of the tick it reads,
and an index below the number of times the tick was read. -/
theorem advance_of_count_le (before : List ℕ) (current : Slot) (reading : ℕ)
    (light : (before ++ [reading]).count reading ≤ capacity)
    (filled : current.tick = reading → current.index < before.count reading) :
    (advance capacity current reading).tick = reading ∧
      (advance capacity current reading).index < (before ++ [reading]).count reading := by
  rw [List.count_append, List.count_singleton_self] at light ⊢
  obtain ⟨same, -, next⟩ | ⟨same, full, -⟩ | ⟨-, next⟩ := advance_cases capacity current reading
  · rw [next]
    exact ⟨rfl, Nat.succ_lt_succ (filled same)⟩
  · have := filled same
    omega
  · rw [next]
    exact ⟨rfl, Nat.succ_pos _⟩

/-- On a clock that reads each tick at most `capacity` times, in any order, no request borrows. -/
theorem tick_of_count_le (start : Slot) (readings : List ℕ)
    (light : ∀ tick, readings.count tick ≤ capacity)
    (ahead : ∀ reading ∈ readings, start.tick < reading) :
    ∀ entry ∈ history (advance capacity) start readings,
      (advance capacity entry.1 entry.2).tick = entry.2 := by
  suffices both : (∀ entry ∈ history (advance capacity) start readings,
      (advance capacity entry.1 entry.2).tick = entry.2) ∧
      ∀ reading, start.tick < reading → (run (advance capacity) start readings).tick = reading →
        (run (advance capacity) start readings).index < readings.count reading from both.1
  induction readings using List.reverseRecOn with
  | nil =>
    refine ⟨?_, fun reading later same => absurd same later.ne⟩
    exact fun entry member => absurd member List.not_mem_nil
  | append_singleton before reading inductionHypothesis =>
    obtain ⟨aheadBefore, later⟩ := (ahead_concat_iff start before reading).mp ahead
    obtain ⟨stays, filled⟩ := inductionHypothesis (count_le_of_concat light) aheadBefore
    obtain ⟨tick, index⟩ := advance_of_count_le before
      (run (advance capacity) start before) reading (light reading) (filled reading later)
    rw [history_concat, run_concat]
    refine ⟨fun entry member => ?_, fun other _ same => ?_⟩
    · rcases List.mem_append.mp member with earlier | last
      · exact stays entry earlier
      · obtain rfl := List.mem_singleton.mp last
        exact tick
    · obtain rfl := tick.symm.trans same
      exact index

end Slots
