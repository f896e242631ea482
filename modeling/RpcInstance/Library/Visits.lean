/-
This file settles when the slots of `RpcInstance.Library.Slots` are distinct on a
clock that may run backwards, as long as it reads no tick more often than the tick
has indices.

On such a clock no request borrows a tick, so what a request is issued depends on
the reading before it alone: the next index when the reading is the same, index
`0` when it is another one. Index `0` of a tick is issued when the tick is first
read, and issued again whenever the clock returns to it. The slots are therefore
distinct exactly when the clock returns to no tick that it has left
(`nodup_issued_iff_neverReturns`).
-/

import RpcInstance.Library.Slots

namespace Slots

open Runs

/-! ### Clocks that return to a tick -/

section

variable {Tick : Type*}

/-- No tick is read again once another one has been read after it. -/
def NeverReturns (readings : List Tick) : Prop :=
  ∀ tick other, tick ≠ other → ¬ [tick, other, tick].Sublist readings

/-- A sublist of a longer list ends with the new element, or it was there before. -/
theorem concat_sublist_concat_iff (front before : List Tick) (last reading : Tick) :
    (front ++ [last]).Sublist (before ++ [reading]) ↔
      (front ++ [last]).Sublist before ∨ last = reading ∧ front.Sublist before := by
  rw [← List.reverse_sublist, List.reverse_concat, List.reverse_concat, List.sublist_cons_iff]
  refine or_congr ?_ ?_
  · rw [← List.reverse_concat, List.reverse_sublist]
  · constructor
    · rintro ⟨rest, same, inside⟩
      obtain ⟨rfl, rfl⟩ := List.cons.inj same
      exact ⟨rfl, List.reverse_sublist.mp inside⟩
    · rintro ⟨rfl, inside⟩
      exact ⟨front.reverse, rfl, List.reverse_sublist.mpr inside⟩

/-- A further reading returns to no tick exactly when it repeats the last one or is new. -/
theorem neverReturns_concat (before : List Tick) (reading : Tick) :
    NeverReturns (before ++ [reading]) ↔
      NeverReturns before ∧ (reading ∈ before → before.getLast? = some reading) := by
  constructor
  · intro never
    refine ⟨fun tick other different inside => ?_, fun member => ?_⟩
    · exact never tick other different (inside.trans (List.sublist_append_left before [reading]))
    · rcases List.eq_nil_or_concat before with rfl | ⟨earlier, last, split⟩
      · cases member
      · rw [List.concat_eq_append] at split
        subst split
        rw [List.getLast?_concat]
        by_contra different
        have other : reading ≠ last := fun same => different (congrArg some same.symm)
        refine never reading last other ((concat_sublist_concat_iff [reading, last] _ _ _).mpr
          (Or.inr ⟨rfl, (concat_sublist_concat_iff [reading] earlier last last).mpr
            (Or.inr ⟨rfl, List.singleton_sublist.mpr ?_⟩)⟩))
        rcases List.mem_append.mp member with old | new
        · exact old
        · exact absurd (List.mem_singleton.mp new) other
  · rintro ⟨never, repeated⟩ tick other different inside
    rcases (concat_sublist_concat_iff [tick, other] before tick reading).mp inside with
      old | ⟨rfl, pair⟩
    · exact never tick other different old
    · have last := repeated (pair.subset List.mem_cons_self)
      obtain ⟨earlier, rfl⟩ := List.getLast?_eq_some_iff.mp last
      rcases (concat_sublist_concat_iff [tick] earlier other tick).mp pair with old | ⟨same, -⟩
      · exact never tick other different
          ((concat_sublist_concat_iff [tick, other] earlier tick tick).mpr (Or.inr ⟨rfl, old⟩))
      · exact different same.symm

/-- Renaming the ticks one to one changes nothing. -/
theorem neverReturns_map_iff {Other : Type*} {rename : Tick → Other}
    (injective : Function.Injective rename) (readings : List Tick) :
    NeverReturns (readings.map rename) ↔ NeverReturns readings := by
  constructor
  · intro never tick other different inside
    exact never (rename tick) (rename other) (injective.ne different) (inside.map rename)
  · intro never tick other different inside
    obtain ⟨front, found, same⟩ := List.sublist_map_iff.mp inside
    obtain ⟨first, rest, rfl, rfl, afterFirst⟩ := List.map_eq_cons_iff.mp same.symm
    obtain ⟨second, rest, rfl, rfl, afterSecond⟩ := List.map_eq_cons_iff.mp afterFirst
    obtain ⟨third, rest, rfl, again, nothing⟩ := List.map_eq_cons_iff.mp afterSecond
    obtain rfl := injective again
    obtain rfl := List.map_eq_nil_iff.mp nothing
    exact never third second (fun equal => different (congrArg rename equal)) found

end

/-! ### Distinct slots -/

variable {capacity : ℕ} {start : Slot} {before : List ℕ}

section

variable (light : ∀ tick, before.count tick ≤ capacity)
  (ahead : ∀ reading ∈ before, start.tick < reading)

include light ahead

/-- The tick of the last slot is the last reading. -/
theorem run_tick_eq_iff {reading : ℕ} (later : start.tick < reading) :
    (run (advance capacity) start before).tick = reading ↔ before.getLast? = some reading := by
  rcases List.eq_nil_or_concat before with rfl | ⟨earlier, last, split⟩
  · exact iff_of_false later.ne fun same => nomatch same
  · rw [List.concat_eq_append] at split
    subst split
    have tick := tick_of_count_le start (earlier ++ [last]) light ahead
      (run (advance capacity) start earlier, last) (by
        rw [history_concat]
        exact List.mem_append_right _ (List.mem_singleton_self _))
    rw [run_concat, tick, List.getLast?_concat, Option.some_inj]

/-- A slot is only issued in a tick that was read. -/
theorem tick_mem_of_issued : ∀ slot ∈ issued capacity start before, slot.tick ∈ before := by
  intro slot member
  obtain ⟨entry, earlier, rfl⟩ := List.mem_map.mp member
  rw [tick_of_count_le start before light ahead entry earlier]
  exact mem_labels (advance capacity) start earlier

end

/-- A request that reads the tick of the last slot and stays in it takes the next index. -/
theorem advance_index_of_tick {current : Slot} {reading : ℕ} (same : current.tick = reading)
    (tick : (advance capacity current reading).tick = reading) :
    (advance capacity current reading).index = current.index + 1 := by
  obtain ⟨-, -, next⟩ | ⟨-, -, next⟩ | ⟨other, -⟩ := advance_cases capacity current reading
  · rw [next]
  · rw [next] at tick
    exact absurd tick (Nat.succ_ne_self reading)
  · exact absurd same other

/-- Index `0` of a tick is issued when the tick is read. -/
theorem opened_of_mem (light : ∀ tick, before.count tick ≤ capacity)
    (ahead : ∀ reading ∈ before, start.tick < reading) :
    ∀ reading ∈ before, ⟨reading, 0⟩ ∈ issued capacity start before := by
  induction before using List.reverseRecOn with
  | nil => exact fun reading member => nomatch member
  | append_singleton before last inductionHypothesis =>
    have lightBefore := count_le_of_concat light
    have aheadBefore := ((ahead_concat_iff start before last).mp ahead).1
    have opened := inductionHypothesis lightBefore aheadBefore
    rw [issued_concat]
    intro reading member
    rcases List.mem_append.mp member with old | new
    · exact List.mem_append_left _ (opened reading old)
    · obtain rfl := List.mem_singleton.mp new
      by_cases same : (run (advance capacity) start before).tick = reading
      · have last := (run_tick_eq_iff lightBefore aheadBefore (ahead reading member)).mp same
        exact List.mem_append_left _ (opened reading (List.mem_of_getLast? last))
      · refine List.mem_append_right _ (List.mem_singleton.mpr ?_)
        rw [advance, if_neg same]

/-- While the clock returns to no tick, the last slot is the highest one of its tick. -/
theorem index_le_of_neverReturns (light : ∀ tick, before.count tick ≤ capacity)
    (ahead : ∀ reading ∈ before, start.tick < reading) (never : NeverReturns before) :
    ∀ slot ∈ issued capacity start before,
      slot.tick = (run (advance capacity) start before).tick →
        slot.index ≤ (run (advance capacity) start before).index := by
  induction before using List.reverseRecOn with
  | nil => exact fun slot member => nomatch member
  | append_singleton before reading inductionHypothesis =>
    have lightBefore := count_le_of_concat light
    obtain ⟨aheadBefore, later⟩ := (ahead_concat_iff start before reading).mp ahead
    obtain ⟨neverBefore, repeated⟩ := (neverReturns_concat before reading).mp never
    have tick := (run_tick_eq_iff light ahead later).mpr List.getLast?_concat
    rw [run_concat] at tick ⊢
    rw [issued_concat, tick]
    intro slot member same
    rcases List.mem_append.mp member with old | new
    · have read := tick_mem_of_issued lightBefore aheadBefore slot old
      rw [same] at read
      have current := (run_tick_eq_iff lightBefore aheadBefore later).mpr (repeated read)
      have highest := inductionHypothesis lightBefore aheadBefore neverBefore slot old
        (same.trans current.symm)
      rw [advance_index_of_tick current tick]
      exact highest.trans (Nat.le_succ _)
    · rw [List.mem_singleton.mp new]

/-- The slots of a run are distinct exactly when the clock returns to no tick that it has left. -/
theorem nodup_issued_iff_neverReturns (light : ∀ tick, before.count tick ≤ capacity)
    (ahead : ∀ reading ∈ before, start.tick < reading) :
    (issued capacity start before).Nodup ↔ NeverReturns before := by
  induction before using List.reverseRecOn with
  | nil =>
    refine iff_of_true List.nodup_nil fun tick other _ inside => ?_
    cases inside
  | append_singleton before reading inductionHypothesis =>
    have lightBefore := count_le_of_concat light
    obtain ⟨aheadBefore, later⟩ := (ahead_concat_iff start before reading).mp ahead
    have current := @run_tick_eq_iff capacity start before lightBefore aheadBefore reading later
    have tick := (run_tick_eq_iff light ahead later).mpr List.getLast?_concat
    rw [run_concat] at tick
    rw [issued_concat, ← List.concat_eq_append, List.nodup_concat, neverReturns_concat,
      inductionHypothesis lightBefore aheadBefore, and_comm]
    refine and_congr_right fun never => ⟨fun fresh member => ?_, fun repeated issuedBefore => ?_⟩
    · refine current.mp ?_
      by_contra other
      rw [advance, if_neg other] at fresh
      exact fresh (opened_of_mem lightBefore aheadBefore reading member)
    · have read := tick_mem_of_issued lightBefore aheadBefore _ issuedBefore
      rw [tick] at read
      have same := current.mpr (repeated read)
      have highest := index_le_of_neverReturns lightBefore aheadBefore never _ issuedBefore
        (tick.trans same.symm)
      rw [advance_index_of_tick same tick] at highest
      exact absurd highest (Nat.not_succ_le_self _)

end Slots
