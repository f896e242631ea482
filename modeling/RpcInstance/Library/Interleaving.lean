/-
This file develops families of machines that are run interleaved: a label names the
member that takes the next step, and the others stay as they are.

Each member goes through the run of its own labels, whatever comes in between. What the
members put out over a whole run is therefore told apart member by member: where no two
members put out the same, nothing is put out twice exactly when no member puts anything
out twice.
-/

import Mathlib.Data.List.Nodup
import RpcInstance.Library.Runs

namespace Interleaving

open Runs

/-! ### Lists in groups -/

/-- Where equal values have equal keys, the values of a list are distinct exactly when they are
for each key. -/
theorem nodup_map_iff_groups {Item Key Value : Type*} [DecidableEq Key] (key : Item → Key)
    (value : Item → Value) (items : List Item)
    (apart : ∀ first ∈ items, ∀ second ∈ items, value first = value second →
      key first = key second) :
    (items.map value).Nodup ↔
      ∀ group, ((items.filter fun item => key item = group).map value).Nodup := by
  constructor
  · exact fun distinct group => distinct.sublist (List.filter_sublist.map value)
  · intro groups
    induction items with
    | nil => exact List.nodup_nil
    | cons item rest inductionHypothesis =>
      rw [List.map_cons, List.nodup_cons]
      constructor
      · intro member
        obtain ⟨other, inside, same⟩ := List.mem_map.mp member
        have together := apart other (List.mem_cons_of_mem _ inside) item List.mem_cons_self same
        have alone := groups (key item)
        rw [List.filter_cons, if_pos (decide_eq_true rfl), List.map_cons, List.nodup_cons] at alone
        refine alone.1 (List.mem_map.mpr ⟨other, ?_, same⟩)
        exact List.mem_filter.mpr ⟨inside, decide_eq_true together⟩
      · refine inductionHypothesis ?_ fun group => ?_
        · exact fun first member second member' => apart first (List.mem_cons_of_mem _ member)
            second (List.mem_cons_of_mem _ member')
        · exact (groups group).sublist (((List.sublist_cons_self item rest).filter _).map value)

/-! ### Families -/

section

variable {Index State Label : Type*} [DecidableEq Index]

/-- One step of the member that the label names. -/
def step (machine : State → Label → State) (states : Index → State) (label : Index × Label) :
    Index → State :=
  Function.update states label.1 (machine (states label.1) label.2)

/-- The labels of one member, in order. -/
def labelsOf (index : Index) (labels : List (Index × Label)) : List Label :=
  (labels.filter fun label => label.1 = index).map Prod.snd

theorem labelsOf_cons_self (index : Index) (label : Label) (rest : List (Index × Label)) :
    labelsOf index ((index, label) :: rest) = label :: labelsOf index rest := by
  rw [labelsOf, List.filter_cons, if_pos (decide_eq_true rfl)]
  rfl

theorem labelsOf_cons_of_ne {index other : Index} (different : other ≠ index) (label : Label)
    (rest : List (Index × Label)) :
    labelsOf index ((other, label) :: rest) = labelsOf index rest := by
  rw [labelsOf, List.filter_cons, if_neg fun same => different (of_decide_eq_true same)]
  rfl

variable (machine : State → Label → State)

/-- The steps of one member are the history of that member over its own labels. -/
theorem history_member (states : Index → State) (labels : List (Index × Label)) (index : Index) :
    ((history (step machine) states labels).filter fun entry => entry.2.1 = index).map
        (fun entry => (entry.1 entry.2.1, entry.2.2)) =
      history machine (states index) (labelsOf index labels) := by
  induction labels generalizing states with
  | nil => rfl
  | cons label rest inductionHypothesis =>
    obtain ⟨other, label⟩ := label
    have later := inductionHypothesis (step machine states (other, label))
    rw [history_cons]
    by_cases same : other = index
    · subst same
      rw [List.filter_cons, if_pos (decide_eq_true rfl), List.map_cons, later, labelsOf_cons_self,
        history_cons, step, Function.update_self]
    · rw [List.filter_cons, if_neg fun equal => same (of_decide_eq_true equal), later,
        labelsOf_cons_of_ne same, step, Function.update_of_ne (Ne.symm same)]

variable {Output : Type*} (output : State → Label → Output)

/-- What the steps of a run put out, in order. -/
def outputs (states : Index → State) (labels : List (Index × Label)) : List Output :=
  (history (step machine) states labels).map fun entry => output (entry.1 entry.2.1) entry.2.2

/-- What the steps of one member put out over its own labels. -/
def outputsOf (start : State) (labels : List Label) : List Output :=
  (history machine start labels).map fun entry => output entry.1 entry.2

/-- A step of a run puts out what the member that it names puts out over its own labels. -/
theorem mem_outputsOf {states : Index → State} {labels : List (Index × Label)}
    {entry : (Index → State) × (Index × Label)}
    (member : entry ∈ history (step machine) states labels) :
    output (entry.1 entry.2.1) entry.2.2 ∈
      outputsOf machine output (states entry.2.1) (labelsOf entry.2.1 labels) := by
  rw [outputsOf, ← history_member, List.map_map]
  exact List.mem_map.mpr ⟨entry, List.mem_filter.mpr ⟨member, decide_eq_true rfl⟩, rfl⟩

/-- Where no two members put out the same, nothing is put out twice exactly when no member puts
anything out twice. -/
theorem nodup_outputs_iff (states : Index → State) (labels : List (Index × Label))
    (apart : ∀ first second, first ≠ second →
      ∀ one ∈ outputsOf machine output (states first) (labelsOf first labels),
        ∀ other ∈ outputsOf machine output (states second) (labelsOf second labels),
          one ≠ other) :
    (outputs machine output states labels).Nodup ↔
      ∀ index, (outputsOf machine output (states index) (labelsOf index labels)).Nodup := by
  rw [outputs, nodup_map_iff_groups (fun entry => entry.2.1)]
  · refine forall_congr' fun index => ?_
    rw [outputsOf, ← history_member, List.map_map]
    rfl
  · intro first member second member' same
    by_contra different
    exact apart _ _ different _ (mem_outputsOf machine output member) _
      (mem_outputsOf machine output member') same

end

end Interleaving
