/-
This file develops runs of a deterministic machine: a step function, the state a
list of labels leads to, and the history of a run, which pairs every label with
the state it was taken in.

The history is what statements about whole runs talk about. An invariant may
read it next to the current state, and the induction over the run is done once,
in `history_invariant`: a property that holds of the empty history and survives
each further step of the run holds at its end. `history_split` cuts a history at
one of its steps, so that a step can be compared with everything before it.
-/

import Mathlib.Data.List.Basic
import Mathlib.Data.List.Infix

namespace Runs

variable {State Label : Type*}

/-- The state that a list of labels leads to. -/
def run (step : State → Label → State) (start : State) (labels : List Label) : State :=
  labels.foldl step start

/-- The history of a run: every label with the state it was taken in. -/
def history (step : State → Label → State) : State → List Label → List (State × Label)
  | _, [] => []
  | start, label :: rest => (start, label) :: history step (step start label) rest

variable (step : State → Label → State) (start : State)

@[simp] theorem run_nil : run step start [] = start := rfl

@[simp] theorem run_cons (label : Label) (rest : List Label) :
    run step start (label :: rest) = run step (step start label) rest := rfl

theorem run_append (first second : List Label) :
    run step start (first ++ second) = run step (run step start first) second :=
  List.foldl_append

@[simp] theorem history_cons (label : Label) (rest : List Label) :
    history step start (label :: rest) =
      (start, label) :: history step (step start label) rest := rfl

theorem history_append (first second : List Label) :
    history step start (first ++ second) =
      history step start first ++ history step (run step start first) second := by
  induction first generalizing start with
  | nil => rfl
  | cons label rest inductionHypothesis =>
    rw [List.cons_append, history_cons, history_cons, List.cons_append, run_cons,
      inductionHypothesis]

theorem history_concat (before : List Label) (label : Label) :
    history step start (before ++ [label]) =
      history step start before ++ [(run step start before, label)] := by
  rw [history_append]
  rfl

theorem run_concat (before : List Label) (label : Label) :
    run step start (before ++ [label]) = step (run step start before) label := by
  rw [run_append]
  rfl

@[simp] theorem history_labels (labels : List Label) :
    (history step start labels).map Prod.snd = labels := by
  induction labels generalizing start with
  | nil => rfl
  | cons label rest inductionHypothesis =>
    rw [history_cons, List.map_cons, inductionHypothesis]

/-- Cutting a history at a step cuts the run there: what comes before is the history of the
labels before, and the state of the step is the one they lead to. -/
theorem history_split {labels : List Label} {past future : List (State × Label)}
    {state : State} {label : Label}
    (cut : history step start labels = past ++ (state, label) :: future) :
    ∃ before after, labels = before ++ label :: after ∧
      past = history step start before ∧ state = run step start before ∧
      future = history step (step state label) after := by
  induction past generalizing start labels with
  | nil =>
    cases labels with
    | nil => cases cut
    | cons head rest =>
      rw [history_cons, List.nil_append] at cut
      obtain ⟨⟨rfl, rfl⟩, rfl⟩ := List.cons.inj cut |>.imp_left Prod.mk.inj
      exact ⟨[], rest, rfl, rfl, rfl, rfl⟩
  | cons entry past inductionHypothesis =>
    cases labels with
    | nil => cases cut
    | cons head rest =>
      rw [history_cons, List.cons_append] at cut
      obtain ⟨rfl, tail⟩ := List.cons.inj cut
      obtain ⟨before, after, rfl, rfl, same, rest⟩ := inductionHypothesis _ tail
      exact ⟨head :: before, after, rfl, rfl, same, rest⟩

/-- Every step of a history is taken in the state that the labels before it lead to. -/
theorem mem_history {labels : List Label} {entry : State × Label}
    (member : entry ∈ history step start labels) :
    ∃ before after, labels = before ++ entry.2 :: after ∧ entry.1 = run step start before := by
  obtain ⟨past, future, cut⟩ := List.append_of_mem member
  obtain ⟨before, after, split, -, state, -⟩ := history_split step start cut
  exact ⟨before, after, split, state⟩

theorem mem_labels {labels : List Label} {entry : State × Label}
    (member : entry ∈ history step start labels) : entry.2 ∈ labels := by
  have mapped := List.mem_map_of_mem (f := Prod.snd) member
  rwa [history_labels] at mapped

theorem label_of_cut {labels : List Label} {past future : List (State × Label)} {state : State}
    {label : Label} (cut : history step start labels = past ++ (state, label) :: future) :
    label ∈ labels := by
  refine mem_labels step start (?_ : (state, label) ∈ _)
  rw [cut]
  exact List.mem_append_cons_self

/-- The induction over a run. A property of the history and the state that holds at the start
and survives each further step of the run holds at its end. -/
theorem history_invariant (property : List (State × Label) → State → Prop)
    (labels : List Label) (initial : property [] start)
    (preserved : ∀ before label, before ++ [label] <+: labels →
      property (history step start before) (run step start before) →
      property (history step start before ++ [(run step start before, label)])
        (step (run step start before) label)) :
    property (history step start labels) (run step start labels) := by
  induction labels using List.reverseRecOn with
  | nil => exact initial
  | append_singleton before label inductionHypothesis =>
    rw [history_concat, run_concat]
    refine preserved before label (List.prefix_refl _) (inductionHypothesis ?_)
    intro earlier next isPrefix
    exact preserved earlier next (isPrefix.trans (List.prefix_append before [label]))

/-- An invariant of the steps holds in every state a run passes through. -/
theorem invariant (property : State → Prop) (allowed : Label → Prop)
    (initial : property start)
    (preserved : ∀ state label, property state → allowed label → property (step state label))
    (labels : List Label) (allowedAll : ∀ label ∈ labels, allowed label) :
    property (run step start labels) := by
  induction labels generalizing start with
  | nil => exact initial
  | cons label rest inductionHypothesis =>
    rw [run_cons]
    exact inductionHypothesis _
      (preserved start label initial (allowedAll label List.mem_cons_self))
      fun next member => allowedAll next (List.mem_cons_of_mem _ member)

/-- An invariant of the steps holds in the state of every step of a history. -/
theorem invariant_history (property : State → Prop) (allowed : Label → Prop)
    (initial : property start)
    (preserved : ∀ state label, property state → allowed label → property (step state label))
    (labels : List Label) (allowedAll : ∀ label ∈ labels, allowed label) :
    ∀ entry ∈ history step start labels, property entry.1 ∧ allowed entry.2 := by
  intro entry member
  obtain ⟨before, after, split, state⟩ := mem_history step start member
  refine ⟨?_, allowedAll entry.2 (mem_labels step start member)⟩
  rw [state]
  exact invariant step start property allowed initial preserved before
    fun label earlier => allowedAll label (split ▸ List.mem_append_left _ earlier)

end Runs
