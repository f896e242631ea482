/-
This file develops machines that answer: a step takes a label and returns an output
next to the new state.

Two machines over the same labels give the same outputs over a whole run where their
states are related and every step keeps them so. The relation reads the labels that
are still to come, so that it can say what holds as long as not too many of them, or
none of a certain kind, are left. The induction over the run is done once, in
`Simulates.outputs_eq`.

A machine may have outputs after which nothing is known of it. Its runs are those of
the stopping machine, which has no state after such an output. Two machines that
simulate each other stop together.
-/

import RpcInstance.Library.Runs

namespace Simulation

variable {State Abstract Label Output : Type*}

/-- The outputs of a run, in order. -/
def outputs (step : State → Label → Output × State) : State → List Label → List Output
  | _, [] => []
  | start, label :: rest => (step start label).1 :: outputs step (step start label).2 rest

/-- The state that a run ends in. -/
def final (step : State → Label → Output × State) (start : State) (labels : List Label) : State :=
  Runs.run (fun state label => (step state label).2) start labels

section

variable (step : State → Label → Output × State) (start : State)

@[simp] theorem outputs_nil : outputs step start [] = [] := rfl

@[simp] theorem outputs_cons (label : Label) (rest : List Label) :
    outputs step start (label :: rest) =
      (step start label).1 :: outputs step (step start label).2 rest := rfl

/-- Working on each output changes nothing else. -/
theorem outputs_map {Other : Type*} (map : Output → Other) (labels : List Label) :
    outputs (fun state label => (map (step state label).1, (step state label).2)) start labels =
      (outputs step start labels).map map := by
  induction labels generalizing start with
  | nil => rfl
  | cons label rest inductionHypothesis =>
    rw [outputs_cons, outputs_cons, List.map_cons, inductionHypothesis]

@[simp] theorem final_nil : final step start [] = start := rfl

@[simp] theorem final_cons (label : Label) (rest : List Label) :
    final step start (label :: rest) = final step (step start label).2 rest := rfl

/-- An invariant of the steps holds of the state that a run ends in. -/
theorem final_invariant (property : State → Prop) (allowed : Label → Prop)
    (initial : property start)
    (preserved : ∀ state label, property state → allowed label → property (step state label).2)
    (labels : List Label) (allowedAll : ∀ label ∈ labels, allowed label) :
    property (final step start labels) :=
  Runs.invariant _ start property allowed initial preserved labels allowedAll

theorem final_append (first second : List Label) :
    final step start (first ++ second) = final step (final step start first) second :=
  Runs.run_append _ start first second

end

/-! ### Machines that stop -/

/-- The machine whose runs end with certain outputs: no state comes after them, and a label that
comes after the end has no output. -/
def stopping (step : State → Label → Output × State) (ends : Output → Bool) :
    Option State → Label → Option Output × Option State
  | none, _ => (none, none)
  | some state, label =>
    let (output, next) := step state label
    (some output, if ends output then none else some next)

/-- The steps that a run takes before it ends, each with the state it is taken in. The step that
ends it is one of them. -/
def taken (step : State → Label → Output × State) (ends : Output → Bool) (start : State)
    (labels : List Label) : List (State × Label) :=
  (Runs.history (fun state label => (stopping step ends state label).2) (some start)
    labels).filterMap fun entry => entry.1.map fun state => (state, entry.2)

section

variable (step : State → Label → Output × State) (ends : Output → Bool) (start : State)

/-- A run that has ended does not go on. -/
theorem final_stopping_none (labels : List Label) :
    final (stopping step ends) none labels = none := by
  induction labels with
  | nil => rfl
  | cons label rest inductionHypothesis => exact inductionHypothesis

theorem history_stopping_none (labels : List Label) :
    (Runs.history (fun state label => (stopping step ends state label).2) none
      labels).filterMap (fun entry => entry.1.map fun state => (state, entry.2)) = [] := by
  induction labels with
  | nil => rfl
  | cons label rest inductionHypothesis => exact inductionHypothesis

@[simp] theorem taken_nil : taken step ends start [] = ([] : List (State × Label)) := rfl

@[simp] theorem taken_cons (label : Label) (rest : List Label) :
    taken step ends start (label :: rest) = (start, label) ::
      if ends (step start label).1 then [] else taken step ends (step start label).2 rest := by
  show (start, label) :: (Runs.history _ (if ends (step start label).1 then none
    else some (step start label).2) rest).filterMap _ = _
  split
  · rw [history_stopping_none]
  · rfl

/-- The outputs of a run are those of the steps that it takes. -/
theorem outputs_stopping (labels : List Label) :
    (outputs (stopping step ends) (some start) labels).filterMap id =
      (taken step ends start labels).map fun entry => (step entry.1 entry.2).1 := by
  have silent (labels : List Label) :
      (outputs (stopping step ends) none labels).filterMap id = [] := by
    induction labels with
    | nil => rfl
    | cons label rest inductionHypothesis => exact inductionHypothesis
  induction labels generalizing start with
  | nil => rfl
  | cons label rest inductionHypothesis =>
    rw [outputs_cons, taken_cons, List.map_cons]
    refine congrArg (List.cons _) ?_
    dsimp only [stopping]
    split
    · exact silent rest
    · exact inductionHypothesis _

/-- A run that has not ended is a run of the machine itself. -/
theorem final_of_running {labels : List Label} {state : State}
    (running : final (stopping step ends) (some start) labels = some state) :
    final step start labels = state := by
  induction labels generalizing start with
  | nil => exact Option.some.inj running
  | cons label rest inductionHypothesis =>
    rw [final_cons] at running ⊢
    dsimp only [stopping] at running
    split at running
    · rw [final_stopping_none] at running
      cases running
    · exact inductionHypothesis _ running

end

/-! ### Simulation -/

/-- Two machines whose steps answer alike from related states and keep the states related. -/
def Simulates (step : State → Label → Output × State)
    (abstractStep : Abstract → Label → Output × Abstract)
    (related : List Label → State → Abstract → Prop) : Prop :=
  ∀ label rest state abstract, related (label :: rest) state abstract →
    (step state label).1 = (abstractStep abstract label).1 ∧
      related rest (step state label).2 (abstractStep abstract label).2

namespace Simulates

variable {step : State → Label → Output × State}
  {abstractStep : Abstract → Label → Output × Abstract}
  {related : List Label → State → Abstract → Prop}
  (simulates : Simulates step abstractStep related)

include simulates

/-- From related states the machines answer alike over a whole run. -/
theorem outputs_eq {labels : List Label} {state : State} {abstract : Abstract}
    (start : related labels state abstract) :
    outputs step state labels = outputs abstractStep abstract labels := by
  induction labels generalizing state abstract with
  | nil => rfl
  | cons label rest inductionHypothesis =>
    obtain ⟨same, next⟩ := simulates label rest state abstract start
    rw [outputs_cons, outputs_cons, same, inductionHypothesis next]

/-- From related states a whole run leads to related states. -/
theorem final_related {labels : List Label} {state : State} {abstract : Abstract}
    (start : related labels state abstract) :
    related [] (final step state labels) (final abstractStep abstract labels) := by
  induction labels generalizing state abstract with
  | nil => exact start
  | cons label rest inductionHypothesis =>
    obtain ⟨-, next⟩ := simulates label rest state abstract start
    rw [final_cons, final_cons]
    exact inductionHypothesis next

/-- Where one machine stops, so does the other. -/
theorem stopping (ends : Output → Bool) :
    Simulates (Simulation.stopping step ends) (Simulation.stopping abstractStep ends)
      fun labels => Option.Rel (related labels) := by
  rintro label rest _ _ (related | _)
  · obtain ⟨same, next⟩ := simulates label rest _ _ related
    dsimp only [Simulation.stopping]
    rw [same]
    refine ⟨rfl, ?_⟩
    split
    · exact .none
    · exact .some next
  · exact ⟨rfl, .none⟩

end Simulates

end Simulation
