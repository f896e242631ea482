/-
This file fixes how a piece of the program can end, next to returning: it throws
an exception, or it runs into behaviour that the language leaves undefined, an
access outside a buffer or through a null pointer.

Code works on a state, which it may have changed when it throws. The operations of
the program work on the objects they are called on. What is handed to the program
from outside, a handler or a callback, works on an arbitrary state of its
surroundings.
-/

namespace RpcInstance

/-- A thrown object, by the classes that the handlers of the program tell apart. -/
inductive Thrown where
  /-- A `std::invalid_argument`. -/
  | invalidArgument (what : String)
  /-- Any other class derived from `std::exception`. -/
  | exception (what : String)
  /-- An object of a class that is not derived from `std::exception`. -/
  | other
  deriving DecidableEq, Repr

/-- An operation whose outcome the language does not define. -/
inductive Fault where
  | bufferOverflow
  | bufferOverread
  | nullPointer
  | outOfBounds
  deriving DecidableEq, Repr

/-- The ways in which code does not return. -/
inductive Failure where
  | thrown (what : Thrown)
  | undefined (fault : Fault)
  deriving DecidableEq, Repr

/-- An end after which the language does not say what the program does. -/
def isUndefined {Value : Type} : Except Failure Value → Bool
  | .error (.undefined _) => true
  | _ => false

/-- Code that works on a state and returns a value. -/
abbrev Code (State Value : Type) := ExceptT Failure (StateM State) Value

namespace Code

variable {State Value Next : Type}

/-- Running code on a state: how it ends, and the state it leaves. -/
def exec (code : Code State Value) (state : State) : Except Failure Value × State :=
  code.run.run state

/-- Code that ends at once, the way a computation has ended. -/
def ofResult (settled : Except Failure Value) : Code State Value :=
  ExceptT.mk (pure settled)

@[simp] theorem exec_ofResult (settled : Except Failure Value) (state : State) :
    exec (ofResult settled) state = (settled, state) := rfl

theorem exec_bind (code : Code State Value) (next : Value → Code State Next) (state : State) :
    exec (code >>= next) state =
      match exec code state with
      | (.ok value, after) => exec (next value) after
      | (.error failure, after) => (.error failure, after) := by
  unfold exec
  rw [ExceptT.run_bind, StateT.run_bind]
  rcases code.run.run state with ⟨result, after⟩
  cases result <;> rfl

/-- Working on the value that code returns changes nothing else. -/
theorem exec_bind_pure (code : Code State Value) (next : Value → Next) (state : State) :
    exec (code >>= fun value => pure (next value)) state =
      ((exec code state).1.map next, (exec code state).2) := by
  rw [exec_bind]
  rcases exec code state with ⟨failure | value, after⟩ <;> rfl

/-- Code that returns, when it is run on a state. -/
def Returns (code : Code State Value) (state : State) : Prop :=
  ∃ value, (exec code state).1 = .ok value

/-- A result that is worked on is there where the first one was. -/
theorem ok_map_iff {map : Value → Next} {settled : Except Failure Value} :
    (∃ next, settled.map map = .ok next) ↔ ∃ value, settled = .ok value := by
  rcases settled with failure | value
  · exact iff_of_false (fun ⟨_, same⟩ => nomatch same) fun ⟨_, same⟩ => nomatch same
  · exact iff_of_true ⟨map value, rfl⟩ ⟨value, rfl⟩

theorem returns_bind_pure_iff {code : Code State Value} {next : Value → Next} {state : State} :
    Returns (code >>= fun value => pure (next value)) state ↔ Returns code state := by
  unfold Returns
  rw [exec_bind_pure]
  exact ok_map_iff

/-- A `try` block: a handler that sees every exception and no undefined behaviour. -/
def catching (code : Code State Value) (handler : Thrown → Code State Value) :
    Code State Value :=
  tryCatch code fun failure =>
    match failure with
    | .thrown what => handler what
    | .undefined fault => throw (.undefined fault)

theorem exec_catching (code : Code State Value) (handler : Thrown → Code State Value)
    (state : State) :
    exec (catching code handler) state =
      match exec code state with
      | (.error (.thrown what), after) => exec (handler what) after
      | settled => settled := by
  unfold exec catching
  rw [ExceptT.run_tryCatch, StateT.run_bind]
  rcases code.run.run state with ⟨result, after⟩
  rcases result with (what | fault) | value <;> rfl

/-! ### States in two parts -/

/-- Code that works on the first part of a state. -/
def onFirst {Other : Type} (code : Code State Value) : Code (State × Other) Value :=
  ExceptT.mk fun state => ((exec code state.1).1, (exec code state.1).2, state.2)

/-- Code that works on the second part of a state. -/
def onSecond {Other : Type} (code : Code State Value) : Code (Other × State) Value :=
  ExceptT.mk fun state => ((exec code state.2).1, state.1, (exec code state.2).2)

@[simp] theorem exec_onFirst {Other : Type} (code : Code State Value) (state : State × Other) :
    exec (onFirst code) state = ((exec code state.1).1, (exec code state.1).2, state.2) := rfl

@[simp] theorem exec_onSecond {Other : Type} (code : Code State Value) (state : Other × State) :
    exec (onSecond code) state = ((exec code state.2).1, state.1, (exec code state.2).2) := rfl

end Code

/-! ### Results that are computed in steps -/

theorem bind_eq_ok_iff {Error Value Next : Type} {first : Except Error Value}
    {next : Value → Except Error Next} {result : Next} :
    (first >>= next) = .ok result ↔ ∃ value, first = .ok value ∧ next value = .ok result := by
  cases first with
  | error error => exact iff_of_false (fun same => nomatch same) fun ⟨_, same, _⟩ => nomatch same
  | ok value =>
    constructor
    · exact fun same => ⟨value, rfl, same⟩
    · rintro ⟨_, ⟨⟩, same⟩
      exact same

theorem mapError_eq_ok_iff {Error Other Value : Type} {map : Error → Other}
    {first : Except Error Value} {value : Value} :
    first.mapError map = .ok value ↔ first = .ok value := by
  cases first with
  | error error => exact iff_of_false (fun same => nomatch same) fun same => nomatch same
  | ok other => exact ⟨fun same => congrArg _ (Except.ok.inj same),
      fun same => congrArg _ (Except.ok.inj same)⟩

theorem map_eq_ok_iff {Error Value Next : Type} {map : Value → Next} {first : Except Error Value}
    {result : Next} :
    first.map map = .ok result ↔ ∃ value, first = .ok value ∧ map value = result := by
  cases first with
  | error error => exact iff_of_false (fun same => nomatch same) fun ⟨_, same, _⟩ => nomatch same
  | ok value =>
    constructor
    · exact fun same => ⟨value, rfl, Except.ok.inj same⟩
    · rintro ⟨_, ⟨⟩, same⟩
      exact congrArg _ same

end RpcInstance
