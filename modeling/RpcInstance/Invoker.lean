/-
This file models how a bound handler is invoked on the bytes of a call.

There are four kinds of handlers: free functions and member functions, and of
each those that take an argument pack and those that take the bytes as they are.
Each kind has its own wrapper. Only the wrapper of a free function with an
argument pack catches what decoding the arguments or the handler throws.
-/

import RpcInstance.Msgpack.Tuple

namespace RpcInstance

open Msgpack Code

/-! ### The codec -/

namespace Codec

/-- What every exception inside of `unpack` is replaced by. -/
def unpackFailed : Thrown := .invalidArgument "unpack failed: Args not match!"

/-- The first object of the data, converted to the tuple. -/
def decode (Ts : List ArgType) (data : List UInt8) : Except Failure (Tuple Ts) :=
  match Msgpack.unpack data with
  | .error thrown => .error (.thrown thrown)
  | .ok (object, _) => asTuple Ts object

/-- `msgpack_codec::unpack`, which throws one exception in place of any other. -/
def unpack (Ts : List ArgType) (data : List UInt8) : Except Failure (Tuple Ts) :=
  match decode Ts data with
  | .error (.thrown _) => .error (.thrown unpackFailed)
  | settled => settled

end Codec

/-! ### Handlers -/

/-- A function with an argument pack. What it returns is not used. -/
structure Function (Env : Type) where
  args : List ArgType
  returnsVoid : Bool
  invoke : Tuple args → Code Env Unit

/-- A member function with an argument pack, of a class whose objects are `Object`. -/
structure MemberFunction (Object Env : Type) where
  args : List ArgType
  returnsVoid : Bool
  invoke : Object → Tuple args → Code Env Unit

/-- A function whose first argument is a `const stDataBaseCmd*`: it takes the bytes themselves. -/
abbrev CmdFunction (Env : Type) := List UInt8 → Code Env Unit

/-- What `functionMap` stores: from the bytes of a call to the result text. -/
abbrev Wrapper (Env : Type) := List UInt8 → Code Env String

variable {Object Env : Type}

/-- `RpcInvoker::call`. -/
def Function.call (func : Function Env) (tup : Tuple func.args) : Code Env String := do
  func.invoke tup
  return if func.returnsVoid then "invoke return void. OK" else "invoke return non-void. OK"

/-- `RpcInvoker::callMember`. -/
def MemberFunction.callMember (func : MemberFunction Object Env) (object : Object)
    (tup : Tuple func.args) : Code Env String := do
  func.invoke object tup
  return if func.returnsVoid then "call member return void. OK"
    else "call member return non void. OK"

namespace Invoker

/-- Decodes and calls the function. The `try` block is around both, so what the function throws is
taken for an answer like what the decoding throws. -/
def apply (func : Function Env) : Wrapper Env := fun data =>
  catching
    (do
      let tup ← ofResult (Codec.unpack func.args data)
      func.call tup)
    fun thrown =>
      match thrown with
      | .invalidArgument _ => pure "ARGS FAIL"
      | .exception _ => pure "FAIL"
      | .other => throw (.thrown .other)

/-- Decodes and calls the member function. There is no `try` block. -/
def applyMember (func : MemberFunction Object Env) (object : Object) : Wrapper Env := fun data => do
  let tup ← ofResult (Codec.unpack func.args data)
  func.callMember object tup

/-- Hands the bytes over as they are. -/
def applyUsingCmd (func : CmdFunction Env) : Wrapper Env := fun data => do
  func data
  return "OK"

/-- Hands the bytes over to a member function. -/
def applyMemUsingCmd (func : Object → CmdFunction Env) (object : Object) : Wrapper Env :=
  fun data => do
    func object data
    return "OK"

end Invoker

/-- What one of the four `bind` overloads is given. -/
inductive Binding (Env : Type) where
  | function (func : Function Env)
  | member {Object : Type} (func : MemberFunction Object Env) (object : Object)
  | usingCmd (func : CmdFunction Env)
  | memUsingCmd {Object : Type} (func : Object → CmdFunction Env) (object : Object)

/-- What `bind` stores. -/
def Binding.wrapper : Binding Env → Wrapper Env
  | .function func => Invoker.apply func
  | .member func object => Invoker.applyMember func object
  | .usingCmd func => Invoker.applyUsingCmd func
  | .memUsingCmd func object => Invoker.applyMemUsingCmd func object

/-! ### Decoding -/

namespace Codec

/-- The payloads that decode to a tuple: they start with an array, anything may follow it, and
its elements convert. -/
def Decodes (Ts : List ArgType) (payload : List UInt8) (values : Tuple Ts) : Prop :=
  ∃ items front trailing, payload = front ++ trailing ∧ Formats (.array items) front ∧
    Converts Ts items values

/-- The payloads on which a tuple with an `as` adaptor is converted from outside of the array. -/
def TooShort (Ts : List ArgType) (payload : List UInt8) : Prop :=
  hasAs Ts = true ∧ ∃ items front trailing, payload = front ++ trailing ∧
    Formats (.array items) front ∧ items.length < Ts.length

variable {Ts : List ArgType} {payload : List UInt8}

theorem unpack_eq_ok_iff {values : Tuple Ts} :
    unpack Ts payload = .ok values ↔ decode Ts payload = .ok values := by
  unfold unpack
  rcases decode Ts payload with (thrown | fault) | other
  · exact iff_of_false (fun same => nomatch same) fun same => nomatch same
  · exact Iff.rfl
  · exact Iff.rfl

/-- The codec returns a tuple exactly for the payloads that decode to it. -/
theorem unpack_iff {values : Tuple Ts} :
    unpack Ts payload = .ok values ↔ Decodes Ts payload values := by
  rw [unpack_eq_ok_iff, decode]
  rcases read : Msgpack.unpack payload with thrown | ⟨object, trailing⟩
  · refine iff_of_false (fun same => nomatch same) ?_
    rintro ⟨items, front, trailing, split, formatted, -⟩
    rw [(reads_unpack _ _ _).mpr ⟨front, split, formatted⟩] at read
    cases read
  · show asTuple Ts object = .ok values ↔ _
    rw [asTuple_eq_ok_iff]
    constructor
    · rintro ⟨items, rfl, converted⟩
      obtain ⟨front, split, formatted⟩ := (reads_unpack _ _ _).mp read
      exact ⟨items, front, trailing, split, formatted, converted⟩
    · rintro ⟨items, front, others, split, formatted, converted⟩
      rw [(reads_unpack _ _ _).mpr ⟨front, split, formatted⟩] at read
      obtain ⟨rfl, -⟩ := Prod.mk.inj (Except.ok.inj read)
      exact ⟨items, rfl, converted⟩

/-- Decoding is only undefined where the conversion leaves the array. -/
theorem decode_undefined {fault : Fault} (left : decode Ts payload = .error (.undefined fault)) :
    TooShort Ts payload := by
  rw [decode] at left
  rcases read : Msgpack.unpack payload with thrown | ⟨object, trailing⟩
  · rw [read] at left
    cases left
  · rw [read] at left
    obtain ⟨capable, items, rfl, short⟩ := asTuple_undefined left
    obtain ⟨front, split, formatted⟩ := (reads_unpack _ _ _).mp read
    exact ⟨capable, items, front, trailing, split, formatted, short⟩

/-- Where the conversion leaves the array, nothing is caught. -/
theorem unpack_of_tooShort (short : TooShort Ts payload) :
    unpack Ts payload = .error (.undefined .outOfBounds) := by
  obtain ⟨capable, items, front, trailing, split, formatted, short⟩ := short
  have decoded : decode Ts payload = .error (.undefined .outOfBounds) := by
    rw [decode, (reads_unpack _ _ _).mpr ⟨front, split, formatted⟩]
    show asTuple Ts (.array items) = _
    rw [asTuple, if_pos capable]
    exact tupleAs_of_short short
  rw [unpack, decoded]

/-- Whatever else does not decode is turned into the one exception. -/
theorem unpack_of_not_decodes (long : ¬ TooShort Ts payload)
    (fails : ∀ values, ¬ Decodes Ts payload values) :
    unpack Ts payload = .error (.thrown unpackFailed) := by
  rcases decoded : decode Ts payload with (thrown | fault) | values
  · rw [unpack, decoded]
  · exact absurd (decode_undefined decoded) long
  · exact absurd (unpack_iff.mp (unpack_eq_ok_iff.mpr decoded)) (fails values)

/-- The three ways in which a payload is taken. -/
theorem unpack_cases (Ts : List ArgType) (payload : List UInt8) :
    (∃ values, Decodes Ts payload values ∧ ¬ TooShort Ts payload ∧
      unpack Ts payload = .ok values) ∨
    ((∀ values, ¬ Decodes Ts payload values) ∧ TooShort Ts payload ∧
      unpack Ts payload = .error (.undefined .outOfBounds)) ∨
    ((∀ values, ¬ Decodes Ts payload values) ∧ ¬ TooShort Ts payload ∧
      unpack Ts payload = .error (.thrown unpackFailed)) := by
  by_cases decodes : ∃ values, Decodes Ts payload values
  · obtain ⟨values, decoded⟩ := decodes
    have unpacked := unpack_iff.mpr decoded
    have long : ¬ TooShort Ts payload := fun short =>
      nomatch unpacked.symm.trans (unpack_of_tooShort short)
    exact Or.inl ⟨values, decoded, long, unpacked⟩
  · have fails := not_exists.mp decodes
    by_cases short : TooShort Ts payload
    · exact Or.inr (Or.inl ⟨fails, short, unpack_of_tooShort short⟩)
    · exact Or.inr (Or.inr ⟨fails, short, unpack_of_not_decodes short fails⟩)

/-- A payload decodes to one tuple at most. -/
theorem decodes_unique {values others : Tuple Ts} (decoded : Decodes Ts payload values)
    (decoded' : Decodes Ts payload others) : values = others :=
  Except.ok.inj ((unpack_iff.mpr decoded).symm.trans (unpack_iff.mpr decoded'))

end Codec

/-! ### Invoking -/

namespace Invoker

/-- How the wrapper of a free function reports the way its handler ends. -/
def classify (func : Function Env) : Except Failure Unit × Env → Except Failure String × Env
  | (.ok (), env) =>
    (.ok (if func.returnsVoid then "invoke return void. OK" else "invoke return non-void. OK"), env)
  | (.error (.thrown (.invalidArgument _)), env) => (.ok "ARGS FAIL", env)
  | (.error (.thrown (.exception _)), env) => (.ok "FAIL", env)
  | (.error (.thrown .other), env) => (.error (.thrown .other), env)
  | (.error (.undefined fault), env) => (.error (.undefined fault), env)

/-- On arguments that decode the handler runs once and its end is reported. -/
theorem exec_apply_of_ok {func : Function Env} {data : List UInt8} {values : Tuple func.args}
    (decoded : Codec.unpack func.args data = .ok values) (env : Env) :
    exec (apply func data) env = classify func (exec (func.invoke values) env) := by
  rw [apply, exec_catching, exec_bind, decoded, exec_ofResult]
  dsimp only
  rw [Function.call, exec_bind]
  rcases exec (func.invoke values) env with ⟨((what | what | _) | fault) | value, after⟩ <;> rfl

/-- What a handler leaves behind is not changed by reporting its end. -/
theorem classify_snd (func : Function Env) (settled : Except Failure Unit × Env) :
    (classify func settled).2 = settled.2 := by
  rcases settled with ⟨((what | what | _) | fault) | value, env⟩ <;> rfl

/-- The text that a member function is answered with when it returns. -/
def memberText (func : MemberFunction Object Env) : String :=
  if func.returnsVoid then "call member return void. OK" else "call member return non void. OK"

/-- A member function runs once on arguments that decode, and how it ends is not looked at. -/
theorem exec_applyMember_of_ok {func : MemberFunction Object Env} {object : Object}
    {data : List UInt8} {values : Tuple func.args}
    (decoded : Codec.unpack func.args data = .ok values) (env : Env) :
    exec (applyMember func object data) env =
      ((exec (func.invoke object values) env).1.map fun _ => memberText func,
        (exec (func.invoke object values) env).2) := by
  rw [applyMember, exec_bind, decoded, exec_ofResult]
  exact exec_bind_pure (func.invoke object values) (fun _ => memberText func) env

/-- On arguments that do not decode a member function does not run, and the exception escapes. -/
theorem exec_applyMember_of_error {func : MemberFunction Object Env} {object : Object}
    {data : List UInt8} {failure : Failure}
    (refused : Codec.unpack func.args data = .error failure) (env : Env) :
    exec (applyMember func object data) env = (.error failure, env) := by
  rw [applyMember, exec_bind, refused, exec_ofResult]

/-- On arguments that do not decode the handler does not run. -/
theorem exec_apply_of_thrown {func : Function Env} {data : List UInt8}
    (refused : Codec.unpack func.args data = .error (.thrown Codec.unpackFailed)) (env : Env) :
    exec (apply func data) env = (.ok "ARGS FAIL", env) := by
  rw [apply, exec_catching, exec_bind, refused, exec_ofResult]
  rfl

/-- Where decoding is undefined, so is the wrapper, and the handler does not run. -/
theorem exec_apply_of_undefined {func : Function Env} {data : List UInt8} {fault : Fault}
    (left : Codec.unpack func.args data = .error (.undefined fault)) (env : Env) :
    exec (apply func data) env = (.error (.undefined fault), env) := by
  rw [apply, exec_catching, exec_bind, left, exec_ofResult]

end Invoker

end RpcInstance
