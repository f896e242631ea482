/-
This file is about calls on their way to a handler: a frame on the wire reaches
the handler that a local call reaches, with the same bytes, and an argument-pack
handler runs exactly on the payloads that decode to its arguments.
-/

import RpcInstance.Base
import RpcInstance.Msgpack.Adaptors

namespace RpcInstance

open Code Msgpack

/-! ### The table -/

section

variable {Env : Type}

/-- The handler that a sequence of `bind` calls binds to a type last. -/
def lastBound (binds : List (CallType × Binding Env)) (type : CallType) : Option (Binding Env) :=
  (binds.reverse.find? fun bound => bound.1 = type).map Prod.snd

/-- Where a call of a type with some bytes ends, after a sequence of `bind` calls. -/
def reached (binds : List (CallType × Binding Env)) (type : CallType) (bytes : List UInt8) :
    Ending Env :=
  match lastBound binds type with
  | none => .idle
  | some binding => .handler binding.wrapper bytes

theorem lastBound_concat (binds : List (CallType × Binding Env)) (bound : CallType × Binding Env)
    (type : CallType) :
    lastBound (binds ++ [bound]) type =
      if bound.1 = type then some bound.2 else lastBound binds type := by
  rw [lastBound, List.reverse_concat, List.find?_cons]
  by_cases same : bound.1 = type
  · rw [decide_eq_true same, if_pos same]
    rfl
  · rw [decide_eq_false same, if_neg same]
    rfl

end

/-! ### Handlers that are watched -/

section

variable {Ts : List ArgType}

/-- Notes the arguments of an invocation, and then behaves in some way. -/
def noting (behaviour : Tuple Ts → Except Failure Unit) (tup : Tuple Ts) :
    Code (List (Tuple Ts)) Unit := do
  modify fun log => log ++ [tup]
  ofResult (behaviour tup)

/-- A free function that notes its arguments. -/
def recording (Ts : List ArgType) (returnsVoid : Bool)
    (behaviour : Tuple Ts → Except Failure Unit) : Function (List (Tuple Ts)) where
  args := Ts
  returnsVoid
  invoke := noting behaviour

/-- A payload that decodes is noted, and the behaviour of the handler is reported. -/
theorem exec_recording {payload : List UInt8} {values : Tuple Ts} (returnsVoid : Bool)
    (behaviour : Tuple Ts → Except Failure Unit) (decoded : Codec.unpack Ts payload = .ok values)
    (log : List (Tuple Ts)) :
    exec (Invoker.apply (recording Ts returnsVoid behaviour) payload) log =
      Invoker.classify (recording Ts returnsVoid behaviour) (behaviour values, log ++ [values]) :=
  Invoker.exec_apply_of_ok decoded log

end

/-! ### One way to the handler -/

section

variable {Generator Input ServerGenerator ServerInput : Type} [IdGenerator Generator Input]
  [IdGenerator ServerGenerator ServerInput] {ClientEnv ServerEnv : Type}

end

/-- A handler that notes the one `int` it takes. -/
def takesInt : Function (List (Tuple [int])) := recording [int] true fun _ => .ok ()

/-- A free function with an argument pack is invoked exactly on the payloads that decode to its
arguments, and with these; any other payload is answered with `ARGS FAIL`. Payloads that make
msgpack read outside of an array are left out. -/
theorem apply_invokes_iff (Ts : List ArgType) (returnsVoid : Bool)
    (behaviour : Tuple Ts → Except Failure Unit) (payload : List UInt8)
    (long : ¬ Codec.TooShort Ts payload) :
    (∀ values,
      (exec (Invoker.apply (recording Ts returnsVoid behaviour) payload) []).2 = [values] ↔
        Codec.Decodes Ts payload values) ∧
    ((∀ values, ¬ Codec.Decodes Ts payload values) →
      exec (Invoker.apply (recording Ts returnsVoid behaviour) payload) [] =
        (.ok "ARGS FAIL", [])) := by
  rcases Codec.unpack_cases Ts payload with ⟨others, decoded, -, unpacked⟩ | ⟨-, short, -⟩ |
    ⟨fails, -, refused⟩
  · refine ⟨fun values => ?_, fun fails => absurd decoded (fails others)⟩
    rw [exec_recording returnsVoid behaviour unpacked, Invoker.classify_snd]
    constructor
    · intro same
      obtain rfl := List.singleton_inj.mp same
      exact decoded
    · intro decoded'
      rw [Codec.decodes_unique decoded decoded']
      rfl
  · exact absurd short long
  · have answered : exec (Invoker.apply (recording Ts returnsVoid behaviour) payload) [] =
        (.ok "ARGS FAIL", []) := Invoker.exec_apply_of_thrown refused []
    rw [answered]
    exact ⟨fun values => iff_of_false (fun same => nomatch same) (fails values), fun _ => rfl⟩

theorem apply_invokes_int :
    (exec (Invoker.apply takesInt [0x91, 5]) []).2 =
        [(5#32, ())] ↔ Codec.Decodes [int] [0x91, 5] (5#32, ()) :=
  (apply_invokes_iff [int] true (fun _ => .ok ()) [0x91, 5]
    fun short => Bool.false_ne_true short.1).1 (5#32, ())

/-- A handler for one `int` is invoked on an array with bytes behind it, on an empty array, and
on an array with two elements. -/
theorem apply_invokes_more :
    (¬ ∃ items, Formats (.array items) [0x91, 5, 0xc0]) ∧
      (exec (Invoker.apply takesInt [0x91, 5, 0xc0]) []).2 =
        [(5#32, ())] ∧
      (exec (Invoker.apply takesInt [0x90]) []).2 =
        [(0#32, ())] ∧
      (exec (Invoker.apply takesInt [0x92, 5, 6]) []).2 =
        [(5#32, ())] := by
  refine ⟨?_, rfl, rfl, rfl⟩
  rintro ⟨items, formatted⟩
  have read := (reads_unpack _ _ _).mpr ⟨_, (List.append_nil _).symm, formatted⟩
  have actual : Msgpack.unpack [0x91, 5, 0xc0] = .ok (.array [.positiveInteger 5], [0xc0]) := rfl
  cases (Prod.mk.inj (Except.ok.inj (read.symm.trans actual))).2

end RpcInstance
