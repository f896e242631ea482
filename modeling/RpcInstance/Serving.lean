/-
This file is about a server that anyone may send frames to: the table changes while it
runs, and the frames that arrive have any type and any data, as long as the size that
they declare fits behind the header.

The server is safe when it binds free functions only, whose arguments have no `as`
adaptor and which throw nothing but standard exceptions. It then does what a desk does
that cannot fail at all: the desk answers a frame of an unknown type with nothing, data
that does not decode with `ARGS FAIL`, and any other data by one invocation of the
handler that was bound last.
-/

import RpcInstance.Library.Simulation
import RpcInstance.Wrappers

namespace RpcInstance

open Code Msgpack Simulation

variable {Env : Type}

/-! ### The desk -/

/-- A free function that `apply` answers for whatever the data is. -/
structure Guarded (Env : Type) where
  func : Function Env
  plain : hasAs func.args = false
  standard : ∀ values, Standard (func.invoke values)

namespace Guarded

/-- The text that the end of an invocation is answered with. -/
def report (guarded : Guarded Env) : Except Failure Unit → String
  | .ok () => functionText guarded.func
  | .error (.thrown (.invalidArgument _)) => "ARGS FAIL"
  | .error _ => "FAIL"

/-- What some data is answered with, and the environment that is left. -/
def answer (guarded : Guarded Env) (data : List UInt8) (env : Env) : String × Env :=
  match Codec.unpack guarded.func.args data with
  | .error _ => ("ARGS FAIL", env)
  | .ok values =>
    let (ended, env) := exec (guarded.func.invoke values) env
    (guarded.report ended, env)

theorem classify_eq (guarded : Guarded Env) {settled : Except Failure Unit × Env}
    (standard : StandardEnd settled.1) :
    Invoker.classify guarded.func settled = (.ok (guarded.report settled.1), settled.2) := by
  obtain ⟨result, env⟩ := settled
  obtain ⟨value, rfl⟩ | ⟨what, rfl⟩ | ⟨what, rfl⟩ := standardEnd_cases standard <;> rfl

/-- The wrapper of the function returns on any data, with the answer of the desk. -/
theorem exec_apply (guarded : Guarded Env) (data : List UInt8) (env : Env) :
    exec (Invoker.apply guarded.func data) env =
      (.ok (guarded.answer data env).1, (guarded.answer data env).2) := by
  have plain : ¬ Codec.TooShort guarded.func.args data :=
    fun short => Bool.noConfusion (guarded.plain.symm.trans short.1)
  rw [answer]
  rcases Codec.unpack_cases guarded.func.args data with ⟨values, -, -, unpacked⟩ |
    ⟨-, short, -⟩ | ⟨-, -, refused⟩
  · rw [Invoker.exec_apply_of_ok unpacked, unpacked]
    exact guarded.classify_eq (guarded.standard values env)
  · exact absurd short plain
  · rw [Invoker.exec_apply_of_thrown refused, refused]

end Guarded

/-- What happens to a server: a function is bound, or a frame arrives. -/
inductive Arrival (Env : Type) where
  | bind (type : CallType) (guarded : Guarded Env)
  | frame (msg : RpcMsg) (inside : headerSize + msg.size.toNat ≤ maxMsgLen)

/-- The functions by type, and the state they work on. -/
structure Desk (Env : Type) where
  functions : CallType → Option (Guarded Env)
  env : Env

namespace Desk

/-- A desk without functions. -/
def start (env : Env) : Desk Env where
  functions _ := none
  env

/-- The desk always has an answer, which is nothing where there is no function. -/
def step (desk : Desk Env) : Arrival Env → Option String × Desk Env
  | .bind type guarded =>
    (none, { desk with functions := Function.update desk.functions type (some guarded) })
  | .frame msg _ =>
    match desk.functions ⟨msg.type⟩ with
    | none => (none, desk)
    | some guarded =>
      let (text, env) := guarded.answer (msg.data.bytes.take msg.size.toNat) desk.env
      (some text, { desk with env })

end Desk

/-! ### The server -/

/-- A server, and the state that its handlers work on. -/
structure Server (Env : Type) where
  base : RpcBase Env
  env : Env

namespace Server

/-- A server with nothing bound. -/
def start (env : Env) : Server Env where
  base := {}
  env

/-- Binds a function, or routes a frame and runs its handler. -/
def step (server : Server Env) : Arrival Env → Except Failure (Option String) × Server Env
  | .bind type guarded => (.ok none, { server with
      base := server.base.bind type (.function guarded.func) })
  | .frame msg _ =>
    match server.base.route (some msg) with
    | .error failure => (.error failure, server)
    | .ok ending =>
      let (result, env) := exec (ending.perform fun _ _ => return ()) server.env
      (result, { server with env })

/-- A server with the functions and the state of a desk. -/
structure Follows (server : Server Env) (desk : Desk Env) : Prop where
  functions : ∀ type, server.base.functionMap[type]? =
    (desk.functions type).map fun guarded => Invoker.apply guarded.func
  env : server.env = desk.env

/-- One arrival at the server is answered as at the desk. -/
theorem simulates : Simulates step
    (fun (desk : Desk Env) arrival => (.ok (desk.step arrival).1, (desk.step arrival).2))
    fun _ server desk => server.Follows desk := by
  intro arrival rest server desk follows
  cases arrival with
  | bind type guarded =>
    have functions := @RpcBase.functionMap_bind Env server.base (fun _ => Guarded Env)
      desk.functions (fun _ guarded => .function guarded.func) follows.functions type guarded
    exact ⟨rfl, functions, follows.env⟩
  | frame msg inside =>
    have copied := @copyData_eq_ok msg.data _ ((headerSize_add_le_iff _).mp inside)
    dsimp only [step, Desk.step]
    rw [RpcBase.route, RpcBase.dispatch, follows.functions, copied]
    rcases desk.functions ⟨msg.type⟩ with _ | guarded
    · exact ⟨rfl, follows⟩
    · have ran : exec ((Ending.handler (Invoker.apply guarded.func)
          (msg.data.bytes.take msg.size.toNat)).perform fun _ _ => return ()) server.env =
          (.ok (some (guarded.answer (msg.data.bytes.take msg.size.toNat) desk.env).1),
            (guarded.answer (msg.data.bytes.take msg.size.toNat) desk.env).2) := by
        rw [Ending.perform, exec_bind_pure, guarded.exec_apply, follows.env]
        rfl
      show (exec _ server.env).1 = _ ∧ Follows { server with env := (exec _ server.env).2 } _
      rw [ran]
      exact ⟨rfl, follows.functions, rfl⟩

end Server

/-- A server of free functions returns from every arrival of every run, whatever the frames hold,
and answers as its desk does, which invokes a function only on data that decodes. -/
theorem server_survives (env : Env) (arrivals : List (Arrival Env)) :
    outputs Server.step (Server.start env) arrivals =
        (outputs Desk.step (Desk.start env) arrivals).map Except.ok ∧
      (final Server.step (Server.start env) arrivals).env =
        (final Desk.step (Desk.start env) arrivals).env := by
  have follows : (Server.start env).Follows (Desk.start env) :=
    ⟨fun _ => Std.HashMap.getElem?_empty, rfl⟩
  rw [← outputs_map]
  exact ⟨Server.simulates.outputs_eq follows, (Server.simulates.final_related follows).env⟩

/-- What a function does that wants no negative number. -/
def refuseNegative (number : int.Value) : Except Failure Unit :=
  if IntType.int32.toInt number < 0 then .error (.thrown (.exception "negative")) else .ok ()

theorem standardEnd_refuseNegative (number : int.Value) : StandardEnd (refuseNegative number) := by
  rw [refuseNegative]
  split <;> trivial

/-- The function, which notes its numbers. -/
def refusing : Guarded (List (Tuple [int])) where
  func := recording [int] true fun values => refuseNegative values.1
  plain := rfl
  standard values _ := standardEnd_refuseNegative values.1

/-- A number, a negative one, a string, and a byte that msgpack never uses. -/
example : refusing.answer [0x91, 0x07] [] = ("invoke return void. OK", [(7#32, ())]) ∧
    refusing.answer [0x91, 0xff] [] = ("FAIL", [(-1#32, ())]) ∧
    refusing.answer [0x91, 0xa1, 0x61] [] = ("ARGS FAIL", []) ∧
    refusing.answer [0xc1] [] = ("ARGS FAIL", []) :=
  ⟨rfl, rfl, rfl, rfl⟩

end RpcInstance
