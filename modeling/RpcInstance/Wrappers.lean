/-
This file compares the four wrappers by what they make of a handler that does not
return and of a payload that does not decode.

Only the wrapper of a free function with an argument pack has a `try` block. The
exceptions that the three others let through unwind `route`. The `try` block spans
decoding as well as the handler, and tells the two apart by the class of the
exception, so a handler that throws what decoding throws is reported as a payload
that did not decode.
-/

import RpcInstance.Dispatch

namespace RpcInstance

open Code Msgpack

/-! ### Handlers that throw standard exceptions -/

/-- An end that the program prepares for: it returns, or it throws an object of a class derived
from `std::exception`. -/
def StandardEnd {Value : Type} : Except Failure Value → Prop
  | .error (.thrown .other) => False
  | .error (.undefined _) => False
  | _ => True

/-- Code that ends so on every state. -/
def Standard {State Value : Type} (code : Code State Value) : Prop :=
  ∀ state, StandardEnd (exec code state).1

theorem standardEnd_cases {Value : Type} {settled : Except Failure Value}
    (ends : StandardEnd settled) :
    (∃ value, settled = .ok value) ∨ (∃ what, settled = .error (.thrown (.exception what))) ∨
      ∃ what, settled = .error (.thrown (.invalidArgument what)) := by
  rcases settled with ((what | what | _) | fault) | value
  · exact Or.inr (Or.inr ⟨what, rfl⟩)
  · exact Or.inr (Or.inl ⟨what, rfl⟩)
  · exact ends.elim
  · exact ends.elim
  · exact Or.inl ⟨value, rfl⟩

variable {Env : Type}

/-- Every invocation of a bound handler ends so. -/
def Binding.Standard : Binding Env → Prop
  | .function func => ∀ values, RpcInstance.Standard (func.invoke values)
  | .member func object => ∀ values, RpcInstance.Standard (func.invoke object values)
  | .usingCmd func => ∀ data, RpcInstance.Standard (func data)
  | .memUsingCmd func object => ∀ data, RpcInstance.Standard (func object data)

/-- A free function with an argument pack may end as it likes, as long as msgpack reads nothing
outside of an array. A handler of another kind has to return, and a member function has to be given
a payload that decodes. -/
def Binding.Settles (payload : List UInt8) (env : Env) : Binding Env → Prop
  | .function func => ¬ Codec.TooShort func.args payload
  | .member func object =>
    ∃ values, Codec.Decodes func.args payload values ∧ Returns (func.invoke object values) env
  | .usingCmd func => Returns (func payload) env
  | .memUsingCmd func object => Returns (func object payload) env

/-! ### Exceptions that are caught -/

section

variable {payload : List UInt8} {env : Env}

/-- What a handler throws is reported in place of being thrown. -/
theorem classify_returns {func : Function Env} {settled : Except Failure Unit × Env}
    (ends : StandardEnd settled.1) : ∃ result, (Invoker.classify func settled).1 = .ok result := by
  obtain ⟨result, env⟩ := settled
  obtain ⟨value, rfl⟩ | ⟨what, rfl⟩ | ⟨what, rfl⟩ := standardEnd_cases ends
  · exact ⟨_, rfl⟩
  · exact ⟨_, rfl⟩
  · exact ⟨_, rfl⟩

/-- What a free function with an argument pack throws is caught. -/
theorem apply_returns_iff {func : Function Env}
    (standard : ∀ values, Standard (func.invoke values)) :
    Returns (Invoker.apply func payload) env ↔ ¬ Codec.TooShort func.args payload := by
  unfold Returns
  rcases Codec.unpack_cases func.args payload with ⟨values, -, long, unpacked⟩ |
    ⟨-, short, left⟩ | ⟨-, long, refused⟩
  · rw [Invoker.exec_apply_of_ok unpacked]
    exact iff_of_true (classify_returns (standard values env)) long
  · rw [Invoker.exec_apply_of_undefined left]
    exact iff_of_false (fun ⟨_, same⟩ => nomatch same) (not_not_intro short)
  · rw [Invoker.exec_apply_of_thrown refused]
    exact iff_of_true ⟨_, rfl⟩ long

/-- A member function with an argument pack returns where it decodes its arguments and its handler
returns, and throws otherwise. -/
theorem applyMember_returns_iff {Object : Type} {func : MemberFunction Object Env}
    {object : Object} : Returns (Invoker.applyMember func object payload) env ↔
      ∃ values, Codec.Decodes func.args payload values ∧
        Returns (func.invoke object values) env := by
  have refuses {failure : Failure} (fails : ∀ values, ¬ Codec.Decodes func.args payload values)
      (refused : Codec.unpack func.args payload = .error failure) :
      Returns (Invoker.applyMember func object payload) env ↔
        ∃ values, Codec.Decodes func.args payload values ∧
          Returns (func.invoke object values) env := by
    rw [Returns, Invoker.exec_applyMember_of_error refused]
    refine iff_of_false (fun ⟨_, same⟩ => nomatch same) ?_
    exact fun ⟨values, decoded, _⟩ => fails values decoded
  rcases Codec.unpack_cases func.args payload with ⟨values, decoded, -, unpacked⟩ |
    ⟨fails, -, left⟩ | ⟨fails, -, refused⟩
  · have member : Returns (Invoker.applyMember func object payload) env ↔
        Returns (func.invoke object values) env := by
      unfold Returns
      rw [Invoker.exec_applyMember_of_ok unpacked]
      exact ok_map_iff
    rw [member]
    constructor
    · exact fun returns => ⟨values, decoded, returns⟩
    · rintro ⟨others, decoded', returns⟩
      rwa [Codec.decodes_unique decoded decoded']
  · exact refuses fails left
  · exact refuses fails refused

/-- When the wrapper of a handler returns. -/
theorem Binding.returns_iff {binding : Binding Env} (standard : binding.Standard) :
    Returns (binding.wrapper payload) env ↔ binding.Settles payload env := by
  cases binding with
  | function func => exact apply_returns_iff standard
  | member func object => exact applyMember_returns_iff
  | usingCmd func => exact returns_bind_pure_iff
  | memUsingCmd func object => exact returns_bind_pure_iff

end

/-! ### Handlers behind `route` -/

/-- A message that `route` finds a handler for and returns from, with whatever `sendMsg` the
object's class has. -/
def RpcBase.RouteReturns (self : RpcBase Env) (msg : RpcMsg)
    (sendMsg : RpcMsg → UInt32 → Code Env Unit) (env : Env) : Prop :=
  ∃ ending : Ending Env, self.route (some msg) = .ok ending ∧ Returns (ending.perform sendMsg) env

/-- A message of a type that is bound reaches the handler with its data. -/
theorem route_bind {self : RpcBase Env} {type : CallType} {binding : Binding Env} {msg : RpcMsg}
    {payload : List UInt8} (addressed : msg.type = type.value)
    (copied : copyData msg.data msg.size = .ok payload) :
    (self.bind type binding).route (some msg) = .ok (.handler binding.wrapper payload) := by
  have found : (self.bind type binding).functionMap[CallType.mk msg.type]? =
      some binding.wrapper := by
    rw [addressed]
    exact Std.HashMap.getElem?_insert_self
  rw [RpcBase.route, RpcBase.dispatch, found, copied]
  rfl

theorem routeReturns_iff {self : RpcBase Env} {type : CallType} {binding : Binding Env}
    {msg : RpcMsg} {payload : List UInt8} {sendMsg : RpcMsg → UInt32 → Code Env Unit} {env : Env}
    (addressed : msg.type = type.value) (copied : copyData msg.data msg.size = .ok payload)
    (standard : binding.Standard) :
    (self.bind type binding).RouteReturns msg sendMsg env ↔ binding.Settles payload env := by
  rw [← Binding.returns_iff standard, RpcBase.RouteReturns, route_bind addressed copied]
  constructor
  · rintro ⟨ending, same, returns⟩
    obtain rfl := Except.ok.inj same
    exact returns_bind_pure_iff.mp returns
  · exact fun returns => ⟨_, rfl, returns_bind_pure_iff.mpr returns⟩

/-! ### Two kinds of handlers -/

/-- The member function that does what a free function does. -/
def Function.asMember (func : Function Env) (Object : Type) : MemberFunction Object Env where
  args := func.args
  returnsVoid := func.returnsVoid
  invoke _ := func.invoke

/-- What the result of a wrapper says about a call. -/
inductive Report where
  /-- The arguments were rejected. -/
  | rejected
  /-- The handler failed. -/
  | failed
  | succeeded
  deriving DecidableEq, Repr

/-- What a caller makes of the text. -/
def Report.ofText (result : String) : Report :=
  if result = "ARGS FAIL" then .rejected
  else if result = "FAIL" then .failed
  else .succeeded

/-- The text that a free function is answered with when it returns. -/
def functionText (func : Function Env) : String :=
  if func.returnsVoid then "invoke return void. OK" else "invoke return non-void. OK"

theorem classify_of_ok {func : Function Env} {settled : Except Failure Unit × Env}
    (ended : settled.1 = .ok ()) :
    Invoker.classify func settled = (.ok (functionText func), settled.2) := by
  obtain ⟨result, env⟩ := settled
  obtain rfl : result = .ok () := ended
  rfl

theorem ofText_functionText (func : Function Env) :
    Report.ofText (functionText func) = .succeeded := by
  rw [functionText]
  cases func.returnsVoid <;> rfl

theorem ofText_memberText {Object : Type} (func : MemberFunction Object Env) :
    Report.ofText (Invoker.memberText func) = .succeeded := by
  rw [Invoker.memberText]
  cases func.returnsVoid <;> rfl

/-- Two wrappers that both return, with results that say the same. -/
def SameReport (first second : Wrapper Env) (payload : List UInt8) (env : Env) : Prop :=
  ∃ result other, (exec (first payload) env).1 = .ok result ∧
    (exec (second payload) env).1 = .ok other ∧ Report.ofText result = Report.ofText other

section

variable {func : Function Env} {Object : Type} {object : Object} {payload : List UInt8} {env : Env}

/-- A free function and a member function that do the same are invoked on the same payloads, with
the same arguments. -/
theorem apply_snd_eq_applyMember_snd :
    (exec (Invoker.apply func payload) env).2 =
      (exec (Invoker.applyMember (func.asMember Object) object payload) env).2 := by
  have refuses {failure : Failure}
      (refused : Codec.unpack (func.asMember Object).args payload = .error failure) :
      (exec (Invoker.applyMember (func.asMember Object) object payload) env).2 = env := by
    rw [Invoker.exec_applyMember_of_error refused]
  rcases Codec.unpack_cases func.args payload with ⟨values, -, -, unpacked⟩ | ⟨-, -, left⟩ |
    ⟨-, -, refused⟩
  · have unpacked' : Codec.unpack (func.asMember Object).args payload = .ok values := unpacked
    rw [Invoker.exec_apply_of_ok unpacked, Invoker.classify_snd,
      Invoker.exec_applyMember_of_ok unpacked']
    rfl
  · rw [refuses left, Invoker.exec_apply_of_undefined left]
  · rw [refuses refused, Invoker.exec_apply_of_thrown refused]

/-- They are reported as the same where the payload decodes and the handler returns. Elsewhere the
member function has no result. -/
theorem sameReport_apply_applyMember_iff :
    SameReport (Invoker.apply func) (Invoker.applyMember (func.asMember Object) object) payload
        env ↔
      ∃ values, Codec.Decodes func.args payload values ∧ Returns (func.invoke values) env := by
  constructor
  · rintro ⟨-, other, -, ended, -⟩
    exact applyMember_returns_iff.mp ⟨other, ended⟩
  · rintro ⟨values, decoded, value, ended⟩
    have unpacked := Codec.unpack_iff.mpr decoded
    have unpacked' : Codec.unpack (func.asMember Object).args payload = .ok values := unpacked
    refine ⟨functionText func, Invoker.memberText (func.asMember Object), ?_, ?_, ?_⟩
    · rw [Invoker.exec_apply_of_ok unpacked, classify_of_ok ended]
    · rw [Invoker.exec_applyMember_of_ok unpacked']
      exact congrArg (Except.map _) ended
    · rw [ofText_functionText, ofText_memberText]

end

section

variable {func : CmdFunction Env} {Object : Type} {object : Object} {payload : List UInt8}
  {env : Env}

/-- A function that takes the bytes runs once on the payload, and how it ends is not looked at. -/
theorem Invoker.exec_applyUsingCmd (func : CmdFunction Env) (payload : List UInt8) (env : Env) :
    exec (Invoker.applyUsingCmd func payload) env =
      ((exec (func payload) env).1.map fun _ => "OK", (exec (func payload) env).2) :=
  exec_bind_pure (func payload) (fun _ => "OK") env

/-- So does a member function that takes the bytes. -/
theorem Invoker.exec_applyMemUsingCmd (func : Object → CmdFunction Env) (object : Object)
    (payload : List UInt8) (env : Env) :
    exec (Invoker.applyMemUsingCmd func object payload) env =
      ((exec (func object payload) env).1.map fun _ => "OK",
        (exec (func object payload) env).2) :=
  exec_bind_pure (func object payload) (fun _ => "OK") env

/-- The two kinds that take the bytes are reported as the same where the handler returns. Elsewhere
neither has a result. -/
theorem sameReport_applyUsingCmd_iff :
    SameReport (Invoker.applyUsingCmd func) (Invoker.applyMemUsingCmd (fun _ => func) object)
        payload env ↔ Returns (func payload) env := by
  rw [SameReport, Invoker.exec_applyUsingCmd, Invoker.exec_applyMemUsingCmd]
  constructor
  · rintro ⟨result, -, ended, -, -⟩
    exact ok_map_iff.mp ⟨result, ended⟩
  · rintro ⟨value, ended⟩
    refine ⟨"OK", "OK", ?_, ?_, rfl⟩
    · exact congrArg (Except.map _) ended
    · exact congrArg (Except.map _) ended

end

/-- `route` returns from a message exactly when the payload and the handler settle the wrapper that
is bound. A free function and a member function with an argument pack that do the same are invoked
alike, and reported alike exactly where the payload decodes and the handler returns. Of the two
kinds that take the bytes, both are invoked on the payload whatever it is, and they are reported
alike exactly where the handler returns. -/
theorem handlers_contained_iff (self : RpcBase Env) (type : CallType) (msg : RpcMsg)
    (payload : List UInt8) (addressed : msg.type = type.value)
    (copied : copyData msg.data msg.size = .ok payload)
    (sendMsg : RpcMsg → UInt32 → Code Env Unit) (env : Env) :
    (∀ binding : Binding Env, binding.Standard →
      ((self.bind type binding).RouteReturns msg sendMsg env ↔ binding.Settles payload env)) ∧
    (∀ (func : Function Env) (Object : Type) (object : Object),
      (exec (Invoker.apply func payload) env).2 =
        (exec (Invoker.applyMember (func.asMember Object) object payload) env).2 ∧
      (SameReport (Invoker.apply func) (Invoker.applyMember (func.asMember Object) object) payload
          env ↔
        ∃ values, Codec.Decodes func.args payload values ∧ Returns (func.invoke values) env)) ∧
    ∀ (func : CmdFunction Env) (Object : Type) (object : Object),
      (exec (Invoker.applyUsingCmd func payload) env).2 = (exec (func payload) env).2 ∧
      (exec (Invoker.applyMemUsingCmd (fun _ => func) object payload) env).2 =
        (exec (func payload) env).2 ∧
      (SameReport (Invoker.applyUsingCmd func) (Invoker.applyMemUsingCmd (fun _ => func) object)
          payload env ↔ Returns (func payload) env) := by
  refine ⟨?_, ?_, ?_⟩
  · exact fun binding standard => routeReturns_iff addressed copied standard
  · intro func Object object
    exact ⟨apply_snd_eq_applyMember_snd, sameReport_apply_applyMember_iff⟩
  · intro func Object object
    rw [Invoker.exec_applyUsingCmd, Invoker.exec_applyMemUsingCmd]
    exact ⟨rfl, rfl, sameReport_applyUsingCmd_iff⟩

/-- A frame without data. -/
def emptyFrame : RpcMsg where
  type := CallType.session.value
  data := .zero dataCapacity

theorem handlers_contained_cmd :
    (RpcBase.bind {} CallType.session (.usingCmd fun _ => return ())).RouteReturns emptyFrame
      (fun _ _ => return ()) () :=
  ((handlers_contained_iff {} CallType.session emptyFrame [] rfl rfl (fun _ _ => return ())
    ()).1 (.usingCmd fun _ => return ()) fun _ _ => trivial).mpr ⟨(), rfl⟩

/-- A handler that takes one `int` and returns. -/
def acceptInt : Function Unit := ⟨[int], true, fun _ => return ()⟩

/-- No `int` is read from a frame without data. A free function answers that its arguments failed;
a member function that does the same is left by the exception, and so is `route`. -/
theorem member_not_contained :
    (Binding.member (acceptInt.asMember Unit) ()).Standard ∧
    ¬ (RpcBase.bind {} CallType.session (.member (acceptInt.asMember Unit) ())).RouteReturns
      emptyFrame (fun _ _ => return ()) () ∧
    (exec (Invoker.apply acceptInt []) ()).1 = .ok "ARGS FAIL" ∧
    (exec (Invoker.applyMember (acceptInt.asMember Unit) () []) ()).1 =
      .error (.thrown Codec.unpackFailed) := by
  have standard : (Binding.member (acceptInt.asMember Unit) ()).Standard := fun _ _ => trivial
  refine ⟨standard, fun returns => ?_, rfl, rfl⟩
  obtain ⟨values, decoded, -⟩ :=
    (@routeReturns_iff _ {} CallType.session _ emptyFrame [] _ _ rfl rfl standard).mp returns
  cases Codec.unpack_iff.mpr decoded

/-! ### Results that are told apart -/

section

variable {Ts : List ArgType}

/-- The result of a free function with an argument pack says what happened: the log has the
arguments of every invocation of the handler. -/
structure Faithful (returnsVoid : Bool) (behaviour : Tuple Ts → Except Failure Unit)
    (payload : List UInt8) (answer : Except Failure String × List (Tuple Ts)) : Prop where
  rejected : answer.1 = .ok "ARGS FAIL" ↔
    (∀ values, ¬ Codec.Decodes Ts payload values) ∧ answer.2 = []
  failed : answer.1 = .ok "FAIL" ↔
    ∃ values what, answer.2 = [values] ∧ behaviour values = .error (.thrown what)
  succeeded : answer.1 = .ok (functionText (recording Ts returnsVoid behaviour)) ↔
    ∃ values, answer.2 = [values] ∧ behaviour values = .ok ()

variable {returnsVoid : Bool} {behaviour : Tuple Ts → Except Failure Unit} {payload : List UInt8}

theorem functionText_ne (func : Function Env) {result : String}
    (other : Report.ofText result ≠ .succeeded) : functionText func ≠ result := by
  intro same
  rw [← same, ofText_functionText] at other
  exact other rfl

theorem faithful_of_refused (fails : ∀ values, ¬ Codec.Decodes Ts payload values) :
    Faithful returnsVoid behaviour payload (.ok "ARGS FAIL", []) where
  rejected := iff_of_true rfl ⟨fails, rfl⟩
  failed := iff_of_false (fun same => absurd (Except.ok.inj same) (by decide))
    fun ⟨_, _, same, _⟩ => nomatch same
  succeeded := iff_of_false (fun same => functionText_ne _ (by decide) (Except.ok.inj same).symm)
    fun ⟨_, same, _⟩ => nomatch same

theorem faithful_of_ok {values : Tuple Ts} (ends : behaviour values = .ok ()) :
    Faithful returnsVoid behaviour payload
      (.ok (functionText (recording Ts returnsVoid behaviour)), [values]) where
  rejected := iff_of_false (fun same => functionText_ne _ (by decide) (Except.ok.inj same))
    fun ⟨_, same⟩ => nomatch same
  failed := by
    refine iff_of_false (fun same => functionText_ne _ (by decide) (Except.ok.inj same)) ?_
    rintro ⟨other, what, same, throws⟩
    obtain rfl := List.singleton_inj.mp same
    cases ends.symm.trans throws
  succeeded := iff_of_true rfl ⟨values, rfl, ends⟩

theorem faithful_of_exception {values : Tuple Ts} {what : String}
    (ends : behaviour values = .error (.thrown (.exception what))) :
    Faithful returnsVoid behaviour payload (.ok "FAIL", [values]) where
  rejected := iff_of_false (fun same => absurd (Except.ok.inj same) (by decide))
    fun ⟨_, same⟩ => nomatch same
  failed := iff_of_true rfl ⟨values, _, rfl, ends⟩
  succeeded := by
    refine iff_of_false (fun same => functionText_ne _ (by decide) (Except.ok.inj same).symm) ?_
    rintro ⟨other, same, returns⟩
    obtain rfl := List.singleton_inj.mp same
    cases ends.symm.trans returns

/-- The result says what happened exactly when decoding is defined and the handler does not throw
the exception that decoding fails with. -/
theorem outcome_faithful_iff (Ts : List ArgType) (returnsVoid : Bool)
    (behaviour : Tuple Ts → Except Failure Unit) (payload : List UInt8)
    (standard : ∀ values, StandardEnd (behaviour values)) :
    Faithful returnsVoid behaviour payload
        (exec (Invoker.apply (recording Ts returnsVoid behaviour) payload) []) ↔
      ¬ Codec.TooShort Ts payload ∧ ∀ values what, Codec.Decodes Ts payload values →
        behaviour values ≠ .error (.thrown (.invalidArgument what)) := by
  rcases Codec.unpack_cases Ts payload with ⟨values, decoded, long, unpacked⟩ |
    ⟨fails, short, left⟩ | ⟨fails, long, refused⟩
  · have only : (∀ others what, Codec.Decodes Ts payload others →
        behaviour others ≠ .error (.thrown (.invalidArgument what))) ↔
          ∀ what, behaviour values ≠ .error (.thrown (.invalidArgument what)) := by
      constructor
      · exact fun never what => never values what decoded
      · intro never others what decoded'
        rw [Codec.decodes_unique decoded' decoded]
        exact never what
    rw [exec_recording returnsVoid behaviour unpacked, and_iff_right long, only]
    obtain ⟨value, ends⟩ | ⟨what, ends⟩ | ⟨what, ends⟩ := standardEnd_cases (standard values)
    · rw [ends]
      exact iff_of_true (faithful_of_ok ends) fun _ same => nomatch same
    · rw [ends]
      exact iff_of_true (faithful_of_exception ends) fun _ same => nomatch same
    · rw [ends]
      refine iff_of_false (fun faithful => ?_) fun never => never what rfl
      exact nomatch (faithful.rejected.mp rfl).2
  · have undefined : exec (Invoker.apply (recording Ts returnsVoid behaviour) payload) [] =
        (.error (.undefined .outOfBounds), []) := Invoker.exec_apply_of_undefined left []
    rw [undefined]
    refine iff_of_false (fun faithful => ?_) fun settles => settles.1 short
    cases faithful.rejected.mpr ⟨fails, rfl⟩
  · have answered : exec (Invoker.apply (recording Ts returnsVoid behaviour) payload) [] =
        (.ok "ARGS FAIL", []) := Invoker.exec_apply_of_thrown refused []
    rw [answered]
    refine iff_of_true (faithful_of_refused fails) ⟨long, ?_⟩
    exact fun values _ decoded => absurd decoded (fails values)

end

theorem outcome_faithful_int :
    Faithful true (fun _ => .ok ()) [0x91, 5] (exec (Invoker.apply takesInt [0x91, 5]) []) :=
  (outcome_faithful_iff [int] true (fun _ => .ok ()) [0x91, 5] fun _ => trivial).mpr
    ⟨fun short => Bool.false_ne_true short.1, fun _ _ _ same => nomatch same⟩

/-- A handler that was run on the argument `5` and threw what the functions of the standard library
throw that parse a number. -/
theorem parse_failure_misreported :
    exec (Invoker.apply (recording [int] true fun _ =>
        .error (.thrown (.invalidArgument "stoi"))) [0x91, 5]) [] =
      (.ok "ARGS FAIL", [(5#32, ())]) ∧
    ¬ Faithful true (fun _ : Tuple [int] => .error (.thrown (.invalidArgument "stoi"))) [0x91, 5]
      (exec (Invoker.apply (recording [int] true fun _ =>
        .error (.thrown (.invalidArgument "stoi"))) [0x91, 5]) []) := by
  have runs : exec (Invoker.apply (recording [int] true fun _ =>
      .error (.thrown (.invalidArgument "stoi"))) [0x91, 5]) [] =
        (.ok "ARGS FAIL", [(5#32, ())]) := rfl
  refine ⟨runs, fun faithful => ?_⟩
  rw [runs] at faithful
  cases (faithful.rejected.mp rfl).2

end RpcInstance
