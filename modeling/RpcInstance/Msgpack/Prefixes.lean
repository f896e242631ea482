/-
This file is about payloads that were cut off. The parser asks for more bytes
exactly on the proper prefixes of what it would accept, and every other answer it
gives is final. So a payload that lost its end is never taken for another one: the
handler it was meant for is not invoked.
-/

import RpcInstance.Msgpack.RoundTrip

namespace RpcInstance.Msgpack

open Scanner

/-! ### Tokens -/

theorem Head.settles_scan (first : Head) : Settles insufficientBytes first.scan := by
  cases first with
  | whole object => exact settles_give _
  | fixed width visit => exact settles_andThen (settles_take width) fun bytes => settles_give _
  | sized kind width =>
    exact settles_andThen (settles_take width) fun size =>
      settles_andThen (settles_take _) fun body => settles_give _
  | aggregate kind size => exact settles_give _
  | counted kind width => exact settles_andThen (settles_take width) fun size => settles_give _
  | invalid => exact settles_fail parseError

theorem completes_take_give {Value : Type} (count : ℕ) (visit : List UInt8 → Value) :
    ∃ more result, andThen (take insufficientBytes count) (fun body => give (visit body)) more =
      .ok (result, []) := by
  refine ⟨List.replicate count 0, visit (List.replicate count 0), ?_⟩
  rw [andThen, take, if_pos (List.length_replicate ..).ge, List.take_of_length_le (by simp),
    List.drop_of_length_le (by simp)]
  rfl

theorem Head.continues_scan (first : Head) : Continues insufficientBytes first.scan := by
  have done : ∀ token : Token, ∃ more result,
      (give token : Scanner UInt8 Thrown Token) more = .ok (result, []) := fun token =>
    ⟨[], token, rfl⟩
  cases first with
  | whole object => exact continues_give _
  | fixed width visit =>
    exact continues_andThen (settles_take width) (continues_take width)
      (fun bytes => continues_give _) fun bytes => done _
  | sized kind width =>
    refine continues_andThen (settles_take width) (continues_take width) (fun size => ?_)
      fun size => completes_take_give _ _
    exact continues_andThen (settles_take _) (continues_take _) (fun body => continues_give _)
      fun body => done _
  | aggregate kind size => exact continues_give _
  | counted kind width =>
    exact continues_andThen (settles_take width) (continues_take width)
      (fun size => continues_give _) fun size => done _
  | invalid => exact continues_fail (by decide)

theorem settles_token : Settles insufficientBytes token := by
  intro input more settled
  cases input with
  | nil => exact absurd rfl settled
  | cons selector input => exact (head selector).settles_scan input more settled

theorem continues_token : Continues insufficientBytes token := by
  intro input asks
  cases input with
  | nil => exact ⟨[0xc0], .value .nil, rfl⟩
  | cons selector input => exact (head selector).continues_scan input asks

/-! ### The loop -/

theorem parse_of_token {bytes rest : List UInt8} {next : Token} (stack : List StackElem)
    (read : token bytes = .ok (next, rest)) :
    parse bytes stack = (advance next stack >>= fun progress => resume progress rest) := by
  rw [parse_eq, read]
  dsimp only
  rcases advance next stack with thrown | progress <;> rfl

theorem parse_of_token_error {bytes : List UInt8} {thrown : Thrown} (stack : List StackElem)
    (failed : token bytes = .error thrown) : parse bytes stack = .error thrown := by
  rw [parse_eq, failed]

theorem token_append {bytes rest : List UInt8} {next : Token}
    (read : token bytes = .ok (next, rest)) (more : List UInt8) :
    token (bytes ++ more) = .ok (next, rest ++ more) := by
  rw [settles_token bytes more (fun asks => nomatch read.symm.trans asks), read]
  rfl

/-- An answer of the parser that is no request for more bytes is final. -/
theorem settles_parse (stack : List StackElem) :
    Settles insufficientBytes fun bytes => parse bytes stack := by
  intro input
  induction length : input.length using Nat.strong_induction_on generalizing input stack with
  | _ size inductionHypothesis =>
    intro more settled
    change parse input stack ≠ _ at settled
    show parse (input ++ more) stack = extend more (parse input stack)
    rcases read : token input with thrown | ⟨next, rest⟩
    · rw [parse_of_token_error stack read] at settled ⊢
      refine parse_of_token_error stack ?_
      rw [settles_token input more
        (read ▸ fun asks => settled (congrArg _ (Except.error.inj asks))), read]
      rfl
    · have shorter := token_shorter read
      rw [parse_of_token stack read] at settled ⊢
      rw [parse_of_token stack (token_append read more)]
      rcases advanced : advance next stack with thrown | object | after <;> rw [advanced] at settled
      · rfl
      · rfl
      · exact inductionHypothesis rest.length (length ▸ shorter) after rest rfl more settled

/-- One more nil. -/
theorem parse_nil_cons (rest : List UInt8) (stack : List StackElem) :
    parse (0xc0 :: rest) stack = resume (consume .nil stack) rest :=
  @parse_of_spells (.value .nil) [0xc0] rest stack _ (.mk 0xc0 (.whole .nil)) rfl

/-- Whatever the container on top is handed, some further bytes complete everything. -/
def Completes (stack : List StackElem) : Prop :=
  ∀ object, ∃ more whole, resume (consume object stack) more = .ok (whole, [])

theorem Completes.next {stack : List StackElem} (completes : Completes stack) :
    ∃ more whole, resume (.next stack) more = .ok (whole, []) := by
  obtain ⟨more, whole, complete⟩ := completes .nil
  exact ⟨0xc0 :: more, whole, (parse_nil_cons more stack).trans complete⟩

theorem Completes.arrayItem {below : List StackElem} (completes : Completes below) (rest : ℕ)
    (done : List Object) : Completes (.arrayItem rest done :: below) := by
  induction rest generalizing done with
  | zero => exact fun object => completes (.array (done ++ [object]))
  | succ rest inductionHypothesis =>
    intro object
    rw [consume, Nat.add_sub_cancel]
    split
    · exact completes _
    · exact (inductionHypothesis (done ++ [object])).next

theorem Completes.mapValue {below : List StackElem} (completes : Completes below) (rest : ℕ)
    (done : List (Object × Object)) (key : Object) :
    Completes (.mapValue rest done key :: below) := by
  induction rest generalizing done key with
  | zero => exact fun object => completes (.map (done ++ [(key, object)]))
  | succ rest inductionHypothesis =>
    intro object
    rw [consume, Nat.add_sub_cancel]
    split
    · exact completes _
    · have opened : Completes (.mapKey rest (done ++ [(key, object)]) :: below) :=
        fun next => (inductionHypothesis _ next).next
      exact opened.next

/-- Every stack is emptied by some nils. -/
theorem completes (stack : List StackElem) : Completes stack := by
  induction stack with
  | nil => exact fun object => ⟨[], object, rfl⟩
  | cons element below inductionHypothesis =>
    cases element with
    | arrayItem rest done => exact inductionHypothesis.arrayItem rest done
    | mapKey rest done => exact fun key => (inductionHypothesis.mapValue rest done key).next
    | mapValue rest done key => exact inductionHypothesis.mapValue rest done key

theorem exists_completion (progress : Progress) :
    ∃ more whole, resume progress more = .ok (whole, []) := by
  cases progress with
  | success object => exact ⟨[], object, rfl⟩
  | next stack => exact (completes stack).next

theorem advance_length {next : Token} {stack after : List StackElem}
    (advanced : advance next stack = .ok (.next after)) : after.length ≤ stack.length + 1 := by
  cases next with
  | value object =>
    exact (consume_length (Except.ok.inj advanced)).trans (Nat.le_succ _)
  | start kind size =>
    rw [advance, startAggregate] at advanced
    split at advanced
    · cases advanced
    · split at advanced
      · exact (consume_length (Except.ok.inj advanced)).trans (Nat.le_succ _)
      · obtain rfl := Progress.next.inj (Except.ok.inj advanced)
        exact le_rfl

theorem exists_advance (next : Token) {stack : List StackElem}
    (room : stack.length + 1 ≤ depthLimit) : ∃ progress, advance next stack = .ok progress := by
  cases next with
  | value object => exact ⟨_, rfl⟩
  | start kind size => exact ⟨_, advance_start room⟩

/-- Unless it may be too deep already, an input that the parser asks more of can be completed. -/
theorem continues_parse {bytes : List UInt8} {stack : List StackElem}
    (room : stack.length + bytes.length ≤ depthLimit)
    (asks : parse bytes stack = .error insufficientBytes) :
    ∃ more object, parse (bytes ++ more) stack = .ok (object, []) := by
  induction length : bytes.length using Nat.strong_induction_on generalizing bytes stack with
  | _ size inductionHypothesis =>
    rcases read : token bytes with thrown | ⟨next, rest⟩
    · cases bytes with
      | nil => exact (completes stack).next
      | cons selector bytes =>
        rw [parse_of_token_error stack read] at asks
        rw [List.length_cons] at room
        have same : thrown = insufficientBytes := Except.error.inj asks
        obtain ⟨more, next, complete⟩ := continues_token _ (read.trans (congrArg _ same))
        obtain ⟨progress, advanced⟩ := @exists_advance next stack (by omega)
        obtain ⟨others, whole, completed⟩ := exists_completion progress
        refine ⟨more ++ others, whole, ?_⟩
        rw [← List.append_assoc, parse_of_token stack (token_append complete others), advanced]
        exact completed
    · have shorter := token_shorter read
      obtain ⟨progress, advanced⟩ := @exists_advance next stack (by omega)
      rw [parse_of_token stack read, advanced] at asks
      cases progress with
      | success object => cases asks
      | next after =>
        have higher := advance_length advanced
        obtain ⟨more, object, complete⟩ :=
          inductionHypothesis rest.length (length ▸ shorter) (by omega) asks rfl
        refine ⟨more, object, ?_⟩
        rw [parse_of_token stack (token_append read more), advanced]
        exact complete

/-! ### Payloads that were cut off -/

/-- Where there is memory, the parser asks for more bytes exactly on the proper prefixes of complete
inputs, and any other answer is the same whatever follows the input. -/
theorem unpack_prefix (data : List UInt8) (short : data.length ≤ depthLimit) :
    (unpack data = .error insufficientBytes ↔
      ∃ more object, more ≠ [] ∧ unpack (data ++ more) = .ok (object, [])) ∧
    (unpack data ≠ .error insufficientBytes →
      ∀ more, unpack (data ++ more) = extend more (unpack data)) :=
  ⟨hungry_iff (settles_parse []) (continues_parse ((Nat.zero_add _).trans_le short)),
    fun settled more => settles_parse [] data more settled⟩

theorem unpack_prefix_map :
    (unpack [0x81, 0xa1] = .error insufficientBytes ↔
      ∃ more object, more ≠ [] ∧ unpack ([0x81, 0xa1] ++ more) = .ok (object, [])) ∧
    (unpack [0x81, 0xa1] ≠ .error insufficientBytes →
      ∀ more, unpack ([0x81, 0xa1] ++ more) = extend more (unpack [0x81, 0xa1])) :=
  unpack_prefix [0x81, 0xa1] (by decide)

theorem unpack_of_cut {payload cut : List UInt8} {object : Object}
    (read : unpack payload = .ok (object, [])) (isPrefix : cut <+: payload)
    (proper : cut ≠ payload) : unpack cut = .error insufficientBytes := by
  obtain ⟨more, rfl⟩ := isPrefix
  by_contra settled
  have final : unpack (cut ++ more) = extend more (unpack cut) :=
    settles_parse [] cut more settled
  rw [read] at final
  rcases answer : unpack cut with thrown | ⟨other, rest⟩ <;> rw [answer] at final
  · cases final
  · obtain ⟨-, empty⟩ := Prod.mk.inj (Except.ok.inj final)
    rw [(List.append_eq_nil_iff.mp empty.symm).2, List.append_nil] at proper
    exact proper rfl

section

variable {Env : Type}

open Code

/-- A payload of arguments that lost its end is refused by every handler that takes an argument
pack, whatever arguments it takes, and the handler does not run. -/
theorem cut_payload_refused {depth : ℕ} (shallow : depth < depthLimit) (Ss : List ArgType)
    (adapted : ∀ S ∈ Ss, Adapted depth true S) (sent : Tuple Ss) (bytes : List UInt8)
    (packed : packArgs (Tuple.packed Ss sent) = .ok bytes) (cut : List UInt8)
    (isPrefix : cut <+: bytes) (proper : cut ≠ bytes) (env : Env) :
    (∀ func : Function Env, exec (Invoker.apply func cut) env = (.ok "ARGS FAIL", env)) ∧
      ∀ (Object : Type) (func : MemberFunction Object Env) (object : Object),
        exec (Invoker.applyMember func object cut) env =
          (.error (.thrown Codec.unpackFailed), env) := by
  obtain ⟨items, packs, -, -⟩ :=
    exists_array (arriveAll_self (fun S member => (adapted S member).arrives) sent) packed
  have read := packs.unpack shallow []
  rw [List.append_nil] at read
  have refused : ∀ Ts, Codec.unpack Ts cut = .error (.thrown Codec.unpackFailed) := by
    intro Ts
    rw [Codec.unpack, Codec.decode, unpack_of_cut read isPrefix proper]
  exact ⟨fun func => Invoker.exec_apply_of_thrown (refused func.args) env,
    fun Object func object => Invoker.exec_applyMember_of_error (refused func.args) env⟩

/-- Of the three bytes of an argument the last one is lost. -/
theorem cut_payload_refused_int :
    (∀ func : Function Unit, exec (Invoker.apply func [0x91, 0xcc]) () = (.ok "ARGS FAIL", ())) ∧
      ∀ (Object : Type) (func : MemberFunction Object Unit) (object : Object),
        exec (Invoker.applyMember func object [0x91, 0xcc]) () =
          (.error (.thrown Codec.unpackFailed), ()) :=
  @cut_payload_refused Unit 0 (by decide) [int] (List.forall_mem_singleton.mpr (.integer .int32))
    (200#32, ()) [0x91, 0xcc, 0xc8] rfl [0x91, 0xcc] ⟨[0xc8], rfl⟩ (by decide) ()

end

end RpcInstance.Msgpack
