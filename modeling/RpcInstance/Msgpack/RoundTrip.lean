/-
This file proves that arguments survive the way from the caller to the handler:
what `pack_args` writes is unpacked to the values that were packed, it is the
shortest payload with that meaning, and where the two sides disagree about the
number of arguments or about the integer types, the values that both sides have
still arrive.

The argument types are those that are made with the modelled adaptors, nested in
any way and to any depth the parser accepts. An optional value directly inside of
another one is left out, since both are packed as nil when they are empty.
-/

import RpcInstance.Invoker
import RpcInstance.Msgpack.Arrivals

namespace RpcInstance.Msgpack

/-! ### Argument types -/

/-- The argument types that are nested at most `depth` deep. Only where `nullable` is set a value
may be packed as nil. -/
inductive Adapted : ℕ → Bool → ArgType → Prop
  | integer {depth : ℕ} {nullable : Bool} (T : IntType) : Adapted depth nullable T.argType
  | bool {depth : ℕ} {nullable : Bool} : Adapted depth nullable bool
  | string {depth : ℕ} {nullable : Bool} : Adapted depth nullable string
  | vectorChar {depth : ℕ} {nullable : Bool} : Adapted depth nullable vectorChar
  | vector {depth : ℕ} {nullable : Bool} {T : ArgType} (generic : T.ownVector = false)
      (inner : Adapted depth true T) : Adapted (depth + 1) nullable (vector T generic)
  | pair {depth : ℕ} {nullable : Bool} {S T : ArgType} (first : Adapted depth true S)
      (second : Adapted depth true T) : Adapted (depth + 1) nullable (pair S T)
  | optional {depth : ℕ} {T : ArgType} (inner : Adapted depth false T) :
      Adapted depth true (optional T)
  | tuple {depth : ℕ} {nullable : Bool} {Ts : List ArgType} (plain : hasAs Ts = false)
      (inner : ∀ T ∈ Ts, Adapted depth true T) : Adapted (depth + 1) nullable (tuple Ts plain)
  | map {depth : ℕ} {nullable : Bool} {K V : ArgType} [Ord K.Value] [Std.TransOrd K.Value]
      [Std.LawfulEqOrd K.Value] (key : Adapted depth true K) (value : Adapted depth true V) :
      Adapted (depth + 1) nullable (map K V)

variable {depth : ℕ} {nullable : Bool}

theorem arriveAll_self {Ts : List ArgType}
    (arrive : ∀ T ∈ Ts, ∀ value, Arrives depth true T T value value) (values : Tuple Ts) :
    ArriveAll depth Ts Ts values values := by
  induction Ts with
  | nil => rfl
  | cons T Ts inductionHypothesis =>
    exact ⟨arrive T List.mem_cons_self values.1, inductionHypothesis
      (fun T member => arrive T (List.mem_cons_of_mem _ member)) values.2⟩

/-- A value of such a type arrives as it is. -/
theorem Adapted.arrives {T : ArgType} (adapted : Adapted depth nullable T) (value : T.Value) :
    Arrives depth nullable T T value value := by
  induction adapted with
  | integer T => exact arrives_integer rfl
  | bool => exact arrives_bool value
  | string => exact arrives_string value
  | vectorChar => exact arrives_vectorChar value
  | vector generic inner inductionHypothesis =>
    exact arrives_vector (List.forall₂_same.mpr fun element _ => inductionHypothesis element)
  | pair first second firstHypothesis secondHypothesis =>
    exact arrives_pair (firstHypothesis value.1) (secondHypothesis value.2)
  | optional inner inductionHypothesis =>
    cases value with
    | none => exact arrives_none
    | some value => exact arrives_some (inductionHypothesis value)
  | tuple plain inner inductionHypothesis =>
    exact arrives_tuple (arriveAll_self inductionHypothesis value) le_rfl
  | map key value keyHypothesis valueHypothesis =>
    exact arrives_map fun entry _ => ⟨keyHypothesis entry.1, valueHypothesis entry.2⟩

/-- None of these types has an `as` adaptor. -/
theorem Adapted.as_eq_none {T : ArgType} (adapted : Adapted depth nullable T) : T.as = none := by
  induction adapted with
  | vector generic inner inductionHypothesis =>
    exact congrArg (Option.map asVector) inductionHypothesis
  | optional inner inductionHypothesis =>
    exact congrArg (Option.map asOptional) inductionHypothesis
  | pair first second firstHypothesis secondHypothesis =>
    exact if_neg (by rw [firstHypothesis, secondHypothesis]; exact Bool.false_ne_true)
  | map key value keyHypothesis valueHypothesis =>
    exact if_neg (by rw [keyHypothesis, valueHypothesis]; exact Bool.false_ne_true)
  | _ => rfl

theorem hasAs_of_adapted {Ts : List ArgType} (adapted : ∀ T ∈ Ts, Adapted depth true T) :
    hasAs Ts = false := by
  rw [hasAs, List.any_eq_false]
  intro T member
  rw [(adapted T member).as_eq_none]
  exact Bool.false_ne_true

/-! ### Payloads -/

theorem Packs.unpack {object : Object} {bytes : List UInt8} (packs : Packs depth [object] bytes)
    (shallow : depth ≤ depthLimit) (trailing : List UInt8) :
    Msgpack.unpack (bytes ++ trailing) = .ok (object, trailing) :=
  (reads_unpack _ _ _).mpr ⟨bytes, rfl, packs.spelled.mono shallow⟩

/-- What the shortest form of an array decodes to, where no type has an `as` adaptor. -/
theorem Packs.decodes_iff {items : List Object} {bytes : List UInt8}
    (packs : Packs depth [.array items] bytes) (shallow : depth ≤ depthLimit) {Ts : List ArgType}
    (plain : hasAs Ts = false) (trailing : List UInt8) (values : Tuple Ts) :
    Codec.Decodes Ts (bytes ++ trailing) values ↔ Accepts Ts items values := by
  rw [← Codec.unpack_iff, Codec.unpack_eq_ok_iff, Codec.decode, packs.unpack shallow]
  show asTuple Ts (.array items) = .ok values ↔ _
  rw [asTuple, plain, if_neg Bool.false_ne_true, mapError_eq_ok_iff, convertTuple_eq_ok_iff,
    List.drop_zero]

section

variable {Ss Ts : List ArgType} {sent : Tuple Ss} {values : Tuple Ts} {bytes : List UInt8}

/-- The arguments that arrive are unpacked, whatever follows the payload. -/
theorem unpack_of_arriveAll (shallow : depth < depthLimit)
    (arrive : ArriveAll depth Ss Ts sent values)
    (count : hasAs Ts = true → Ss.length = Ts.length)
    (packed : packArgs (Tuple.packed Ss sent) = .ok bytes) (trailing : List UInt8) :
    Codec.unpack Ts (bytes ++ trailing) = .ok values := by
  obtain ⟨items, packs, length, become⟩ := exists_array arrive packed
  refine Codec.unpack_iff.mpr ⟨items, bytes, trailing, rfl, packs.spelled.mono shallow, ?_⟩
  exact converts_of_become become fun capable => length.trans (count capable)

end

section

variable {Ts : List ArgType} {values : Tuple Ts} {bytes : List UInt8}

/-- Arguments of these types are unpacked as they were packed. -/
theorem unpack_of_adapted (shallow : depth < depthLimit)
    (adapted : ∀ T ∈ Ts, Adapted depth true T)
    (packed : packArgs (Tuple.packed Ts values) = .ok bytes) (trailing : List UInt8) :
    Codec.unpack Ts (bytes ++ trailing) = .ok values :=
  unpack_of_arriveAll shallow (arriveAll_self (fun T member => (adapted T member).arrives) values)
    (fun _ => rfl) packed trailing

end

/-- Arguments of any of these types are unpacked as they were packed, whatever follows the payload,
and no other arguments are packed to the same payload. -/
theorem unpack_packArgs {depth : ℕ} (shallow : depth < depthLimit) (Ts : List ArgType)
    (adapted : ∀ T ∈ Ts, Adapted depth true T) (values : Tuple Ts) (bytes : List UInt8)
    (packed : packArgs (Tuple.packed Ts values) = .ok bytes) :
    (∀ trailing, Codec.unpack Ts (bytes ++ trailing) = .ok values) ∧
      ∀ others, packArgs (Tuple.packed Ts others) = .ok bytes → others = values := by
  have unpacked := unpack_of_adapted shallow adapted packed
  refine ⟨unpacked, fun others packed' => ?_⟩
  have unpacked' := unpack_of_adapted shallow adapted packed'
  exact Except.ok.inj ((unpacked' []).symm.trans (unpacked []))

theorem unpack_packArgs_nested :
    (∀ trailing, Codec.unpack [int, vector (pair string (optional IntType.uint64.argType)) rfl]
        ([0x92, 5, 0x92, 0x92, 0xa1, 0x61, 7, 0x92, 0xa0, 0xc0] ++ trailing) =
          .ok (5#32, [([0x61], some 7#64), ([], none)], ())) ∧
      ∀ others, packArgs (Tuple.packed
          [int, vector (pair string (optional IntType.uint64.argType)) rfl] others) =
            .ok [0x92, 5, 0x92, 0x92, 0xa1, 0x61, 7, 0x92, 0xa0, 0xc0] →
        others = (5#32, [([0x61], some 7#64), ([], none)], ()) :=
  @unpack_packArgs 2 (by decide) [int, vector (pair string (optional IntType.uint64.argType)) rfl]
    (List.forall_mem_cons.mpr ⟨.integer .int32, List.forall_mem_singleton.mpr
      (.vector rfl (.pair .string (.optional (.integer .uint64))))⟩)
    (5#32, [([0x61], some 7#64), ([], none)], ())
    [0x92, 5, 0x92, 0x92, 0xa1, 0x61, 7, 0x92, 0xa0, 0xc0] rfl

/-- An empty value inside of an optional one is taken for an empty one. -/
example : packArgs (Tuple.packed [optional (optional bool)] (some none, ())) = .ok [0x91, 0xc0] ∧
    Codec.unpack [optional (optional bool)] [0x91, 0xc0] = .ok (none, ()) :=
  ⟨rfl, rfl⟩

/-- The payload of some arguments is read to its end, and no payload from which the same object is
read is shorter. -/
theorem packArgs_shortest {depth : ℕ} (shallow : depth < depthLimit) (Ts : List ArgType)
    (adapted : ∀ T ∈ Ts, Adapted depth true T) (values : Tuple Ts) (bytes : List UInt8)
    (packed : packArgs (Tuple.packed Ts values) = .ok bytes) :
    ∃ object, Msgpack.unpack bytes = .ok (object, []) ∧
      ∀ other trailing, Msgpack.unpack other = .ok (object, trailing) →
        bytes.length + trailing.length ≤ other.length := by
  obtain ⟨items, packs, -, -⟩ :=
    exists_array (arriveAll_self (fun T member => (adapted T member).arrives) values) packed
  have read := packs.unpack shallow []
  rw [List.append_nil] at read
  refine ⟨.array items, read, fun other trailing readOther => ?_⟩
  obtain ⟨front, rfl, formatted⟩ := (reads_unpack _ _ _).mp readOther
  rw [List.length_append]
  exact Nat.add_le_add_right (packs.shortest formatted) _

theorem packArgs_shortest_int :
    ∃ object, Msgpack.unpack [0x91, 0xcc, 0xc8] = .ok (object, []) ∧
      ∀ other trailing, Msgpack.unpack other = .ok (object, trailing) →
        3 + trailing.length ≤ other.length :=
  @packArgs_shortest 0 (by decide) [int] (List.forall_mem_singleton.mpr (.integer .int32))
    (200#32, ()) [0x91, 0xcc, 0xc8] rfl

/-! ### Different numbers of arguments -/

/-- The arguments of one tuple and then those of another one. -/
def Tuple.append : (Ts Us : List ArgType) → Tuple Ts → Tuple Us → Tuple (Ts ++ Us)
  | [], _, _, others => others
  | _ :: Ts, Us, (value, values), others => .cons value (Tuple.append Ts Us values others)

theorem arriveAll_surplus {Ts Us : List ArgType}
    (arrive : ∀ T ∈ Ts ++ Us, ∀ value, Arrives depth true T T value value) (values : Tuple Ts)
    (others : Tuple Us) :
    ArriveAll depth (Ts ++ Us) Ts (Tuple.append Ts Us values others) values := by
  induction Ts with
  | nil =>
    induction Us with
    | nil => rfl
    | cons U Us inductionHypothesis =>
      exact ⟨arrive U List.mem_cons_self others.1, inductionHypothesis others.2
        fun T member => arrive T (List.mem_cons_of_mem _ member)⟩
  | cons T Ts inductionHypothesis =>
    exact ⟨arrive T List.mem_cons_self values.1, inductionHypothesis
      (fun T member => arrive T (List.mem_cons_of_mem _ member)) values.2⟩

theorem arriveAll_missing {Ts : List ArgType} (Us : List ArgType)
    (arrive : ∀ T ∈ Ts, ∀ value, Arrives depth true T T value value) (values : Tuple Ts) :
    ArriveAll depth Ts (Ts ++ Us) values (Tuple.append Ts Us values (Tuple.initial Us)) := by
  induction Ts with
  | nil => cases Us <;> rfl
  | cons T Ts inductionHypothesis =>
    exact ⟨arrive T List.mem_cons_self values.1, inductionHypothesis
      (fun T member => arrive T (List.mem_cons_of_mem _ member)) values.2⟩

/-- A handler that takes fewer arguments than were sent is given the first ones, and a handler that
takes more is given initial values for those that are missing. -/
theorem unpack_other_arity {depth : ℕ} (shallow : depth < depthLimit) (Ts Us : List ArgType)
    (adapted : ∀ T ∈ Ts ++ Us, Adapted depth true T) (values : Tuple Ts) :
    (∀ others bytes, packArgs (Tuple.packed (Ts ++ Us) (Tuple.append Ts Us values others)) =
        .ok bytes → ∀ trailing, Codec.unpack Ts (bytes ++ trailing) = .ok values) ∧
      ∀ bytes, packArgs (Tuple.packed Ts values) = .ok bytes →
        ∀ trailing, Codec.unpack (Ts ++ Us) (bytes ++ trailing) =
          .ok (Tuple.append Ts Us values (Tuple.initial Us)) := by
  have arrive := fun T member => (adapted T member).arrives
  have plain := hasAs_of_adapted adapted
  have plain' : hasAs Ts = false :=
    hasAs_of_adapted fun T member => adapted T (List.mem_append_left _ member)
  constructor
  · intro others bytes packed trailing
    refine unpack_of_arriveAll shallow (arriveAll_surplus arrive values others) ?_ packed trailing
    exact fun capable => Bool.noConfusion (plain'.symm.trans capable)
  · intro bytes packed trailing
    refine unpack_of_arriveAll shallow (arriveAll_missing Us (fun T member =>
      arrive T (List.mem_append_left _ member)) values) ?_ packed trailing
    exact fun capable => Bool.noConfusion (plain.symm.trans capable)

theorem unpack_other_arity_string :
    (∀ others bytes, packArgs (Tuple.packed [int, string]
        (Tuple.append [int] [string] (5#32, ()) others)) = .ok bytes →
          ∀ trailing, Codec.unpack [int] (bytes ++ trailing) = .ok (5#32, ())) ∧
      ∀ bytes, packArgs (Tuple.packed [int] (5#32, ())) = .ok bytes →
        ∀ trailing, Codec.unpack [int, string] (bytes ++ trailing) =
          .ok (Tuple.append [int] [string] (5#32, ()) (([] : List UInt8), ())) :=
  @unpack_other_arity 0 (by decide) [int] [string]
    (List.forall_mem_cons.mpr ⟨.integer .int32, List.forall_mem_singleton.mpr .string⟩) (5#32, ())

/-! ### Integers of other types -/

/-- The integers that a tuple of integer types holds. -/
def integersOf : (Ts : List IntType) → Tuple (Ts.map IntType.argType) → List ℤ
  | [], _ => []
  | T :: Ts, (value, values) => T.toInt value :: integersOf Ts values

/-- Every integer is in the range of the type at its place, as far as there is one. -/
def InRange : List IntType → List ℤ → Prop
  | T :: Ts, d :: ds => (T.min ≤ d ∧ d ≤ T.max) ∧ InRange Ts ds
  | _, _ => True

theorem integersOf_storable (Ts : List IntType) (values : Tuple (Ts.map IntType.argType)) :
    ∀ d ∈ integersOf Ts values, Storable d := by
  induction Ts with
  | nil => exact fun d member => nomatch member
  | cons T Ts inductionHypothesis =>
    exact List.forall_mem_cons.mpr ⟨T.storable values.1, inductionHypothesis values.2⟩

theorem integersOf_length (Ts : List IntType) (values : Tuple (Ts.map IntType.argType)) :
    (integersOf Ts values).length = Ts.length := by
  induction Ts with
  | nil => rfl
  | cons T Ts inductionHypothesis => exact congrArg Nat.succ (inductionHypothesis values.2)

theorem integersOf_initial (Ts : List IntType) :
    integersOf Ts (Tuple.initial (Ts.map IntType.argType)) = List.replicate Ts.length 0 := by
  induction Ts with
  | nil => rfl
  | cons T Ts inductionHypothesis =>
    have zero : T.toInt 0 = 0 := by cases T <;> rfl
    exact List.cons_eq_cons.mpr ⟨zero, inductionHypothesis⟩

theorem integersOf_inj {Ts : List IntType} {values others : Tuple (Ts.map IntType.argType)} :
    integersOf Ts values = integersOf Ts others ↔ values = others := by
  refine ⟨fun same => ?_, congrArg _⟩
  induction Ts with
  | nil => rfl
  | cons T Ts inductionHypothesis =>
    obtain ⟨first, rest⟩ := List.cons_eq_cons.mp same
    exact Prod.ext (IntType.toInt_inj.mp first) (inductionHypothesis rest)

theorem packAll_integers (Ss : List IntType) (sent : Tuple (Ss.map IntType.argType)) :
    packAll (Tuple.packed (Ss.map IntType.argType) sent) =
      .ok ((integersOf Ss sent).flatMap packInteger) := by
  induction Ss with
  | nil => rfl
  | cons S Ss inductionHypothesis =>
    refine packAll_cons_iff.mpr ⟨_, _, rfl, inductionHypothesis sent.2, ?_⟩
    show (S.toInt sent.1 :: integersOf Ss sent.2).flatMap packInteger = S.pack sent.1 ++ _
    rw [List.flatMap_cons]
    exact congrArg (· ++ _) (S.pack_eq sent.1).symm

theorem packs_integers {ds : List ℤ} (storable : ∀ d ∈ ds, Storable d) :
    Packs depth (ds.map visitNegativeInteger) (ds.flatMap packInteger) := by
  induction ds with
  | nil => exact .nil
  | cons d ds inductionHypothesis =>
    obtain ⟨first, rest⟩ := List.forall_mem_cons.mp storable
    exact (Packs.integer first).cons (inductionHypothesis rest)

theorem converts_integer_iff {T : IntType} {d : ℤ} (storable : Storable d) {value : T.Value} :
    convertInteger T (visitNegativeInteger d) = .ok value ↔
      (T.min ≤ d ∧ d ≤ T.max) ∧ T.toInt value = d := by
  rw [convertInteger_eq T storable]
  by_cases inside : T.min ≤ d ∧ d ≤ T.max
  · rw [if_pos inside, Except.ok.injEq, ← IntType.toInt_inj, IntType.toInt_cast inside.1 inside.2,
      and_iff_right inside]
    exact eq_comm
  · rw [if_neg inside]
    exact iff_of_false (fun same => nomatch same) fun both => inside both.1

theorem resize_zero {Value : Type} (fresh : Value) (slots : List Value) :
    resize fresh 0 slots = [] := by
  rw [resize, List.take_zero, Nat.zero_sub]
  rfl

theorem resize_succ_cons {Value : Type} (fresh slot : Value) (size : ℕ) (slots : List Value) :
    resize fresh (size + 1) (slot :: slots) = slot :: resize fresh size slots := by
  rw [resize, resize, List.take_succ_cons, List.length_cons, Nat.add_sub_add_right,
    List.cons_append]

/-- The integers convert exactly when they are in range, and then to the same integers, with zeros
for those that are missing. -/
theorem accepts_integers_iff (Ts : List IntType) {ds : List ℤ} (storable : ∀ d ∈ ds, Storable d)
    (values : Tuple (Ts.map IntType.argType)) :
    Accepts (Ts.map IntType.argType) (ds.map visitNegativeInteger) values ↔
      InRange Ts ds ∧ integersOf Ts values = resize 0 Ts.length ds := by
  induction Ts generalizing ds with
  | nil => exact iff_of_true trivial ⟨trivial, (resize_zero 0 ds).symm⟩
  | cons T Ts inductionHypothesis =>
    cases ds with
    | nil =>
      show values = Tuple.initial ((T :: Ts).map IntType.argType) ↔
        True ∧ integersOf (T :: Ts) values = List.replicate (T :: Ts).length 0
      rw [true_and, ← integersOf_initial, integersOf_inj]
    | cons d ds =>
      obtain ⟨value, values⟩ := values
      obtain ⟨first, rest⟩ := List.forall_mem_cons.mp storable
      show convertInteger T (visitNegativeInteger d) = .ok value ∧
          Accepts (Ts.map IntType.argType) (ds.map visitNegativeInteger) values ↔
        ((T.min ≤ d ∧ d ≤ T.max) ∧ InRange Ts ds) ∧
          T.toInt value :: integersOf Ts values = resize 0 (Ts.length + 1) (d :: ds)
      rw [resize_succ_cons, List.cons_eq_cons]
      refine (and_congr (converts_integer_iff first) (inductionHypothesis rest values)).trans ?_
      tauto

theorem exists_integers {Ts : List IntType} {ds : List ℤ} (inRange : InRange Ts ds) :
    ∃ values, integersOf Ts values = resize 0 Ts.length ds := by
  induction Ts generalizing ds with
  | nil => exact ⟨(), (resize_zero 0 ds).symm⟩
  | cons T Ts inductionHypothesis =>
    cases ds with
    | nil => exact ⟨Tuple.initial _, integersOf_initial (T :: Ts)⟩
    | cons d ds =>
      obtain ⟨⟨lower, upper⟩, rest⟩ := inRange
      obtain ⟨values, same⟩ := inductionHypothesis rest
      refine ⟨(T.cast d, values), ?_⟩
      show T.toInt (T.cast d) :: integersOf Ts values = resize 0 (Ts.length + 1) (d :: ds)
      rw [IntType.toInt_cast lower upper, same, resize_succ_cons]

theorem hasAs_integers (Ts : List IntType) : hasAs (Ts.map IntType.argType) = false := by
  rw [hasAs, List.any_map, List.any_eq_false]
  exact fun T _ => Bool.false_ne_true

section

variable {Env : Type}

open Code

/-- Integers travel by value: whatever integer types the caller and the handler use, and however
many integers they have, the handler runs exactly when each integer that it takes is in the range
of its type, and then on these very integers, with zeros for those that were not sent. -/
theorem apply_integers (Ss Ts : List IntType) (sent : Tuple (Ss.map IntType.argType))
    (bytes : List UInt8)
    (packed : packArgs (Tuple.packed (Ss.map IntType.argType) sent) = .ok bytes)
    (returnsVoid : Bool) (invoke : Tuple (Ts.map IntType.argType) → Code Env Unit)
    (trailing : List UInt8) (env : Env) :
    (InRange Ts (integersOf Ss sent) → ∃ values,
      integersOf Ts values = resize 0 Ts.length (integersOf Ss sent) ∧
      exec (Invoker.apply ⟨Ts.map IntType.argType, returnsVoid, invoke⟩ (bytes ++ trailing)) env =
        Invoker.classify ⟨Ts.map IntType.argType, returnsVoid, invoke⟩
          (exec (invoke values) env)) ∧
    (¬ InRange Ts (integersOf Ss sent) →
      exec (Invoker.apply ⟨Ts.map IntType.argType, returnsVoid, invoke⟩ (bytes ++ trailing)) env =
        (.ok "ARGS FAIL", env)) := by
  obtain ⟨body, all, small, rfl⟩ := packArgs_ok packed
  obtain rfl := Except.ok.inj ((packAll_integers Ss sent).symm.trans all)
  have storable := integersOf_storable Ss sent
  have count : (Tuple.packed (Ss.map IntType.argType) sent).length =
      ((integersOf Ss sent).map visitNegativeInteger).length := by
    rw [Tuple.packed_length, List.length_map, List.length_map, integersOf_length]
  rw [count] at small ⊢
  have decodes := fun values => ((packs_integers storable).array small).decodes_iff
    (by decide : 0 + 1 ≤ depthLimit) (hasAs_integers Ts) trailing values
  constructor
  · intro inRange
    obtain ⟨values, same⟩ := exists_integers inRange
    refine ⟨values, same, Invoker.exec_apply_of_ok (Codec.unpack_iff.mpr ?_) env⟩
    exact (decodes values).mpr ((accepts_integers_iff Ts storable values).mpr ⟨inRange, same⟩)
  · intro outside
    refine Invoker.exec_apply_of_thrown (Codec.unpack_of_not_decodes ?_ ?_) env
    · exact fun short => Bool.noConfusion ((hasAs_integers Ts).symm.trans short.1)
    · exact fun values decoded =>
        outside ((accepts_integers_iff Ts storable values).mp ((decodes values).mp decoded)).1

/-- A `long` and a `short` are sent to a handler that takes a `uint8_t`, an `int8_t` and one more
integer. -/
theorem apply_integers_three :
    ∃ values, integersOf [.uint8, .int8, .uint32] values = [200, -5, 0] ∧
      exec (Invoker.apply ⟨[IntType.uint8, .int8, .uint32].map IntType.argType, true,
        fun _ => return ()⟩ ([0x92, 0xcc, 0xc8, 0xfb] ++ [])) () =
          (.ok "invoke return void. OK", ()) := by
  have sent : integersOf [.int64, .int16] (200#64, BitVec.ofInt 16 (-5), ()) = [200, -5] := by
    decide
  have called := (apply_integers [.int64, .int16] [.uint8, .int8, .uint32]
    (200#64, BitVec.ofInt 16 (-5), ()) [0x92, 0xcc, 0xc8, 0xfb] rfl true (fun _ => return ()) []
    ()).1
  rw [sent] at called
  exact called ⟨⟨by decide, by decide⟩, ⟨by decide, by decide⟩, trivial⟩

end

end RpcInstance.Msgpack
