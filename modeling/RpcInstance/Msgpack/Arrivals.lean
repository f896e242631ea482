/-
This file is about values that are packed as one argument type and converted to
another, as the arguments of a call are: the caller packs its values by their types,
and the handler converts to the types it takes.

A value arrives as another one when each byte string it is packed to is the
shortest form of an object that converts to the other, whatever the slot it is
converted into held before. There is one lemma for each adaptor, and the adaptors
of containers pass on what holds of their elements.
-/

import RpcInstance.Msgpack.Adaptors
import RpcInstance.Msgpack.Containers
import RpcInstance.Msgpack.Integers

namespace RpcInstance.Msgpack

open BigEndian

/-! ### Arriving -/

/-- An object that some bytes are the shortest form of and that converts to a value. Only where
`nullable` is set it may be nil. -/
structure Received (depth : ℕ) (nullable : Bool) (T : ArgType) (bytes : List UInt8)
    (object : Object) (value : T.Value) : Prop where
  packs : Packs depth [object] bytes
  convert : ∀ slot, T.convert object slot = .ok value
  objectAs : T.objectAs object = .ok value
  solid : nullable = false → object ≠ .nil

/-- Whatever `sent` is packed to as an `S`, the object it stands for converts to `value` as a
`T`. -/
def Arrives (depth : ℕ) (nullable : Bool) (S T : ArgType) (sent : S.Value) (value : T.Value) :
    Prop :=
  ∀ bytes, S.pack sent = .ok bytes → ∃ object, Received depth nullable T bytes object value

/-- Where a type has no `as` adaptor, the object is converted into a fresh value. -/
theorem objectAs_of_none {T : ArgType} (plain : T.as = none) (object : Object) :
    T.objectAs object = T.convert object T.initial := by
  rw [ArgType.objectAs, plain]

theorem objectAs_of_some {T : ArgType} {as : Object → Except Thrown T.Value}
    (known : T.as = some as) (object : Object) : T.objectAs object = as object := by
  rw [ArgType.objectAs, known]

theorem Received.of_convert {depth : ℕ} {nullable : Bool} {T : ArgType} {bytes : List UInt8}
    {object : Object} {value : T.Value} (plain : T.as = none) (packs : Packs depth [object] bytes)
    (convert : ∀ slot, T.convert object slot = .ok value) (solid : object ≠ .nil) :
    Received depth nullable T bytes object value :=
  ⟨packs, convert, (objectAs_of_none plain object).trans (convert _), fun _ => solid⟩

/-! ### Integers -/

variable {depth : ℕ} {nullable : Bool}

theorem visitNegativeInteger_ne_nil (value : ℤ) : visitNegativeInteger value ≠ .nil := by
  obtain ⟨_, integer⟩ | ⟨_, integer⟩ := visitNegativeInteger_cases value <;>
    exact integer ▸ Object.noConfusion

/-- An integer arrives as a value of any type that holds the same integer. -/
theorem arrives_integer {S T : IntType} {sent : S.Value} {value : T.Value}
    (same : S.toInt sent = T.toInt value) :
    Arrives depth nullable S.argType T.argType sent value := by
  intro bytes packed
  obtain rfl := Except.ok.inj packed
  refine ⟨visitNegativeInteger (S.toInt sent), .of_convert rfl ?_ ?_ ?_⟩
  · exact S.pack_eq sent ▸ .integer (S.storable sent)
  · exact fun slot => convertInteger_toInt same
  · exact visitNegativeInteger_ne_nil _

/-! ### Booleans and byte strings -/

theorem arrives_bool (value : Bool) : Arrives depth nullable bool bool value value := by
  intro bytes packed
  obtain rfl := Except.ok.inj packed
  refine ⟨.boolean value, .of_convert rfl ?_ (fun slot => rfl) Object.noConfusion⟩
  cases value <;> exact .byte rfl

theorem checkedGetContainerSize_eq_ok {size checked : ℕ}
    (accepted : checkedGetContainerSize size = .ok checked) : checked = size ∧ size < 2 ^ 32 := by
  unfold checkedGetContainerSize at accepted
  split at accepted
  · cases accepted
  · next small => exact ⟨(Except.ok.inj accepted).symm, by omega⟩

theorem packString_ok {value bytes : List UInt8} (packed : packString value = .ok bytes) :
    bytes = packStr value.length ++ value ∧ value.length < 2 ^ 32 := by
  obtain ⟨size, accepted, same⟩ := bind_eq_ok_iff.mp packed
  obtain ⟨rfl, small⟩ := checkedGetContainerSize_eq_ok accepted
  exact ⟨(Except.ok.inj same).symm, small⟩

theorem packVectorChar_ok {value bytes : List UInt8} (packed : vectorChar.pack value = .ok bytes) :
    bytes = packBin value.length ++ value ∧ value.length < 2 ^ 32 := by
  obtain ⟨size, accepted, same⟩ := bind_eq_ok_iff.mp packed
  obtain ⟨rfl, small⟩ := checkedGetContainerSize_eq_ok accepted
  exact ⟨(Except.ok.inj same).symm, small⟩

theorem arrives_string (value : List UInt8) : Arrives depth nullable string string value value := by
  intro bytes packed
  obtain ⟨rfl, small⟩ := packString_ok packed
  exact ⟨.str value, .of_convert rfl (.str small) (fun slot => rfl) Object.noConfusion⟩

theorem arrives_vectorChar (value : List UInt8) :
    Arrives depth nullable vectorChar vectorChar value value := by
  intro bytes packed
  obtain ⟨rfl, small⟩ := packVectorChar_ok packed
  exact ⟨.bin value, .of_convert rfl (.bin small) (fun slot => rfl) Object.noConfusion⟩

/-! ### Elements -/

theorem packAll_cons_iff {arg : Packed} {args : List Packed} {bytes : List UInt8} :
    packAll (arg :: args) = .ok bytes ↔
      ∃ front back, arg = .ok front ∧ packAll args = .ok back ∧ bytes = front ++ back := by
  rw [packAll, bind_eq_ok_iff]
  constructor
  · rintro ⟨front, first, rest⟩
    obtain ⟨back, others, same⟩ := bind_eq_ok_iff.mp rest
    exact ⟨front, back, first, others, (Except.ok.inj same).symm⟩
  · rintro ⟨front, back, first, others, rfl⟩
    exact ⟨front, first, bind_eq_ok_iff.mpr ⟨back, others, rfl⟩⟩

theorem packArgs_ok {args : List Packed} {bytes : List UInt8} (packed : packArgs args = .ok bytes) :
    ∃ body, packAll args = .ok body ∧ args.length < 2 ^ 32 ∧
      bytes = packArray args.length ++ body := by
  obtain ⟨size, accepted, rest⟩ := bind_eq_ok_iff.mp packed
  obtain ⟨rfl, small⟩ := checkedGetContainerSize_eq_ok accepted
  obtain ⟨body, all, same⟩ := bind_eq_ok_iff.mp rest
  exact ⟨body, all, small, (Except.ok.inj same).symm⟩

/-- An object converts to a value, in place and by `as`. -/
def Becomes (T : ArgType) (object : Object) (value : T.Value) : Prop :=
  (∀ slot, T.convert object slot = .ok value) ∧ T.objectAs object = .ok value

theorem Received.becomes {T : ArgType} {bytes : List UInt8} {object : Object} {value : T.Value}
    (received : Received depth nullable T bytes object value) : Becomes T object value :=
  ⟨received.convert, received.objectAs⟩

/-- The elements of a vector are packed to objects that become the elements of the other one. -/
theorem exists_elements {S T : ArgType} {sent : List S.Value} {values : List T.Value}
    (arrive : List.Forall₂ (Arrives depth true S T) sent values) {body : List UInt8}
    (packed : packAll (sent.map S.pack) = .ok body) :
    ∃ items, Packs depth items body ∧ List.Forall₂ (Becomes T) items values := by
  induction arrive generalizing body with
  | nil =>
    obtain rfl := Except.ok.inj packed
    exact ⟨[], .nil, .nil⟩
  | cons arrives others inductionHypothesis =>
    obtain ⟨front, back, first, rest, rfl⟩ := packAll_cons_iff.mp packed
    obtain ⟨item, received⟩ := arrives front first
    obtain ⟨items, packs, become⟩ := inductionHypothesis rest
    exact ⟨item :: items, received.packs.cons packs, .cons received.becomes become⟩

theorem convertItems_of_become {T : ArgType} {items : List Object} {values : List T.Value}
    (become : List.Forall₂ (Becomes T) items values) {slots : List T.Value}
    (room : slots.length = items.length) : convertItems T items slots = .ok values := by
  induction become generalizing slots with
  | nil =>
    obtain rfl := List.eq_nil_of_length_eq_zero room
    rfl
  | cons becomes others inductionHypothesis =>
    cases slots with
    | nil => cases room
    | cons slot slots =>
      rw [convertItems, becomes.1, inductionHypothesis (Nat.succ.inj room)]
      rfl

theorem mapM_of_become {T : ArgType} {as : Object → Except Thrown T.Value} (known : T.as = some as)
    {items : List Object} {values : List T.Value} (become : List.Forall₂ (Becomes T) items values) :
    items.mapM as = .ok values := by
  induction become with
  | nil => rfl
  | cons becomes others inductionHypothesis =>
    rw [List.mapM_cons, ← objectAs_of_some known, becomes.2, inductionHypothesis]
    rfl

theorem resize_length {Value : Type} (fresh : Value) (size : ℕ) (slots : List Value) :
    (resize fresh size slots).length = size := by
  rw [resize, List.length_append, List.length_take, List.length_replicate]
  omega

/-! ### Containers -/

theorem arrives_vector {S T : ArgType} {generic : S.ownVector = false}
    {generic' : T.ownVector = false} {sent : List S.Value} {values : List T.Value}
    (arrive : List.Forall₂ (Arrives depth true S T) sent values) :
    Arrives (depth + 1) nullable (vector S generic) (vector T generic') sent values := by
  intro bytes packed
  obtain ⟨body, all, small, rfl⟩ := packArgs_ok packed
  obtain ⟨items, packs, become⟩ := exists_elements arrive all
  have count : items.length = sent.length := become.length_eq.trans arrive.length_eq.symm
  have convert : ∀ slots, (vector T generic').convert (.array items) slots = .ok values :=
    fun slots => convertItems_of_become become (resize_length T.initial items.length slots)
  rw [List.length_map, ← count] at small ⊢
  refine ⟨.array items, .array small packs, convert, ?_, fun _ => Object.noConfusion⟩
  rcases known : T.as with _ | as
  · have plain : (vector T generic').as = none := congrArg (Option.map asVector) known
    exact (objectAs_of_none plain _).trans (convert _)
  · have adapted : (vector T generic').as = some (asVector as) :=
      congrArg (Option.map asVector) known
    exact (objectAs_of_some adapted _).trans (mapM_of_become known become)

theorem arrives_pair {S S' T T' : ArgType} {first : S.Value} {second : S'.Value} {value : T.Value}
    {value' : T'.Value} (arrives : Arrives depth true S T first value)
    (arrives' : Arrives depth true S' T' second value') :
    Arrives (depth + 1) nullable (pair S S') (pair T T') (first, second) (value, value') := by
  intro bytes packed
  obtain ⟨front, packedFirst, rest⟩ := bind_eq_ok_iff.mp packed
  obtain ⟨back, packedSecond, same⟩ := bind_eq_ok_iff.mp rest
  obtain rfl := Except.ok.inj same
  obtain ⟨item, received⟩ := arrives front packedFirst
  obtain ⟨item', received'⟩ := arrives' back packedSecond
  have convert : ∀ slots,
      (pair T T').convert (.array [item, item']) slots = .ok (value, value') := by
    intro slots
    show (T.convert item slots.1 >>= fun first => T'.convert item' slots.2 >>= fun second =>
      pure (first, second)) = _
    rw [received.convert, received'.convert]
    rfl
  have converted : asPair T T' (.array [item, item']) = .ok (value, value') := by
    rw [asPair, received.objectAs, received'.objectAs]
    rfl
  refine ⟨.array [item, item'], ?_, convert, ?_, fun _ => Object.noConfusion⟩
  · have both := received.packs.cons (received'.packs.cons .nil)
    rw [List.append_nil] at both
    exact .array (show 2 < 2 ^ 32 by decide) both
  · by_cases adapted : (T.as.isSome || T'.as.isSome) = true
    · exact (objectAs_of_some (if_pos adapted) _).trans converted
    · exact (objectAs_of_none (if_neg adapted) _).trans (convert _)

theorem convertOptional_of_ne_nil {T : ArgType} {object : Object} (solid : object ≠ .nil) :
    convertOptional T object = (T.convert object T.initial).map some := by
  cases object with
  | nil => exact absurd rfl solid
  | _ => rfl

theorem asOptional_of_ne_nil {Value : Type} {as : Object → Except Thrown Value} {object : Object}
    (solid : object ≠ .nil) : asOptional as object = (as object).map some := by
  cases object with
  | nil => exact absurd rfl solid
  | _ => rfl

theorem arrives_some {S T : ArgType} {sent : S.Value} {value : T.Value}
    (arrives : Arrives depth false S T sent value) :
    Arrives depth true (optional S) (optional T) (some sent) (some value) := by
  intro bytes packed
  obtain ⟨object, received⟩ := arrives bytes packed
  have solid := received.solid rfl
  have convert : ∀ slot, (optional T).convert object slot = .ok (some value) := by
    intro slot
    exact (convertOptional_of_ne_nil solid).trans (congrArg _ (received.convert T.initial))
  refine ⟨object, received.packs, convert, ?_, nofun⟩
  rcases known : T.as with _ | as
  · have plain : (optional T).as = none := congrArg (Option.map asOptional) known
    exact (objectAs_of_none plain _).trans (convert _)
  · have adapted : (optional T).as = some (asOptional as) := congrArg (Option.map asOptional) known
    rw [objectAs_of_some adapted, asOptional_of_ne_nil solid, ← objectAs_of_some known,
      received.objectAs]
    rfl

theorem arrives_none {S T : ArgType} :
    Arrives depth true (optional S) (optional T) none none := by
  intro bytes packed
  obtain rfl := Except.ok.inj packed
  refine ⟨.nil, .byte rfl, fun slot => rfl, ?_, nofun⟩
  rcases known : T.as with _ | as
  · have plain : (optional T).as = none := congrArg (Option.map asOptional) known
    exact objectAs_of_none plain _
  · have adapted : (optional T).as = some (asOptional as) := congrArg (Option.map asOptional) known
    exact objectAs_of_some adapted _

/-! ### Tuples -/

/-- The components of a tuple arrive in order. Surplus components are values of some type, and the
components that are missing have their initial value. -/
def ArriveAll (depth : ℕ) : (Ss Ts : List ArgType) → Tuple Ss → Tuple Ts → Prop
  | [], Ts, _, values => values = Tuple.initial Ts
  | S :: Ss, [], (sent, others), _ =>
    Arrives depth true S S sent sent ∧ ArriveAll depth Ss [] others ()
  | S :: Ss, T :: Ts, (sent, others), (value, values) =>
    Arrives depth true S T sent value ∧ ArriveAll depth Ss Ts others values

/-- Every object becomes the component at its place. -/
def BecomeAll : (Ts : List ArgType) → List Object → Tuple Ts → Prop
  | [], _, _ => True
  | T :: Ts, [], values => values = Tuple.initial (T :: Ts)
  | T :: Ts, item :: items, (value, values) => Becomes T item value ∧ BecomeAll Ts items values

theorem becomeAll_nil (Ts : List ArgType) : BecomeAll Ts [] (Tuple.initial Ts) := by
  cases Ts with
  | nil => trivial
  | cons T Ts => rfl

/-- The components of a tuple are packed to objects that become the components of the other one. -/
theorem exists_components (Ss Ts : List ArgType) {sent : Tuple Ss} {values : Tuple Ts}
    (arrive : ArriveAll depth Ss Ts sent values) {body : List UInt8}
    (packed : packAll (Tuple.packed Ss sent) = .ok body) :
    ∃ items, Packs depth items body ∧ items.length = Ss.length ∧ BecomeAll Ts items values := by
  induction Ss generalizing Ts body with
  | nil =>
    obtain rfl := Except.ok.inj packed
    obtain rfl : values = Tuple.initial Ts := by cases Ts <;> exact arrive
    exact ⟨[], .nil, rfl, becomeAll_nil Ts⟩
  | cons S Ss inductionHypothesis =>
    obtain ⟨sent, others⟩ := sent
    obtain ⟨front, back, first, rest, rfl⟩ := packAll_cons_iff.mp packed
    cases Ts with
    | nil =>
      obtain ⟨item, received⟩ := arrive.1 front first
      obtain ⟨items, packs, count, -⟩ := inductionHypothesis [] arrive.2 rest
      exact ⟨item :: items, received.packs.cons packs, congrArg Nat.succ count, trivial⟩
    | cons T Ts =>
      obtain ⟨value, values⟩ := values
      obtain ⟨item, received⟩ := arrive.1 front first
      obtain ⟨items, packs, count, become⟩ := inductionHypothesis Ts arrive.2 rest
      exact ⟨item :: items, received.packs.cons packs, congrArg Nat.succ count, received.becomes,
        become⟩

theorem accepts_of_become (Ts : List ArgType) {items : List Object} {values : Tuple Ts}
    (become : BecomeAll Ts items values) : Accepts Ts items values := by
  induction Ts generalizing items with
  | nil => trivial
  | cons T Ts inductionHypothesis =>
    cases items with
    | nil => exact become
    | cons item items => exact ⟨become.1.1 T.initial, inductionHypothesis become.2⟩

theorem acceptsAs_of_become (Ts : List ArgType) {items : List Object} {values : Tuple Ts}
    (become : BecomeAll Ts items values) (count : items.length = Ts.length) :
    AcceptsAs Ts items values := by
  induction Ts generalizing items with
  | nil =>
    obtain rfl := List.eq_nil_of_length_eq_zero count
    trivial
  | cons T Ts inductionHypothesis =>
    cases items with
    | nil => cases count
    | cons item items =>
      exact ⟨become.1.2, inductionHypothesis become.2 (Nat.succ.inj count)⟩

/-- Both ways of converting give the components that arrive. Only `as` needs the lengths to be the
same. -/
theorem converts_of_become {Ts : List ArgType} {items : List Object} {values : Tuple Ts}
    (become : BecomeAll Ts items values)
    (count : hasAs Ts = true → items.length = Ts.length) : Converts Ts items values := by
  rw [Converts]
  split
  · next capable =>
    have same := count capable
    refine ⟨same.ge, ?_⟩
    rw [same, Nat.sub_self]
    exact acceptsAs_of_become Ts become same
  · exact accepts_of_become Ts become

/-- Where no component is missing, what the slots held before does not matter. -/
theorem convertTuple_of_become (Ts : List ArgType) {index : ℕ} {items : List Object}
    {values : Tuple Ts} (become : BecomeAll Ts (items.drop index) values)
    (count : index + Ts.length ≤ items.length) (slots : Tuple Ts) :
    convertTuple Ts index items slots = .ok values := by
  induction Ts generalizing index with
  | nil => rfl
  | cons T Ts inductionHypothesis =>
    rw [List.length_cons] at count
    have inside : index < items.length := by omega
    rw [List.drop_eq_getElem_cons inside] at become
    obtain ⟨slot, slots⟩ := slots
    obtain ⟨value, values⟩ := values
    rw [convertTuple, List.getElem?_eq_getElem inside]
    show (T.convert items[index] slot >>= fun value =>
      convertTuple Ts (index + 1) items slots >>= fun values => pure (Tuple.cons value values)) = _
    rw [become.1.1 slot, inductionHypothesis become.2 (by omega)]
    rfl

theorem Tuple.packed_length (Ts : List ArgType) (values : Tuple Ts) :
    (Tuple.packed Ts values).length = Ts.length := by
  induction Ts with
  | nil => rfl
  | cons T Ts inductionHypothesis => exact congrArg Nat.succ (inductionHypothesis values.2)

/-- What an argument tuple is packed to is the shortest form of an array whose elements become the
arguments that arrive. -/
theorem exists_array {Ss Ts : List ArgType} {sent : Tuple Ss} {values : Tuple Ts}
    (arrive : ArriveAll depth Ss Ts sent values) {bytes : List UInt8}
    (packed : packArgs (Tuple.packed Ss sent) = .ok bytes) :
    ∃ items, Packs (depth + 1) [.array items] bytes ∧ items.length = Ss.length ∧
      BecomeAll Ts items values := by
  obtain ⟨body, all, small, rfl⟩ := packArgs_ok packed
  obtain ⟨items, packs, count, become⟩ := exists_components Ss Ts arrive all
  refine ⟨items, ?_, count, become⟩
  rw [Tuple.packed_length, ← count] at small ⊢
  exact .array small packs

theorem arrives_tuple {Ss Ts : List ArgType} {plain : hasAs Ss = false} {plain' : hasAs Ts = false}
    {sent : Tuple Ss} {values : Tuple Ts} (arrive : ArriveAll depth Ss Ts sent values)
    (enough : Ts.length ≤ Ss.length) :
    Arrives (depth + 1) nullable (tuple Ss plain) (tuple Ts plain') sent values := by
  intro bytes packed
  obtain ⟨items, packs, count, become⟩ := exists_array arrive packed
  exact ⟨.array items, .of_convert rfl packs
    (convertTuple_of_become Ts become (by omega)) Object.noConfusion⟩

/-! ### Maps -/

section

variable {K V : ArgType}

/-- Both objects of an entry become the key and the value. -/
def BecomesEntry (K V : ArgType) (item : Object × Object) (entry : K.Value × V.Value) : Prop :=
  Becomes K item.1 entry.1 ∧ Becomes V item.2 entry.2

theorem exists_entries {entries : List (K.Value × V.Value)}
    (arrive : ∀ entry ∈ entries, Arrives depth true K K entry.1 entry.1 ∧
      Arrives depth true V V entry.2 entry.2) {body : List UInt8}
    (packed : packEntries K V entries = .ok body) :
    ∃ items, Packs depth (flatten items) body ∧
      List.Forall₂ (BecomesEntry K V) items entries := by
  induction entries generalizing body with
  | nil =>
    obtain rfl := Except.ok.inj packed
    exact ⟨[], .nil, .nil⟩
  | cons entry entries inductionHypothesis =>
    obtain ⟨key, value⟩ := entry
    obtain ⟨first, packedKey, rest⟩ := bind_eq_ok_iff.mp packed
    obtain ⟨second, packedValue, rest'⟩ := bind_eq_ok_iff.mp rest
    obtain ⟨back, packedRest, same⟩ := bind_eq_ok_iff.mp rest'
    obtain rfl := Except.ok.inj same
    obtain ⟨arrivesKey, arrivesValue⟩ := arrive _ List.mem_cons_self
    obtain ⟨keyItem, received⟩ := arrivesKey first packedKey
    obtain ⟨valueItem, received'⟩ := arrivesValue second packedValue
    obtain ⟨items, packs, become⟩ :=
      inductionHypothesis (fun entry member => arrive entry (List.mem_cons_of_mem _ member))
        packedRest
    exact ⟨(keyItem, valueItem) :: items, received.packs.cons (received'.packs.cons packs),
      .cons ⟨received.becomes, received'.becomes⟩ become⟩

variable [Ord K.Value] [Std.TransOrd K.Value]

theorem convertEntries_of_become {items : List (Object × Object)}
    {entries : List (K.Value × V.Value)} (become : List.Forall₂ (BecomesEntry K V) items entries)
    (tmp : Map K V) :
    convertEntries K V items tmp = .ok (tmp.insertMany entries) := by
  induction become generalizing tmp with
  | nil => exact congrArg Except.ok Std.ExtTreeMap.insertMany_nil.symm
  | @cons item entry items entries becomes others inductionHypothesis =>
    obtain ⟨item, item'⟩ := item
    obtain ⟨key, value⟩ := entry
    rw [convertEntries, becomes.1.1 K.initial]
    show (V.convert item' (tmp.getD key V.initial) >>= fun value =>
      convertEntries K V items (tmp.insert key value)) = _
    rw [becomes.2.1, Std.ExtTreeMap.insertMany_cons]
    exact inductionHypothesis (tmp.insert key value)

variable [Std.LawfulEqOrd K.Value]

theorem insertIfNew_of_not_mem {v : Map K V} {key : K.Value}
    (absent : key ∉ v) (value : V.Value) : v.insertIfNew key value = v.insert key value := by
  refine Std.ExtTreeMap.ext_getElem? fun other => ?_
  rw [Std.ExtTreeMap.getElem?_insertIfNew, Std.ExtTreeMap.getElem?_insert]
  simp only [absent, not_false_eq_true, and_true]

theorem emplaceEntries_of_become {items : List (Object × Object)}
    {entries : List (K.Value × V.Value)} (become : List.Forall₂ (BecomesEntry K V) items entries)
    (distinct : entries.Pairwise fun first second => ¬ compare first.1 second.1 = .eq)
    {v : Map K V} (absent : ∀ entry ∈ entries, entry.1 ∉ v) :
    emplaceEntries K V items v = .ok (v.insertMany entries) := by
  induction become generalizing v with
  | nil => exact congrArg Except.ok Std.ExtTreeMap.insertMany_nil.symm
  | @cons item entry items entries becomes others inductionHypothesis =>
    obtain ⟨item, item'⟩ := item
    obtain ⟨key, value⟩ := entry
    obtain ⟨apart, distinct⟩ := List.pairwise_cons.mp distinct
    rw [emplaceEntries, becomes.1.2]
    show (V.objectAs item' >>= fun value =>
      emplaceEntries K V items (v.insertIfNew key value)) = _
    rw [becomes.2.2, Std.ExtTreeMap.insertMany_cons,
      ← insertIfNew_of_not_mem (absent _ List.mem_cons_self)]
    refine inductionHypothesis distinct fun entry member inside => ?_
    obtain same | inside := Std.ExtTreeMap.mem_insertIfNew.mp inside
    · exact apart entry member same
    · exact absent entry (List.mem_cons_of_mem _ member) inside

/-- Inserting the entries of a map into an empty one gives the map back. -/
theorem insertMany_toList (value : Map K V) :
    (∅ : Map K V).insertMany value.toList = value := by
  classical
  rw [← Std.ExtTreeMap.ofList_eq_insertMany_empty]
  refine Std.ExtTreeMap.ext_getElem? fun key => ?_
  rcases known : value[key]? with _ | found
  · refine Std.ExtTreeMap.getElem?_ofList_of_contains_eq_false (Bool.eq_false_iff.mpr ?_)
    intro contained
    obtain ⟨⟨other, found⟩, member, rfl⟩ := List.mem_map.mp (List.contains_iff_mem.mp contained)
    cases known.symm.trans (Std.ExtTreeMap.mem_toList_iff_getElem?_eq_some.mp member)
  · exact Std.ExtTreeMap.getElem?_ofList_of_mem Std.ReflOrd.compare_self
      Std.ExtTreeMap.distinct_keys_toList (Std.ExtTreeMap.mem_toList_iff_getElem?_eq_some.mpr known)

theorem arrives_map {sent : Map K V}
    (arrive : ∀ entry ∈ sent.toList, Arrives depth true K K entry.1 entry.1 ∧
      Arrives depth true V V entry.2 entry.2) :
    Arrives (depth + 1) nullable (map K V) (map K V) sent sent := by
  intro bytes packed
  obtain ⟨size, accepted, rest⟩ := bind_eq_ok_iff.mp packed
  obtain ⟨rfl, small⟩ := checkedGetContainerSize_eq_ok accepted
  obtain ⟨body, all, same⟩ := bind_eq_ok_iff.mp rest
  obtain rfl := Except.ok.inj same
  obtain ⟨items, packs, become⟩ := exists_entries arrive all
  have count : items.length = sent.size :=
    become.length_eq.trans Std.ExtTreeMap.length_toList
  have convert : ∀ slot, (map K V).convert (.map items) slot = .ok sent := by
    intro slot
    exact (convertEntries_of_become become ∅).trans (congrArg _ (insertMany_toList sent))
  have converted : asMap K V (.map items) = .ok sent := by
    refine (emplaceEntries_of_become become Std.ExtTreeMap.distinct_keys_toList ?_).trans
      (congrArg _ (insertMany_toList sent))
    exact fun entry member => Std.ExtTreeMap.not_mem_empty
  rw [← count] at small ⊢
  refine ⟨.map items, .map small packs, convert, ?_, fun _ => Object.noConfusion⟩
  by_cases adapted : (K.as.isSome || V.as.isSome) = true
  · exact (objectAs_of_some (if_pos adapted) _).trans converted
  · exact (objectAs_of_none (if_neg adapted) _).trans (convert _)

end

end RpcInstance.Msgpack
