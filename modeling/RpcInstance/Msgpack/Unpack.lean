/-
This file models the msgpack parser and proves that it reads the msgpack grammar.

The parser is a loop with an explicit stack. A complete object is handed to the
container on top of the stack, which may complete that container in turn, all the
way down. The grammar is the recursive description of the same format: a list of
objects is spelled by the spellings of its members one after another, and a
container by the token that starts it and the spelling of its entries.

What the two have in common is the stack: a stack that the parser can be in is a
list of containers whose entries so far are spelled by the bytes read so far.
-/

import RpcInstance.Msgpack.Token

namespace RpcInstance.Msgpack

open Scanner

/-! ### The parser -/

/-- An open container, with the number of entries that are missing and the entries it has. -/
inductive StackElem where
  | arrayItem (rest : ℕ) (done : List Object)
  | mapKey (rest : ℕ) (done : List (Object × Object))
  | mapValue (rest : ℕ) (done : List (Object × Object)) (key : Object)

/-- Where the parser stands after an object: it is done, or it reads on. -/
inductive Progress where
  | success (object : Object)
  | next (stack : List StackElem)

/-- Hands a complete object to the container on top of the stack. -/
def consume : Object → List StackElem → Progress
  | object, [] => .success object
  | object, .arrayItem rest done :: below =>
    if rest - 1 = 0 then consume (.array (done ++ [object])) below
    else .next (.arrayItem (rest - 1) (done ++ [object]) :: below)
  | object, .mapKey rest done :: below => .next (.mapValue rest done object :: below)
  | object, .mapValue rest done key :: below =>
    if rest - 1 = 0 then consume (.map (done ++ [(key, object)])) below
    else .next (.mapKey (rest - 1) (done ++ [(key, object)]) :: below)

/-- The default `unpack_limit` on the nesting of containers. The other default limits are as
large as a 32-bit size can get. -/
def depthLimit : ℕ := 0xffffffff

/-- `depth_size_overflow`. -/
def depthSizeOverflow : Thrown := .exception "depth size overflow"

/-- What is thrown where memory cannot be had. -/
def badAlloc : Thrown := .exception "std::bad_alloc"

/-- A container without entries. -/
def Container.empty : Container → Object
  | .array => .array []
  | .map => .map []

/-- A container of which nothing is read yet. -/
def Container.opened : Container → ℕ → StackElem
  | .array, size => .arrayItem size []
  | .map, size => .mapKey size []

/-- Starts a container. An empty one is complete at once. -/
def startAggregate (kind : Container) (size : ℕ) (stack : List StackElem) :
    Except Thrown Progress :=
  if depthLimit < stack.length + 1 then .error depthSizeOverflow
  else if size = 0 then .ok (consume kind.empty stack)
  else .ok (.next (kind.opened size :: stack))

/-- What a token does to the stack. -/
def advance : Token → List StackElem → Except Thrown Progress
  | .value object, stack => .ok (consume object stack)
  | .start kind size, stack => startAggregate kind size stack

/-- The loop of the parser, for at most `turns` turns. -/
def execute : ℕ → List UInt8 → List StackElem → Except Thrown (Object × List UInt8)
  | 0, _, _ => .error insufficientBytes
  | turns + 1, bytes, stack =>
    match token bytes with
    | .error thrown => .error thrown
    | .ok (next, rest) =>
      match advance next stack with
      | .error thrown => .error thrown
      | .ok (.success object) => .ok (object, rest)
      | .ok (.next stack) => execute turns rest stack

/-- The loop of the parser. A turn reads at least one byte, so as many turns as there are bytes
are enough. -/
def parse (bytes : List UInt8) (stack : List StackElem) : Except Thrown (Object × List UInt8) :=
  execute bytes.length bytes stack

/-- The first object of the data, and the bytes behind it, where there is memory for every object
that the data declares. -/
def unpack : Scanner UInt8 Thrown Object :=
  fun data => parse data []

/-! ### The grammar -/

/-- The keys and values of a map in the order they are written in. -/
def flatten (entries : List (Object × Object)) : List Object :=
  entries.flatMap fun entry => [entry.1, entry.2]

/-- The byte strings of a list of objects whose containers are at most `depth` deep. -/
inductive Spelled : ℕ → List Object → List UInt8 → Prop
  | nil (depth : ℕ) : Spelled depth [] []
  | value {depth : ℕ} {object : Object} {objects : List Object} {front bytes : List UInt8}
      (spelled : (Token.value object).Spells front) (others : Spelled depth objects bytes) :
      Spelled depth (object :: objects) (front ++ bytes)
  | array {depth : ℕ} {items objects : List Object} {front body bytes : List UInt8}
      (spelled : (Token.start .array items.length).Spells front)
      (inside : Spelled depth items body) (others : Spelled (depth + 1) objects bytes) :
      Spelled (depth + 1) (.array items :: objects) (front ++ (body ++ bytes))
  | map {depth : ℕ} {entries : List (Object × Object)} {objects : List Object}
      {front body bytes : List UInt8}
      (spelled : (Token.start .map entries.length).Spells front)
      (inside : Spelled depth (flatten entries) body)
      (others : Spelled (depth + 1) objects bytes) :
      Spelled (depth + 1) (.map entries :: objects) (front ++ (body ++ bytes))

/-- The byte strings of one object. -/
def Formats (object : Object) (bytes : List UInt8) : Prop :=
  Spelled depthLimit [object] bytes

theorem Spelled.append {depth : ℕ} {first second : List Object} {front back : List UInt8}
    (spelled : Spelled depth first front) (spelled' : Spelled depth second back) :
    Spelled depth (first ++ second) (front ++ back) := by
  induction spelled with
  | nil depth => exact spelled'
  | value spelled others inductionHypothesis =>
    rw [List.cons_append, List.append_assoc]
    exact .value spelled (inductionHypothesis spelled')
  | array spelled inside others _ inductionHypothesis =>
    rw [List.cons_append, List.append_assoc, List.append_assoc]
    exact .array spelled inside (inductionHypothesis spelled')
  | map spelled inside others _ inductionHypothesis =>
    rw [List.cons_append, List.append_assoc, List.append_assoc]
    exact .map spelled inside (inductionHypothesis spelled')

theorem Spelled.eq_nil {depth : ℕ} {bytes : List UInt8} (spelled : Spelled depth [] bytes) :
    bytes = [] := by
  cases spelled
  rfl

@[simp] theorem flatten_cons (entry : Object × Object) (entries : List (Object × Object)) :
    flatten (entry :: entries) = entry.1 :: entry.2 :: flatten entries := rfl

theorem flatten_concat (entries : List (Object × Object)) (entry : Object × Object) :
    flatten (entries ++ [entry]) = flatten entries ++ [entry.1] ++ [entry.2] := by
  unfold flatten
  rw [List.flatMap_append, List.append_assoc]
  rfl

/-! ### Turns of the loop -/

theorem token_shorter {bytes rest : List UInt8} {next : Token}
    (read : token bytes = .ok (next, rest)) : rest.length < bytes.length := by
  obtain ⟨front, rfl, ⟨selector, announced⟩⟩ := (reads_token _ _ _).mp read
  rw [List.length_append, List.length_cons]
  omega

theorem execute_of_le {turns : ℕ} {bytes : List UInt8} (stack : List StackElem)
    (enough : bytes.length ≤ turns) : execute turns bytes stack = parse bytes stack := by
  unfold parse
  induction turns using Nat.strong_induction_on generalizing bytes stack with
  | _ turns inductionHypothesis =>
    cases bytes with
    | nil => cases turns <;> rfl
    | cons selector bytes =>
      cases turns with
      | zero => cases enough
      | succ turns =>
        rw [List.length_cons, execute, execute]
        rcases read : token (selector :: bytes) with thrown | ⟨next, rest⟩
        · rfl
        · have shorter := token_shorter read
          rw [List.length_cons] at shorter enough
          dsimp only
          rcases advance next stack with thrown | object | stack
          · rfl
          · rfl
          · show execute turns rest stack = execute bytes.length rest stack
            rw [inductionHypothesis turns (Nat.lt_succ_self _) stack (by omega),
              inductionHypothesis bytes.length (by omega) stack (by omega)]

/-- What the parser returns once it stands at some progress with `rest` unread. -/
def resume : Progress → List UInt8 → Except Thrown (Object × List UInt8)
  | .success object, rest => .ok (object, rest)
  | .next stack, rest => parse rest stack

/-- One turn of the loop. -/
theorem parse_eq (bytes : List UInt8) (stack : List StackElem) :
    parse bytes stack =
      match token bytes with
      | .error thrown => .error thrown
      | .ok (next, rest) =>
        match advance next stack with
        | .error thrown => .error thrown
        | .ok progress => resume progress rest := by
  cases bytes with
  | nil => rfl
  | cons selector bytes =>
    unfold parse
    rw [List.length_cons, execute]
    rcases read : token (selector :: bytes) with thrown | ⟨next, rest⟩
    · rfl
    · have shorter := token_shorter read
      rw [List.length_cons] at shorter
      dsimp only
      rcases advance next stack with thrown | object | stack
      · rfl
      · rfl
      · exact execute_of_le stack (by omega)

theorem parse_of_spells {next : Token} {front rest : List UInt8} {stack : List StackElem}
    {progress : Progress} (spelled : next.Spells front)
    (advanced : advance next stack = .ok progress) :
    parse (front ++ rest) stack = resume progress rest := by
  rw [parse_eq, (reads_token _ _ _).mpr ⟨front, rfl, spelled⟩]
  dsimp only
  rw [advanced]

theorem advance_start {kind : Container} {size : ℕ} {stack : List StackElem}
    (room : stack.length + 1 ≤ depthLimit) :
    advance (.start kind size) stack =
      .ok (if size = 0 then consume kind.empty stack else .next (kind.opened size :: stack)) := by
  show startAggregate kind size stack = _
  rw [startAggregate, if_neg (Nat.not_lt.mpr room)]
  split <;> rfl

/-! ### Every spelling is read -/

/-- Handing over a list of objects one after another. The last one may complete everything, and
none before it. -/
def feed : List StackElem → List Object → Option Progress
  | stack, [] => some (.next stack)
  | stack, object :: objects =>
    match consume object stack with
    | .success whole => if objects.isEmpty then some (.success whole) else none
    | .next stack => feed stack objects

theorem feed_singleton (stack : List StackElem) (object : Object) :
    feed stack [object] = some (consume object stack) := by
  rw [feed]
  cases consume object stack <;> rfl

theorem consume_length {object : Object} {stack after : List StackElem}
    (consumed : consume object stack = .next after) : after.length ≤ stack.length := by
  induction stack generalizing object with
  | nil => cases consumed
  | cons element below inductionHypothesis =>
    cases element with
    | arrayItem rest done =>
      rw [consume] at consumed
      split at consumed
      · exact (inductionHypothesis consumed).trans (Nat.le_succ _)
      · obtain rfl := Progress.next.inj consumed
        exact Nat.le_refl _
    | mapKey rest done =>
      obtain rfl := Progress.next.inj consumed
      exact Nat.le_refl _
    | mapValue rest done key =>
      rw [consume] at consumed
      split at consumed
      · exact (inductionHypothesis consumed).trans (Nat.le_succ _)
      · obtain rfl := Progress.next.inj consumed
        exact Nat.le_refl _

theorem feed_array (below : List StackElem) (done : List Object) (item : Object)
    (items : List Object) :
    feed (.arrayItem (items.length + 1) done :: below) (item :: items) =
      some (consume (.array (done ++ item :: items)) below) := by
  induction items generalizing done item with
  | nil => exact feed_singleton _ item
  | cons second items inductionHypothesis =>
    rw [feed, consume, if_neg (by exact Nat.succ_ne_zero _)]
    show feed (.arrayItem (items.length + 1) (done ++ [item]) :: below) (second :: items) = _
    rw [inductionHypothesis, List.append_assoc]
    rfl

theorem feed_map (below : List StackElem) (done : List (Object × Object))
    (entry : Object × Object) (entries : List (Object × Object)) :
    feed (.mapKey (entries.length + 1) done :: below) (flatten (entry :: entries)) =
      some (consume (.map (done ++ entry :: entries)) below) := by
  induction entries generalizing done entry with
  | nil => exact feed_singleton _ entry.2
  | cons second entries inductionHypothesis =>
    rw [flatten_cons, feed, consume]
    dsimp only
    rw [feed, consume, if_neg (by exact Nat.succ_ne_zero _)]
    show feed (.mapKey (entries.length + 1) (done ++ [entry]) :: below)
      (flatten (second :: entries)) = _
    rw [inductionHypothesis, List.append_assoc]
    rfl

theorem resume_consume {object : Object} {objects : List Object} {bytes rest : List UInt8}
    {stack : List StackElem} {depth : ℕ} {progress : Progress}
    (others : Spelled depth objects bytes) (room : stack.length + depth ≤ depthLimit)
    (reads : ∀ {stack : List StackElem} {progress : Progress},
      stack.length + depth ≤ depthLimit → feed stack objects = some progress →
        parse (bytes ++ rest) stack = resume progress rest)
    (fed : feed stack (object :: objects) = some progress) :
    resume (consume object stack) (bytes ++ rest) = resume progress rest := by
  rw [feed] at fed
  rcases consumed : consume object stack with whole | after
  · rw [consumed] at fed
    cases objects with
    | nil =>
      obtain rfl := others.eq_nil
      obtain rfl := Option.some.inj fed
      rfl
    | cons second objects => cases fed
  · rw [consumed] at fed
    have shorter := consume_length consumed
    exact reads (by omega) fed

/-- The parser reads a spelling to its end and hands over the objects that it spells. -/
theorem Spelled.parse {depth : ℕ} {objects : List Object} {bytes : List UInt8}
    (spelled : Spelled depth objects bytes) {stack : List StackElem} {progress : Progress}
    {rest : List UInt8} (room : stack.length + depth ≤ depthLimit)
    (fed : feed stack objects = some progress) :
    Msgpack.parse (bytes ++ rest) stack = resume progress rest := by
  induction spelled generalizing stack progress rest with
  | nil depth =>
    obtain rfl := Option.some.inj fed
    rfl
  | value spelled others inductionHypothesis =>
    rw [List.append_assoc, parse_of_spells spelled rfl]
    exact resume_consume others room inductionHypothesis fed
  | @array depth items objects front body bytes spelled inside others ofItems ofOthers =>
    rw [List.append_assoc, parse_of_spells spelled (advance_start (by omega)), List.append_assoc]
    refine Eq.trans ?_ (resume_consume others room ofOthers fed)
    cases items with
    | nil =>
      obtain rfl := inside.eq_nil
      rfl
    | cons item items =>
      rw [if_neg (by exact Nat.succ_ne_zero _)]
      exact ofItems (by rw [List.length_cons]; omega) (feed_array stack [] item items)
  | @map depth entries objects front body bytes spelled inside others ofEntries ofOthers =>
    rw [List.append_assoc, parse_of_spells spelled (advance_start (by omega)), List.append_assoc]
    refine Eq.trans ?_ (resume_consume others room ofOthers fed)
    cases entries with
    | nil =>
      obtain rfl := inside.eq_nil
      rfl
    | cons entry entries =>
      rw [if_neg (by exact Nat.succ_ne_zero _)]
      exact ofEntries (by rw [List.length_cons]; omega) (feed_map stack [] entry entries)

/-! ### Nothing else is read -/

/-- The stacks the parser can be in after reading some bytes: the entries each container has are
spelled by what was read since the token that started it. -/
inductive Open : List StackElem → List UInt8 → Prop
  | nil : Open [] []
  | arrayItem {rest : ℕ} {done : List Object} {below : List StackElem}
      {before front body : List UInt8} (outside : Open below before)
      (room : below.length + 1 ≤ depthLimit) (missing : 0 < rest)
      (spelled : (Token.start .array (done.length + rest)).Spells front)
      (inside : Spelled (depthLimit - (below.length + 1)) done body) :
      Open (.arrayItem rest done :: below) (before ++ (front ++ body))
  | mapKey {rest : ℕ} {done : List (Object × Object)} {below : List StackElem}
      {before front body : List UInt8} (outside : Open below before)
      (room : below.length + 1 ≤ depthLimit) (missing : 0 < rest)
      (spelled : (Token.start .map (done.length + rest)).Spells front)
      (inside : Spelled (depthLimit - (below.length + 1)) (flatten done) body) :
      Open (.mapKey rest done :: below) (before ++ (front ++ body))
  | mapValue {rest : ℕ} {done : List (Object × Object)} {key : Object} {below : List StackElem}
      {before front body : List UInt8} (outside : Open below before)
      (room : below.length + 1 ≤ depthLimit) (missing : 0 < rest)
      (spelled : (Token.start .map (done.length + rest)).Spells front)
      (inside : Spelled (depthLimit - (below.length + 1)) (flatten done ++ [key]) body) :
      Open (.mapValue rest done key :: below) (before ++ (front ++ body))

/-- What a progress says about the bytes read so far. -/
def Progress.Covers : Progress → List UInt8 → Prop
  | .success object, read => Formats object read
  | .next stack, read => Open stack read

theorem Spelled.closeArray {depth : ℕ} {items : List Object} {front body : List UInt8}
    (spelled : (Token.start .array items.length).Spells front) (inside : Spelled depth items body) :
    Spelled (depth + 1) [.array items] (front ++ body) := by
  have closed := Spelled.array spelled inside (.nil (depth + 1))
  rwa [List.append_nil] at closed

theorem Spelled.closeMap {depth : ℕ} {entries : List (Object × Object)} {front body : List UInt8}
    (spelled : (Token.start .map entries.length).Spells front)
    (inside : Spelled depth (flatten entries) body) :
    Spelled (depth + 1) [.map entries] (front ++ body) := by
  have closed := Spelled.map spelled inside (.nil (depth + 1))
  rwa [List.append_nil] at closed

/-- Handing over an object that the next bytes spell. -/
theorem Open.consume {stack : List StackElem} {before bytes : List UInt8} {object : Object}
    (opened : Open stack before)
    (spelled : Spelled (depthLimit - stack.length) [object] bytes) :
    (Msgpack.consume object stack).Covers (before ++ bytes) := by
  induction opened generalizing object bytes with
  | nil => exact spelled
  | @arrayItem rest done below before front body outside room missing started inside
      inductionHypothesis =>
    have grown := inside.append spelled
    have count : (done ++ [object]).length + (rest - 1) = done.length + rest := by
      rw [List.length_append, List.length_singleton]
      omega
    rw [List.append_assoc, List.append_assoc, Msgpack.consume]
    split
    · next last =>
      refine inductionHypothesis ?_
      rw [show depthLimit - below.length = depthLimit - (below.length + 1) + 1 by omega]
      rw [← count, last, Nat.add_zero] at started
      exact .closeArray started grown
    · next more => exact .arrayItem outside room (by omega) (count ▸ started) grown
  | @mapKey rest done below before front body outside room missing started inside _ =>
    rw [List.append_assoc, List.append_assoc]
    exact .mapValue outside room missing started (inside.append spelled)
  | @mapValue rest done key below before front body outside room missing started inside
      inductionHypothesis =>
    have grown := inside.append spelled
    have count : (done ++ [(key, object)]).length + (rest - 1) = done.length + rest := by
      rw [List.length_append, List.length_singleton]
      omega
    have flat : flatten done ++ [key] ++ [object] = flatten (done ++ [(key, object)]) :=
      (flatten_concat done (key, object)).symm
    rw [flat] at grown
    rw [List.append_assoc, List.append_assoc, Msgpack.consume]
    split
    · next last =>
      refine inductionHypothesis ?_
      rw [show depthLimit - below.length = depthLimit - (below.length + 1) + 1 by omega]
      rw [← count, last, Nat.add_zero] at started
      exact .closeMap started grown
    · next more => exact .mapKey outside room (by omega) (count ▸ started) grown

/-- One turn of the loop. -/
theorem Open.advance {stack : List StackElem} {before front : List UInt8} {next : Token}
    {progress : Progress} (opened : Open stack before) (spelled : next.Spells front)
    (advanced : Msgpack.advance next stack = .ok progress) :
    progress.Covers (before ++ front) := by
  cases next with
  | value object =>
    obtain rfl := Except.ok.inj advanced
    refine opened.consume ?_
    have whole := Spelled.value spelled (.nil (depthLimit - stack.length))
    rwa [List.append_nil] at whole
  | start kind size =>
    rw [Msgpack.advance, startAggregate] at advanced
    split at advanced
    · cases advanced
    · next shallow =>
      have room : stack.length + 1 ≤ depthLimit := Nat.not_lt.mp shallow
      have levels : depthLimit - stack.length = depthLimit - (stack.length + 1) + 1 := by omega
      split at advanced
      · next none =>
        obtain rfl := Except.ok.inj advanced
        subst none
        refine opened.consume ?_
        rw [levels]
        cases kind with
        | array =>
          have closed := @Spelled.closeArray _ [] _ _ spelled
            (.nil (depthLimit - (stack.length + 1)))
          rwa [List.append_nil] at closed
        | map =>
          have closed := @Spelled.closeMap _ [] _ _ spelled (.nil (depthLimit - (stack.length + 1)))
          rwa [List.append_nil] at closed
      · next some =>
        obtain rfl := Except.ok.inj advanced
        rw [← List.append_nil front]
        cases kind with
        | array =>
          refine .arrayItem opened room (Nat.pos_of_ne_zero some) ?_ (.nil _)
          rwa [List.length_nil, Nat.zero_add]
        | map =>
          refine .mapKey opened room (Nat.pos_of_ne_zero some) ?_ (.nil _)
          rwa [List.length_nil, Nat.zero_add]

theorem Open.parse {stack : List StackElem} {before bytes rest : List UInt8} {object : Object}
    (opened : Open stack before) (read : Msgpack.parse bytes stack = .ok (object, rest)) :
    ∃ front, bytes = front ++ rest ∧ Formats object (before ++ front) := by
  induction length : bytes.length using Nat.strong_induction_on
    generalizing bytes stack before with
  | _ size inductionHypothesis =>
    rw [parse_eq] at read
    rcases scanned : token bytes with thrown | ⟨next, behind⟩
    · rw [scanned] at read
      cases read
    · have shorter := token_shorter scanned
      obtain ⟨front, rfl, spelled⟩ := (reads_token _ _ _).mp scanned
      rw [scanned] at read
      dsimp only at read
      rcases advanced : Msgpack.advance next stack with thrown | progress
      · rw [advanced] at read
        cases read
      · rw [advanced] at read
        have covered := opened.advance spelled advanced
        cases progress with
        | success whole =>
          obtain ⟨rfl, rfl⟩ := Prod.mk.inj (Except.ok.inj read)
          exact ⟨front, rfl, covered⟩
        | next after =>
          obtain ⟨back, rfl, formatted⟩ :=
            inductionHypothesis behind.length (length ▸ shorter) covered read rfl
          rw [List.append_assoc] at formatted
          exact ⟨front ++ back, (List.append_assoc _ _ _).symm, formatted⟩

/-! ### The parser reads the grammar -/

/-- The parser accepts exactly the inputs that start with the byte string of an object, returns
that object and leaves what follows. -/
theorem reads_unpack : Reads unpack Formats := by
  intro input object rest
  constructor
  · intro read
    obtain ⟨front, split, formatted⟩ := Open.nil.parse read
    exact ⟨front, split, formatted⟩
  · rintro ⟨front, rfl, formatted⟩
    have fed : feed [] [object] = some (.success object) := rfl
    exact @Spelled.parse _ _ _ formatted [] _ rest (Nat.zero_add depthLimit).le fed

end RpcInstance.Msgpack
