/-
This file develops scanners, which read a value off the front of an input and
hand back the rest, and what it means for one to read a grammar.

A grammar says which inputs spell a value. A scanner reads it when it accepts
exactly the inputs that start with a spelling, returns the value that is spelled
and consumes the spelling and nothing else. The equivalence composes, so a
scanner that is put together from smaller ones is checked piece by piece.

One error of a scanner may stand for an input that ends too early. Such a scanner
settles when every other result stays the same whatever follows the input, and it
continues when every input that ends too early can be completed. Together they say
that the error marks exactly the proper prefixes of complete inputs.
-/

import Mathlib.Data.List.Basic

/-- Reads a value off the front of the input and returns the rest. -/
abbrev Scanner (Symbol Error Value : Type) : Type :=
  List Symbol → Except Error (Value × List Symbol)

namespace Scanner

variable {Symbol Error Value Next : Type}

/-- The scanner accepts exactly the inputs that start with a spelling of a value, and reads that
value and that spelling off them. -/
def Reads (scanner : Scanner Symbol Error Value) (spells : Value → List Symbol → Prop) : Prop :=
  ∀ input value rest, scanner input = .ok (value, rest) ↔
    ∃ front, input = front ++ rest ∧ spells value front

/-- Reads nothing. -/
def give (value : Value) : Scanner Symbol Error Value :=
  fun input => .ok (value, input)

/-- Reads the first `count` symbols. -/
def take (error : Error) (count : ℕ) : Scanner Symbol Error (List Symbol) :=
  fun input =>
    if count ≤ input.length then .ok (input.take count, input.drop count) else .error error

/-- Reads a value, and then what follows it. -/
def andThen (first : Scanner Symbol Error Value) (next : Value → Scanner Symbol Error Next) :
    Scanner Symbol Error Next :=
  fun input =>
    match first input with
    | .ok (value, rest) => next value rest
    | .error error => .error error

theorem reads_give (value : Value) :
    Reads (give value : Scanner Symbol Error Value) fun other front =>
      other = value ∧ front = [] := by
  intro input other rest
  constructor
  · intro accepted
    obtain ⟨rfl, rfl⟩ := Prod.mk.inj (Except.ok.inj accepted)
    exact ⟨[], rfl, rfl, rfl⟩
  · rintro ⟨front, rfl, rfl, rfl⟩
    rfl

theorem reads_fail (error : Error) :
    Reads (fun _ => .error error : Scanner Symbol Error Value) fun _ _ => False := by
  intro input value rest
  constructor
  · intro accepted
    cases accepted
  · rintro ⟨front, -, impossible⟩
    exact impossible.elim

theorem reads_take (error : Error) (count : ℕ) :
    Reads (take error count : Scanner Symbol Error (List Symbol)) fun value front =>
      front = value ∧ value.length = count := by
  intro input value rest
  constructor
  · intro accepted
    unfold take at accepted
    split at accepted
    · next enough =>
      obtain ⟨rfl, rfl⟩ := Prod.mk.inj (Except.ok.inj accepted)
      exact ⟨_, (List.take_append_drop count input).symm, rfl,
        List.length_take_of_le enough⟩
    · cases accepted
  · rintro ⟨front, rfl, rfl, rfl⟩
    unfold take
    rw [if_pos (by rw [List.length_append]; exact Nat.le_add_right _ _), List.take_left,
      List.drop_left]

theorem reads_andThen {first : Scanner Symbol Error Value}
    {next : Value → Scanner Symbol Error Next} {spells : Value → List Symbol → Prop}
    {spellsNext : Value → Next → List Symbol → Prop} (readsFirst : Reads first spells)
    (readsNext : ∀ value, Reads (next value) (spellsNext value)) :
    Reads (andThen first next) fun result front =>
      ∃ value head tail, front = head ++ tail ∧ spells value head ∧
        spellsNext value result tail := by
  intro input result rest
  constructor
  · intro accepted
    unfold andThen at accepted
    split at accepted
    · next value middle read =>
      obtain ⟨head, rfl, spelled⟩ := (readsFirst _ _ _).mp read
      obtain ⟨tail, rfl, spelled'⟩ := (readsNext value _ _ _).mp accepted
      exact ⟨head ++ tail, (List.append_assoc _ _ _).symm, value, head, tail, rfl, spelled,
        spelled'⟩
    · cases accepted
  · rintro ⟨front, rfl, value, head, tail, rfl, spelled, spelled'⟩
    unfold andThen
    rw [(readsFirst _ _ _).mpr ⟨head, List.append_assoc head tail rest, spelled⟩]
    exact (readsNext value _ _ _).mpr ⟨tail, rfl, spelled'⟩

/-! ### Inputs that end too early -/

/-- What becomes of a result when more symbols follow the input. -/
def extend (more : List Symbol) (result : Except Error (Value × List Symbol)) :
    Except Error (Value × List Symbol) :=
  result.map fun read => (read.1, read.2 ++ more)

/-- Unless the scanner asks for more, what it makes of an input does not depend on what follows. -/
def Settles (hungry : Error) (scanner : Scanner Symbol Error Value) : Prop :=
  ∀ input more, scanner input ≠ .error hungry →
    scanner (input ++ more) = extend more (scanner input)

/-- Where the scanner asks for more, some continuation is read to its end. -/
def Continues (hungry : Error) (scanner : Scanner Symbol Error Value) : Prop :=
  ∀ input, scanner input = .error hungry → ∃ more value, scanner (input ++ more) = .ok (value, [])

variable {hungry : Error}

/-- The scanner asks for more exactly on the proper prefixes of complete inputs. -/
theorem hungry_iff {scanner : Scanner Symbol Error Value} {input : List Symbol}
    (settles : Settles hungry scanner)
    (continues : scanner input = .error hungry →
      ∃ more value, scanner (input ++ more) = .ok (value, [])) :
    scanner input = .error hungry ↔
      ∃ more value, more ≠ [] ∧ scanner (input ++ more) = .ok (value, []) := by
  constructor
  · intro asks
    obtain ⟨more, value, complete⟩ := continues asks
    refine ⟨more, value, ?_, complete⟩
    rintro rfl
    rw [List.append_nil, asks] at complete
    cases complete
  · rintro ⟨more, value, some, complete⟩
    by_contra settled
    rw [settles input more settled] at complete
    rcases read : scanner input with error | ⟨read, rest⟩ <;> rw [read] at complete
    · cases complete
    · obtain ⟨-, empty⟩ := Prod.mk.inj (Except.ok.inj complete)
      exact some (List.append_eq_nil_iff.mp empty).2

theorem settles_give (value : Value) : Settles hungry (give value : Scanner Symbol Error Value) :=
  fun _ _ _ => rfl

theorem continues_give (value : Value) :
    Continues hungry (give value : Scanner Symbol Error Value) :=
  fun _ asks => nomatch asks

theorem settles_fail (error : Error) :
    Settles hungry (fun _ => .error error : Scanner Symbol Error Value) :=
  fun _ _ _ => rfl

theorem continues_fail {error : Error} (other : error ≠ hungry) :
    Continues hungry (fun _ => .error error : Scanner Symbol Error Value) :=
  fun _ asks => absurd (Except.error.inj asks) other

theorem settles_take (count : ℕ) :
    Settles hungry (take hungry count : Scanner Symbol Error (List Symbol)) := by
  intro input more settled
  unfold take at settled ⊢
  split at settled
  · next enough =>
    rw [if_pos enough, if_pos (by rw [List.length_append]; omega),
      List.take_append_of_le_length enough, List.drop_append_of_le_length enough]
    rfl
  · exact absurd rfl settled

theorem continues_take [Inhabited Symbol] (count : ℕ) :
    Continues hungry (take hungry count : Scanner Symbol Error (List Symbol)) := by
  intro input asks
  unfold take at asks
  split at asks
  · cases asks
  · have filled : (input ++ List.replicate (count - input.length) default).length = count := by
      rw [List.length_append, List.length_replicate]
      omega
    refine ⟨List.replicate (count - input.length) default,
      (input ++ List.replicate (count - input.length) default).take count, ?_⟩
    rw [take, if_pos (Nat.le_of_eq filled.symm),
      List.drop_of_length_le (Nat.le_of_eq filled)]

theorem settles_andThen {first : Scanner Symbol Error Value}
    {next : Value → Scanner Symbol Error Next} (settlesFirst : Settles hungry first)
    (settlesNext : ∀ value, Settles hungry (next value)) : Settles hungry (andThen first next) := by
  intro input more settled
  unfold andThen at settled ⊢
  rcases read : first input with error | ⟨value, rest⟩
  · rw [read] at settled
    have other : first input ≠ .error hungry := fun asks => settled (read.symm.trans asks ▸ rfl)
    rw [settlesFirst input more other, read]
    rfl
  · rw [read] at settled
    have other : first input ≠ .error hungry := fun asks => nomatch read.symm.trans asks
    rw [settlesFirst input more other, read]
    exact settlesNext value rest more settled

theorem continues_andThen {first : Scanner Symbol Error Value}
    {next : Value → Scanner Symbol Error Next} (settlesFirst : Settles hungry first)
    (continuesFirst : Continues hungry first)
    (continuesNext : ∀ value, Continues hungry (next value))
    (completes : ∀ value, ∃ more result, next value more = .ok (result, [])) :
    Continues hungry (andThen first next) := by
  intro input asks
  unfold andThen at asks ⊢
  rcases read : first input with error | ⟨value, rest⟩
  · rw [read] at asks
    have same : error = hungry := Except.error.inj asks
    obtain ⟨more, value, complete⟩ := continuesFirst input (read.trans (congrArg _ same))
    obtain ⟨others, result, completed⟩ := completes value
    refine ⟨more ++ others, result, ?_⟩
    have other : first (input ++ more) ≠ .error hungry :=
      fun asks => nomatch complete.symm.trans asks
    rw [← List.append_assoc, settlesFirst _ others other, complete]
    exact completed
  · rw [read] at asks
    obtain ⟨more, result, completed⟩ := continuesNext value rest asks
    have other : first input ≠ .error hungry := fun asks => nomatch read.symm.trans asks
    refine ⟨more, result, ?_⟩
    rw [settlesFirst input more other, read]
    exact completed

end Scanner
