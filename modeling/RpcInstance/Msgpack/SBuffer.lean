/-
This file models `msgpack::sbuffer`, the buffer that arguments are packed into.

The packer hands over its bytes in pieces of any lengths. A piece that does not fit
makes the buffer move to a block that is twice as large, doubled again until the
piece fits; the doubling is done in 64 bits and stops where it would wrap around.
The copy that follows does not look at the size of the block again, so it is the
arithmetic that keeps it inside.
-/

import RpcInstance.Library.GrowableBuffer
import RpcInstance.Msgpack.Adaptors

namespace RpcInstance.Msgpack

open Code

/-! ### The buffer -/

/-- An `sbuffer`. A block is at most as large as a `size_t` can say. -/
structure SBuffer where
  data : GrowableBuffer UInt8
  bounded : data.capacity < 2 ^ 64

namespace SBuffer

/-- `m_size`. -/
def size (buffer : SBuffer) : UInt64 :=
  UInt64.ofNat buffer.data.size

/-- `m_alloc`. -/
def alloc (buffer : SBuffer) : UInt64 :=
  UInt64.ofNat buffer.data.capacity

/-- `MSGPACK_SBUFFER_INIT_SIZE`. -/
def initSize : UInt64 := 8192

/-- The constructor. What fresh memory holds is up to `fresh`, and whether there is memory for a
block of some size is up to `allows`. The blocks of a buffer get larger and larger, so this decides
about each request of its own. -/
def new (allows : UInt64 → Bool) (fresh : ℕ → UInt8) (initsz : UInt64) : Except Thrown SBuffer :=
  if initsz = 0 ∨ allows initsz then
    .ok {
      data := .empty initsz.toNat fresh
      bounded := (GrowableBuffer.capacity_empty _ fresh).trans_lt initsz.toNat_lt }
  else .error badAlloc

/-- The loop of `expand_buffer`. -/
def grow (target nsize : UInt64) : UInt64 :=
  if nsize < target then
    let tmpNsize := nsize * 2
    if tmpNsize ≤ nsize then target else grow target tmpNsize
  else nsize
termination_by 2 ^ 64 - nsize.toNat
decreasing_by
  have larger : nsize.toNat < (nsize * 2).toNat :=
    UInt64.lt_iff_toNat_lt.mp (UInt64.not_le.mp ‹_›)
  have bound := (nsize * 2).toNat_lt
  omega

/-- The size of the block that `expand_buffer` asks for. -/
def expandSize (buffer : SBuffer) (len : UInt64) : UInt64 :=
  grow (buffer.size + len) (if 0 < buffer.alloc then buffer.alloc * 2 else initSize)

/-- The copy that `write` ends in. -/
def store (size : ℕ) (block : List UInt8) (bounded : block.length < 2 ^ 64) (bytes : List UInt8) :
    Code SBuffer Unit :=
  if fits : size + bytes.length ≤ block.length then
    set (SBuffer.mk (.stored block size bytes fits)
      ((GrowableBuffer.capacity_stored fits).trans_lt bounded))
  else throw (.undefined .bufferOverflow)

/-- `write`. -/
def write (allows : UInt64 → Bool) (fresh : ℕ → UInt8) (bytes : List UInt8) :
    Code SBuffer Unit := do
  let buffer ← get
  let len := UInt64.ofNat bytes.length
  if buffer.alloc - buffer.size < len then
    let nsize := buffer.expandSize len
    if allows nsize then
      store buffer.data.size (GrowableBuffer.moved buffer.data.block nsize.toNat fresh)
        ((GrowableBuffer.length_moved _ _ fresh).trans_lt nsize.toNat_lt) bytes
    else throw (.thrown badAlloc)
  else store buffer.data.size buffer.data.block buffer.bounded bytes

/-- The packer writes its pieces one after another. -/
def writeAll (allows : UInt64 → Bool) (fresh : ℕ → UInt8) : List (List UInt8) → Code SBuffer Unit
  | [] => return ()
  | bytes :: pieces => do
    write allows fresh bytes
    writeAll allows fresh pieces

/-! ### Growing -/

/-- The new block is large enough, whatever the arithmetic does. -/
theorem le_grow (target nsize : UInt64) : target ≤ grow target nsize := by
  fun_induction grow with
  | case1 => exact UInt64.le_refl _
  | case2 nsize less tmpNsize larger inductionHypothesis => exact inductionHypothesis
  | case3 nsize enough => exact UInt64.not_lt.mp enough

/-- It is at most twice as large as it has to be, unless it was so from the start. -/
theorem grow_le (target nsize : UInt64) :
    (grow target nsize).toNat ≤ max nsize.toNat (2 * target.toNat) := by
  fun_induction grow with
  | case1 => omega
  | case2 nsize less tmpNsize larger inductionHypothesis =>
    have below := UInt64.lt_iff_toNat_lt.mp less
    have doubled : tmpNsize.toNat ≤ 2 * nsize.toNat := by
      show (nsize * 2).toNat ≤ _
      rw [UInt64.toNat_mul]
      exact (Nat.mod_le _ _).trans_eq (Nat.mul_comm _ _)
    omega
  | case3 nsize enough => exact le_max_left _ _

/-! ### Writing -/

variable {allows : UInt64 → Bool} {fresh : ℕ → UInt8}

theorem new_of_refused {initsz : UInt64} (some : initsz ≠ 0) (refused : allows initsz = false) :
    new allows fresh initsz = .error badAlloc := by
  have neither : ¬ (initsz = 0 ∨ allows initsz = true) := by
    rw [refused]
    exact not_or_intro some Bool.false_ne_true
  exact if_neg neither

/-- A block that can be had is handed out empty. -/
theorem new_of_allowed {initsz : UInt64} (allowed : allows initsz = true) :
    ∃ buffer, new allows fresh initsz = .ok buffer ∧ buffer.data.contents = [] ∧
      buffer.data.size = 0 ∧ buffer.data.capacity = initsz.toNat :=
  ⟨_, if_pos (Or.inr allowed), GrowableBuffer.contents_empty _ fresh, rfl,
    GrowableBuffer.capacity_empty _ fresh⟩

theorem toNat_size (buffer : SBuffer) : buffer.size.toNat = buffer.data.size :=
  UInt64.toNat_ofNat_of_lt' (buffer.data.inside.trans_lt buffer.bounded)

theorem toNat_alloc (buffer : SBuffer) : buffer.alloc.toNat = buffer.data.capacity :=
  UInt64.toNat_ofNat_of_lt' buffer.bounded

/-- The room that is left, computed without wrapping around. -/
theorem alloc_sub_size (buffer : SBuffer) :
    (buffer.alloc - buffer.size).toNat = buffer.data.capacity - buffer.data.size := by
  have inside : buffer.size ≤ buffer.alloc := by
    rw [UInt64.le_iff_toNat_le, toNat_size, toNat_alloc]
    exact buffer.data.inside
  rw [UInt64.toNat_sub_of_le _ _ inside, toNat_alloc, toNat_size]

/-- The block that is asked for has room for the new bytes, and is not much larger. -/
theorem expandSize_bounds {buffer : SBuffer} {len : UInt64}
    (total : buffer.data.size + len.toNat < 2 ^ 64)
    (short : buffer.data.capacity < buffer.data.size + len.toNat) :
    buffer.data.size + len.toNat ≤ (buffer.expandSize len).toNat ∧
      (buffer.expandSize len).toNat ≤ max 8192 (2 * (buffer.data.size + len.toNat)) := by
  have target : (buffer.size + len).toNat = buffer.data.size + len.toNat := by
    rw [UInt64.toNat_add, toNat_size, Nat.mod_eq_of_lt total]
  have enough := UInt64.le_iff_toNat_le.mp (le_grow (buffer.size + len)
    (if 0 < buffer.alloc then buffer.alloc * 2 else initSize))
  have bound := grow_le (buffer.size + len)
    (if 0 < buffer.alloc then buffer.alloc * 2 else initSize)
  rw [target] at enough bound
  refine ⟨enough, bound.trans ?_⟩
  have doubled : (buffer.alloc * 2).toNat ≤ 2 * buffer.data.capacity := by
    rw [UInt64.toNat_mul, toNat_alloc]
    exact (Nat.mod_le _ _).trans_eq (Nat.mul_comm _ _)
  split
  · omega
  · show max 8192 _ ≤ _
    exact le_rfl

/-- A copy into a block with room for it. -/
theorem exec_store {size : ℕ} {block bytes : List UInt8} {bounded : block.length < 2 ^ 64}
    (fits : size + bytes.length ≤ block.length) (buffer : SBuffer) :
    ∃ after, exec (store size block bounded bytes) buffer = (.ok (), after) ∧
      after.data.contents = block.take size ++ bytes ∧ after.data.capacity = block.length := by
  refine ⟨⟨.stored block size bytes fits, (GrowableBuffer.capacity_stored fits).trans_lt bounded⟩,
    ?_, GrowableBuffer.contents_stored fits, GrowableBuffer.capacity_stored fits⟩
  rw [store, dif_pos fits]
  rfl

theorem exec_write (allows : UInt64 → Bool) (fresh : ℕ → UInt8) (bytes : List UInt8)
    (buffer : SBuffer) :
    exec (write allows fresh bytes) buffer =
      if buffer.alloc - buffer.size < UInt64.ofNat bytes.length then
        if allows (buffer.expandSize (UInt64.ofNat bytes.length)) then
          exec (store buffer.data.size (GrowableBuffer.moved buffer.data.block
            (buffer.expandSize (UInt64.ofNat bytes.length)).toNat fresh)
            ((GrowableBuffer.length_moved _ _ fresh).trans_lt (UInt64.toNat_lt _)) bytes) buffer
        else (.error (.thrown badAlloc), buffer)
      else exec (store buffer.data.size buffer.data.block buffer.bounded bytes) buffer := by
  rw [write, exec_bind]
  show exec (if _ then if _ then _ else _ else _) buffer = _
  split <;> [split; skip] <;> rfl

/-- Some bytes for which the block has no room, and for which no other block can be had. -/
structure Starved (allows : UInt64 → Bool) (buffer : SBuffer) (bytes : List UInt8) : Prop where
  full : buffer.data.capacity < buffer.data.size + bytes.length
  refused : allows (buffer.expandSize (UInt64.ofNat bytes.length)) = false

/-- A buffer whose block is still there, or was moved to a block that could be had and is not much
larger than it has to be. -/
structure Grown (allows : UInt64 → Bool) (before after : SBuffer) : Prop where
  larger : before.data.capacity ≤ after.data.capacity
  bound : after.data.capacity ≤ max before.data.capacity (max 8192 (2 * after.data.size))
  granted : allows before.alloc = true → allows after.alloc = true

theorem Grown.refl (buffer : SBuffer) : Grown allows buffer buffer where
  larger := le_rfl
  bound := le_max_left _ _
  granted := id

theorem Grown.trans {before middle after : SBuffer} (first : Grown allows before middle)
    (second : Grown allows middle after) (more : middle.data.size ≤ after.data.size) :
    Grown allows before after where
  larger := first.larger.trans second.larger
  bound := by
    have := first.bound
    have := second.bound
    omega
  granted known := second.granted (first.granted known)

/-- A write appends its bytes, or memory runs out and nothing changes. As long as there are fewer
bytes than a `size_t` can say, no copy goes past the end of its block. -/
theorem write_spec {bytes : List UInt8} {buffer : SBuffer}
    (total : buffer.data.size + bytes.length < 2 ^ 64) :
    (∃ after, exec (write allows fresh bytes) buffer = (.ok (), after) ∧
      after.data.contents = buffer.data.contents ++ bytes ∧ Grown allows buffer after) ∨
    (exec (write allows fresh bytes) buffer = (.error (.thrown badAlloc), buffer) ∧
      Starved allows buffer bytes) := by
  have len : (UInt64.ofNat bytes.length).toNat = bytes.length :=
    UInt64.toNat_ofNat_of_lt' (show bytes.length < 2 ^ 64 by omega)
  have short_iff : buffer.alloc - buffer.size < UInt64.ofNat bytes.length ↔
      buffer.data.capacity - buffer.data.size < bytes.length := by
    rw [UInt64.lt_iff_toNat_lt, alloc_sub_size, len]
  have inside : buffer.data.size ≤ buffer.data.capacity := buffer.data.inside
  rw [exec_write]
  split
  · next short =>
    rw [short_iff] at short
    obtain ⟨enough, bound⟩ := @expandSize_bounds buffer (UInt64.ofNat bytes.length)
      (by rwa [len]) (by rw [len]; omega)
    rw [len] at enough bound
    split
    · next allowed =>
      have length : (GrowableBuffer.moved buffer.data.block
          (buffer.expandSize (UInt64.ofNat bytes.length)).toNat fresh).length = _ :=
        GrowableBuffer.length_moved _ _ fresh
      obtain ⟨after, wrote, contents, capacity⟩ := @exec_store buffer.data.size _ bytes
        (length.trans_lt (UInt64.toNat_lt _)) (enough.trans_eq length.symm) buffer
      rw [length] at capacity
      rw [GrowableBuffer.take_moved fresh buffer.data.inside (by omega)] at contents
      change after.data.contents = buffer.data.contents ++ bytes at contents
      have size : after.data.size = buffer.data.size + bytes.length := by
        rw [← after.data.length_contents, contents, List.length_append,
          buffer.data.length_contents]
      refine Or.inl ⟨after, wrote, contents, ?_, ?_, fun _ => ?_⟩
      · omega
      · rw [capacity, size]
        exact bound.trans (le_max_right _ _)
      · rwa [alloc, capacity, UInt64.ofNat_toNat]
    · next refused => exact Or.inr ⟨rfl, by omega, Bool.eq_false_iff.mpr refused⟩
  · next room =>
    rw [short_iff] at room
    have fits : buffer.data.size + bytes.length ≤ buffer.data.capacity := by omega
    obtain ⟨after, wrote, contents, capacity⟩ := @exec_store buffer.data.size buffer.data.block
      bytes buffer.bounded fits buffer
    have kept : after.data.capacity = buffer.data.capacity := capacity
    refine Or.inl ⟨after, wrote, contents, kept.ge, kept.trans_le (le_max_left _ _), ?_⟩
    rw [alloc, alloc, kept]
    exact id

/-- The step of a run of writes: the buffer holds the pieces that were written, and where the run
stops it has neither room nor memory for the next one. -/
theorem exec_writeAll {pieces : List (List UInt8)} {buffer : SBuffer}
    (total : buffer.data.size + pieces.flatten.length < 2 ^ 64) :
    ∃ after settled written left, pieces = written ++ left ∧
      exec (writeAll allows fresh pieces) buffer = (settled, after) ∧
      after.data.contents = buffer.data.contents ++ written.flatten ∧
      Grown allows buffer after ∧
      (settled = .ok () ∧ left = [] ∨
        settled = .error (.thrown badAlloc) ∧
          ∃ bytes rest, left = bytes :: rest ∧ Starved allows after bytes) := by
  induction pieces generalizing buffer with
  | nil =>
    refine ⟨buffer, .ok (), [], [], rfl, rfl, ?_, .refl buffer, Or.inl ⟨rfl, rfl⟩⟩
    exact (List.append_nil _).symm
  | cons bytes pieces inductionHypothesis =>
    rw [List.flatten_cons, List.length_append] at total
    rw [writeAll, exec_bind]
    obtain ⟨middle, wrote, contents, grown⟩ | ⟨refused, starved⟩ :=
      @write_spec allows fresh bytes buffer (by omega)
    · have size : middle.data.size = buffer.data.size + bytes.length := by
        rw [← middle.data.length_contents, contents, List.length_append,
          buffer.data.length_contents]
      obtain ⟨after, settled, written, left, rfl, ran, contents', grown', ends⟩ :=
        @inductionHypothesis middle (by omega)
      rw [wrote]
      refine ⟨after, settled, bytes :: written, left, rfl, ran, ?_, ?_, ends⟩
      · rw [contents', contents, List.flatten_cons, List.append_assoc]
      · refine grown.trans grown' ?_
        rw [← after.data.length_contents, contents', List.length_append,
          middle.data.length_contents]
        exact Nat.le_add_right _ _
    · rw [refused]
      exact ⟨buffer, _, [], bytes :: pieces, rfl, rfl, (List.append_nil _).symm, .refl buffer,
        Or.inr ⟨rfl, bytes, pieces, rfl, starved⟩⟩

end SBuffer

/-! ### Packing into a buffer -/

/-- `msgpack_codec::init_size`. -/
def initSize : UInt64 := 2 * 1024

/-- What `pack_args` does to memory: it makes a buffer and writes the pieces to it. There is no
buffer where its first block cannot be had. -/
def packBuffer (allows : UInt64 → Bool) (fresh : ℕ → UInt8) (pieces : List (List UInt8)) :
    Except Failure Unit × Option SBuffer :=
  match SBuffer.new allows fresh initSize with
  | .error thrown => (.error (.thrown thrown), none)
  | .ok buffer =>
    let (settled, after) := exec (SBuffer.writeAll allows fresh pieces) buffer
    (settled, some after)

/-- However the packer cuts the bytes of some arguments into pieces, and whichever requests for
memory succeed: no copy leaves its block, and either the buffer ends up with these bytes, or memory
runs out. It does so before there is a buffer, or at a piece that the block has no room for, and
then the buffer holds the pieces before that one. The block is one that could be had, of at least
2048 bytes, and at most 8192 bytes or twice what it holds. -/
theorem pack_args_buffer (args : List Packed) (pieces : List (List UInt8))
    (packed : packArgs args = .ok pieces.flatten) (small : pieces.flatten.length < 2 ^ 64)
    (allows : UInt64 → Bool) (fresh : ℕ → UInt8) :
    (allows initSize = false ∧
      packBuffer allows fresh pieces = (.error (.thrown badAlloc), none)) ∨
    ∃ after settled written left, pieces = written ++ left ∧
      packBuffer allows fresh pieces = (settled, some after) ∧
      after.data.contents = written.flatten ∧ after.size.toNat = written.flatten.length ∧
      initSize.toNat ≤ after.alloc.toNat ∧
      after.alloc.toNat ≤ max 8192 (2 * after.size.toNat) ∧ allows after.alloc = true ∧
      (settled = .ok () ∧ packArgs args = .ok after.data.contents ∨
        settled = .error (.thrown badAlloc) ∧
          ∃ bytes rest, left = bytes :: rest ∧ after.Starved allows bytes) := by
  rcases allowed : allows initSize with _ | _
  · refine Or.inl ⟨rfl, ?_⟩
    rw [packBuffer, SBuffer.new_of_refused (by decide) allowed]
  · obtain ⟨buffer, made, nothing, empty, capacity⟩ :=
      @SBuffer.new_of_allowed allows fresh initSize allowed
    obtain ⟨after, settled, written, left, rfl, ran, contents, grown, ends⟩ :=
      @SBuffer.exec_writeAll allows fresh pieces buffer
        (by rwa [empty, Nat.zero_add])
    obtain ⟨larger, bound, granted⟩ := grown
    rw [nothing, List.nil_append] at contents
    rw [capacity] at larger bound
    refine Or.inr ⟨after, settled, written, left, rfl, ?_, contents, ?_, ?_, ?_, ?_, ?_⟩
    · rw [packBuffer, made]
      dsimp only
      rw [ran]
    · rw [after.toNat_size, ← contents, after.data.length_contents]
    · rwa [after.toNat_alloc]
    · rw [after.toNat_alloc, after.toNat_size]
      refine bound.trans (max_le ?_ le_rfl)
      exact (show 2048 ≤ 8192 by decide).trans (le_max_left _ _)
    · refine granted ?_
      rw [SBuffer.alloc, capacity, UInt64.ofNat_toNat]
      exact allowed
    · refine ends.imp_left fun ⟨returned, complete⟩ => ⟨returned, ?_⟩
      rw [complete, List.append_nil] at packed
      rw [contents, packed]

/-- A string of 2048 characters, behind the header of the arguments and its own. -/
def longString : List (List UInt8) :=
  [[0x91], [0xda, 0x08, 0x00], List.replicate 2048 0x61]

theorem longString_packed :
    packArgs [packString (List.replicate 2048 0x61)] = .ok longString.flatten := by
  have length : (List.replicate 2048 (0x61 : UInt8)).length = 2048 := List.length_replicate
  rw [packString_eq (by omega) (by omega), packArgs_one, length, List.append_nil, longString,
    List.flatten_cons, List.flatten_cons, List.flatten_cons, List.flatten_nil, List.append_nil]
  rfl

theorem longString_length : longString.flatten.length = 2052 := by
  rw [longString, List.flatten_cons, List.flatten_cons, List.flatten_cons, List.flatten_nil,
    List.append_nil, List.length_append, List.length_append, List.length_replicate]
  rfl

/-- Where every block can be had, the string is packed. Where only the first one can be had, both
headers are written, and memory runs out at the characters. -/
theorem pack_args_buffer_string :
    (∃ after, packBuffer (fun _ => true) (fun _ => 0) longString = (.ok (), some after) ∧
      after.data.contents = longString.flatten) ∧
    ∃ after, packBuffer (fun size => size ≤ initSize) (fun _ => 0) longString =
        (.error (.thrown badAlloc), some after) ∧
      after.data.contents = [0x91, 0xda, 0x08, 0x00] := by
  have small : longString.flatten.length < 2 ^ 64 := longString_length.trans_lt (by decide)
  constructor
  · obtain ⟨refused, -⟩ | ⟨after, settled, written, left, -, ran, -, -, -, -, -, ends⟩ :=
      pack_args_buffer _ longString longString_packed small (fun _ => true) fun _ => 0
    · cases refused
    · obtain ⟨rfl, packed⟩ | ⟨-, bytes, rest, -, starved⟩ := ends
      · exact ⟨after, ran, Except.ok.inj (packed.symm.trans longString_packed)⟩
      · cases starved.refused
  · obtain ⟨refused, -⟩ | ⟨after, settled, written, left, split, ran, contents, size, least, -,
        granted, ends⟩ :=
      pack_args_buffer _ longString longString_packed small (fun size => size ≤ initSize)
        fun _ => 0
    · exact absurd (UInt64.le_refl initSize) (of_decide_eq_false refused)
    · have most : after.alloc.toNat ≤ 2048 := UInt64.le_iff_toNat_le.mp (of_decide_eq_true granted)
      have inside : after.data.size ≤ after.data.capacity := after.data.inside
      change 2048 ≤ after.alloc.toNat at least
      rw [after.toNat_alloc] at least most
      rw [after.toNat_size] at size
      obtain ⟨-, packed⟩ | ⟨rfl, bytes, rest, rfl, starved⟩ := ends
      · -- all of it would take more than the first block
        rw [← contents, ← Except.ok.inj (longString_packed.symm.trans packed),
          longString_length] at size
        omega
      · have full := starved.full
        rw [longString] at split
        rcases written with _ | ⟨first, _ | ⟨second, _ | ⟨third, more⟩⟩⟩
        · obtain ⟨rfl, -⟩ := List.cons.inj split
          rw [size] at full
          exact absurd full (by simp; omega)
        · obtain ⟨rfl, later⟩ := List.cons.inj split
          obtain ⟨rfl, -⟩ := List.cons.inj later
          rw [size] at full
          exact absurd full (by simp; omega)
        · obtain ⟨rfl, later⟩ := List.cons.inj split
          obtain ⟨rfl, -⟩ := List.cons.inj later
          exact ⟨after, ran, contents⟩
        · have lengths := congrArg List.length split
          simp only [List.length_cons, List.length_append, List.length_nil] at lengths
          omega

end RpcInstance.Msgpack
