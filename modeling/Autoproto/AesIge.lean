import Autoproto.Kdf
import Mathlib.Logic.Equiv.Defs

namespace Autoproto

open List

/-!
# The mode IGE of AES

Blocks are encrypted in batches of 31 in the mode CBC, and decrypted one by one.  AES with a
key is any permutation of the blocks.  A read outside of the source of a call is a fault.
-/

abbrev AesBlock := Fin 16 → UInt8

abbrev AesMemory := Nat → UInt8

namespace AesBlock

instance : XorOp AesBlock := ⟨fun first second i => first i ^^^ second i⟩

def load (memory : AesMemory) (address : Nat) : AesBlock :=
  fun i => memory (address + i)

def store (address : Nat) (block : AesBlock) (memory : AesMemory) : AesMemory := fun other =>
  if inside : other - address < 16 ∧ address ≤ other then
    block ⟨other - address, inside.1⟩
  else
    memory other

def loadAll (memory : AesMemory) (address : Nat) : Nat → List AesBlock
  | 0 => []
  | count + 1 => load memory address :: loadAll memory (address + 16) count

def storeAll (address : Nat) : List AesBlock → AesMemory → AesMemory
  | [], memory => memory
  | block :: rest, memory => storeAll (address + 16) rest (store address block memory)

theorem xor_comm (first second : AesBlock) : first ^^^ second = second ^^^ first :=
  funext fun i => UInt8.xor_comm (first i) (second i)

theorem xor_xor_cancel_right (first second : AesBlock) : first ^^^ second ^^^ second = first := by
  funext i
  exact (UInt8.xor_assoc ..).trans (by rw [UInt8.xor_self, UInt8.xor_zero])

theorem xor_xor_cancel_middle (first second third : AesBlock) :
    first ^^^ second ^^^ (third ^^^ first) = second ^^^ third := by
  funext i
  change first i ^^^ second i ^^^ (third i ^^^ first i) = second i ^^^ third i
  rw [UInt8.xor_comm (first i), UInt8.xor_assoc, UInt8.xor_comm (third i),
    ← UInt8.xor_assoc (first i), UInt8.xor_self, UInt8.zero_xor]

variable {address other count more : Nat} {blocks later : List AesBlock} {memory : AesMemory}

theorem loadAll_add : loadAll memory address (count + more) =
    loadAll memory address count ++ loadAll memory (address + 16 * count) more := by
  induction count generalizing address with
  | zero => rw [Nat.zero_add]; rfl
  | succ count ih =>
    rw [Nat.add_right_comm, loadAll, ih, loadAll, cons_append]
    congr 3
    omega

theorem length_loadAll : (loadAll memory address count).length = count := by
  induction count generalizing address with
  | zero => rfl
  | succ count ih => rw [loadAll, length_cons, ih]

theorem loadAll_eq_iff {second : AesMemory} :
    loadAll memory address count = loadAll second address count ↔
      ∀ other, address ≤ other → other < address + 16 * count → memory other = second other := by
  induction count generalizing address with
  | zero => simp [loadAll]; omega
  | succ count ih =>
    rw [loadAll, loadAll, cons.injEq, ih]
    constructor
    · rintro ⟨sameFirst, sameRest⟩ other above below
      by_cases isFirst : other < address + 16
      · have same := congrFun sameFirst ⟨other - address, by omega⟩
        rwa [load, load, Nat.add_sub_of_le above] at same
      · exact sameRest other (by omega) (by omega)
    · intro same
      exact ⟨funext fun i => same _ (by omega) (by omega),
        fun other above below => same other (by omega) (by omega)⟩

theorem storeAll_append : storeAll address (blocks ++ later) memory =
    storeAll (address + 16 * blocks.length) later (storeAll address blocks memory) := by
  induction blocks generalizing address memory with
  | nil => rfl
  | cons block rest ih =>
    rw [cons_append, storeAll, ih, storeAll, length_cons]
    congr 1
    omega

/-- Nothing else is written. -/
theorem storeAll_of_outside (outside : other < address ∨ address + 16 * blocks.length ≤ other) :
    storeAll address blocks memory other = memory other := by
  induction blocks generalizing address memory with
  | nil => rfl
  | cons block rest ih =>
    rw [length_cons] at outside
    rw [storeAll, ih (by omega), store, dif_neg (by omega)]

theorem loadAll_storeAll_of_apart (apart : address + 16 * blocks.length ≤ other ∨
      other + 16 * count ≤ address) :
    loadAll (storeAll address blocks memory) other count = loadAll memory other count := by
  induction count generalizing other with
  | zero => rfl
  | succ count ih =>
    rw [loadAll, loadAll, ih (by omega)]
    congr 1
    funext i
    exact storeAll_of_outside (by omega)

theorem loadAll_storeAll :
    loadAll (storeAll address blocks memory) address blocks.length = blocks := by
  induction blocks generalizing address memory with
  | nil => rfl
  | cons block rest ih =>
    rw [length_cons, loadAll, storeAll, ih]
    congr 1
    funext i
    rw [load, storeAll_of_outside (by omega), store, dif_pos (by omega)]
    congr 1
    exact Fin.ext (Nat.add_sub_cancel_left ..)

end AesBlock

open AesBlock

/-- The two halves of an initialization vector. -/
structure AesIgeState where
  encryptedIv : AesBlock
  plaintextIv : AesBlock

structure AesSlice where
  ubegin : Nat
  size : Nat

namespace AesIgeState

/-- What is made of a block, and the state after it. -/
abbrev Step := AesIgeState → AesBlock → AesBlock × AesIgeState

/-- What is made of some blocks, and the state after them. -/
abbrev Turn := AesIgeState → List AesBlock → List AesBlock × AesIgeState

variable (aes : Equiv.Perm AesBlock)

/-- The function `Evp::encrypt` in the mode CBC. -/
def encryptCbc (iv : AesBlock) : List AesBlock → List AesBlock
  | [] => []
  | block :: rest => aes (block ^^^ iv) :: encryptCbc (aes (block ^^^ iv)) rest

/-- All blocks but the first, with the plaintext two before. -/
def dataXored (plaintextIv : AesBlock) : List AesBlock → List AesBlock
  | [] => []
  | first :: rest => first :: zipWith (· ^^^ ·) (plaintextIv :: first :: rest) rest

/-- One turn of the loop of `encrypt`. -/
def encryptBatch : Turn := fun state data =>
  let encrypted := encryptCbc aes state.encryptedIv (dataXored state.plaintextIv data)
  let written := zipWith (· ^^^ ·) encrypted (state.plaintextIv :: data)
  (written, ⟨written.getLastD state.encryptedIv, data.getLastD state.plaintextIv⟩)

def blockByBlock (step : Step) : Turn
  | state, [] => ([], state)
  | state, block :: rest =>
    let later := blockByBlock step (step state block).2 rest
    ((step state block).1 :: later.1, later.2)

/-- One turn of the loop of `decrypt`. -/
def decryptBlock : Step := fun state encrypted =>
  let plaintextIv := aes.symm (state.plaintextIv ^^^ encrypted) ^^^ state.encryptedIv
  (plaintextIv, ⟨encrypted, plaintextIv⟩)

/-- A block as IGE encrypts it: `c_i = E(p_i xor c_(i-1)) xor p_(i-1)`. -/
def igeBlock : Step := fun state block =>
  let encrypted := aes (block ^^^ state.encryptedIv) ^^^ state.plaintextIv
  (encrypted, ⟨encrypted, block⟩)

variable (most : Nat) (turn : Turn)

/-- The loop that `encrypt` and `decrypt` share, with at most this many blocks in each turn. -/
def blockLoop (source : AesSlice) (input output : Nat) (state : AesIgeState) (len : Nat)
    (memory : AesMemory) : Except Fault (AesIgeState × AesMemory) :=
  if 0 < min most len then
    let count := min most len
    if source.ubegin + source.size < input + 16 * count then
      .error .outOfBounds
    else
      let done := turn state (loadAll memory input count)
      blockLoop source (input + 16 * count) (output + 16 * count) done.2 (len - count)
        (storeAll output done.1 memory)
  else
    .ok (state, memory)
termination_by len

/-- The number of blocks comes from the size of the target. -/
def cross (source target : AesSlice) (state : AesIgeState) (memory : AesMemory) :
    Except Fault (AesIgeState × AesMemory) := do
  check (source.size % 16 = 0)
  check (source.size ≤ target.size)
  blockLoop most turn source source.ubegin target.ubegin state (target.size / 16) memory

def encrypt := cross 31 (encryptBatch aes)

def decrypt := cross 1 (blockByBlock (decryptBlock aes))

variable {aes most turn} {state : AesIgeState} {data : List AesBlock} {memory : AesMemory}

theorem zipWith_encryptCbc (encrypted earlier plaintext : AesBlock) :
    zipWith (· ^^^ ·) (encryptCbc aes (encrypted ^^^ earlier)
        (zipWith (· ^^^ ·) (earlier :: plaintext :: data) data)) (plaintext :: data) =
      (blockByBlock (igeBlock aes) ⟨encrypted, plaintext⟩ data).1 := by
  induction data generalizing encrypted earlier plaintext with
  | nil => rfl
  | cons block rest ih =>
    rw [zipWith_cons_cons, encryptCbc, zipWith_cons_cons, xor_xor_cancel_middle]
    refine congrArg (_ :: ·) (Eq.trans ?_ (ih _ plaintext block))
    rw [xor_xor_cancel_right]

theorem state_igeBlock : (blockByBlock (igeBlock aes) state data).2 =
    ⟨(blockByBlock (igeBlock aes) state data).1.getLastD state.encryptedIv,
      data.getLastD state.plaintextIv⟩ := by
  induction data generalizing state with
  | nil => rfl
  | cons block rest ih =>
    rw [blockByBlock, getLastD_cons, getLastD_cons]
    exact ih

theorem encryptBatch_eq : encryptBatch aes state data = blockByBlock (igeBlock aes) state data := by
  have written : (encryptBatch aes state data).1 = (blockByBlock (igeBlock aes) state data).1 := by
    cases data with
    | nil => rfl
    | cons block rest =>
      refine congrArg (_ :: ·) (Eq.trans ?_ (zipWith_encryptCbc _ state.plaintextIv block))
      rw [xor_xor_cancel_right]
  refine Prod.ext written ?_
  rw [state_igeBlock, ← written]
  rfl

variable {step : Step}

theorem length_blockByBlock : (blockByBlock step state data).1.length = data.length := by
  induction data generalizing state with
  | nil => rfl
  | cons block rest ih => exact congrArg (· + 1) ih

theorem blockByBlock_append (later : List AesBlock) : blockByBlock step state (data ++ later) =
    ((blockByBlock step state data).1 ++
        (blockByBlock step (blockByBlock step state data).2 later).1,
      (blockByBlock step (blockByBlock step state data).2 later).2) := by
  induction data generalizing state with
  | nil => rfl
  | cons block rest ih =>
    rw [cons_append, blockByBlock, ih]
    rfl

theorem blockByBlock_decryptBlock :
    blockByBlock (decryptBlock aes) state (blockByBlock (igeBlock aes) state data).1 =
      (data, (blockByBlock (igeBlock aes) state data).2) := by
  induction data generalizing state with
  | nil => rfl
  | cons block rest ih =>
    have restored : decryptBlock aes state (igeBlock aes state block).1 =
        (block, (igeBlock aes state block).2) := by
      rw [decryptBlock, igeBlock, xor_comm state.plaintextIv, xor_xor_cancel_right,
        Equiv.symm_apply_apply, xor_xor_cancel_right]
    rw [blockByBlock, blockByBlock, restored, ih]

theorem blockLoop_spec (turns : ∀ state data, turn state data = blockByBlock step state data)
    (positive : 0 < most) {source : AesSlice} {input output len : Nat}
    (inside : input + 16 * len ≤ source.ubegin + source.size) :
    ∃ data, data.length = len ∧ blockLoop most turn source input output state len memory =
        .ok ((blockByBlock step state data).2,
          storeAll output (blockByBlock step state data).1 memory) ∧
      (output ≤ input ∨ input + 16 * len ≤ output → data = loadAll memory input len) := by
  induction len using Nat.strongRecOn generalizing input output state memory with
  | ind len ih =>
    rw [blockLoop]
    by_cases more : 0 < min most len
    · rw [if_pos more]
      generalize isCount : min most len = count at more
      rw [if_neg (by omega), turns]
      obtain ⟨rest, isRest, returned, same⟩ := ih (len - count) (by omega)
        (by omega : input + 16 * count + 16 * (len - count) ≤ source.ubegin + source.size)
      refine ⟨loadAll memory input count ++ rest, ?_, ?_, ?_⟩
      · rw [length_append, length_loadAll, isRest]
        omega
      · rw [returned, blockByBlock_append, storeAll_append, length_blockByBlock, length_loadAll]
      · intro apart
        rw [same (by omega), loadAll_storeAll_of_apart, ← loadAll_add, Nat.add_sub_of_le (by omega)]
        rw [length_blockByBlock, length_loadAll]
        omega
    · rw [if_neg more]
      obtain rfl : len = 0 := by omega
      exact ⟨[], rfl, rfl, fun _ => rfl⟩

theorem blockLoop_outside (positive : 0 < most) {source : AesSlice} {input output len : Nat}
    (begins : input ≤ source.ubegin + source.size)
    (beyond : source.ubegin + source.size < input + 16 * len) :
    blockLoop most turn source input output state len memory = .error .outOfBounds := by
  induction len using Nat.strongRecOn generalizing input output state memory with
  | ind len ih =>
    rw [blockLoop, if_pos (by omega)]
    generalize isCount : min most len = count
    by_cases outside : source.ubegin + source.size < input + 16 * count
    · rw [if_pos outside]
    · rw [if_neg outside]
      exact ih (len - count) (by omega) (by omega) (by omega)

variable {source target : AesSlice}

/--
A call has processed the blocks of the source, unless it overwrote them, and
nothing else is written.
-/
def StaysInside (source target : AesSlice) (state : AesIgeState) (memory : AesMemory)
    (step : Step) (called : Except Fault (AesIgeState × AesMemory)) : Prop :=
  ∃ data after, called = .ok ((blockByBlock step state data).2, after) ∧
    data.length = source.size / 16 ∧
    (target.ubegin ≤ source.ubegin ∨ source.ubegin + source.size ≤ target.ubegin →
      data = loadAll memory source.ubegin (source.size / 16)) ∧
    loadAll after target.ubegin (source.size / 16) = (blockByBlock step state data).1 ∧
    ∀ address, address < target.ubegin ∨ target.ubegin + source.size ≤ address →
      after address = memory address

theorem cross_staysInside_iff
    (turns : ∀ state data, turn state data = blockByBlock step state data) (positive : 0 < most)
    (whole : source.size % 16 = 0) (fits : source.size ≤ target.size) :
    StaysInside source target state memory step (cross most turn source target state memory) ↔
      target.size < source.size + 16 := by
  rw [cross, check_eq_ok whole, ok_bind, check_eq_ok fits, ok_bind]
  constructor
  · rintro ⟨data, after, returned, -⟩
    by_contra larger
    rw [blockLoop_outside positive (Nat.le_add_right ..) (by omega)] at returned
    cases returned
  · intro tight
    have same : target.size / 16 = source.size / 16 := by omega
    obtain ⟨data, isLength, returned, isData⟩ := blockLoop_spec turns positive
      (by omega : source.ubegin + 16 * (source.size / 16) ≤ source.ubegin + source.size)
    rw [same]
    refine ⟨data, _, returned, isLength, fun apart => isData (by omega), ?_, ?_⟩
    · rw [← isLength, ← length_blockByBlock]
      exact loadAll_storeAll
    · intro address outside
      refine storeAll_of_outside ?_
      rw [length_blockByBlock, isLength]
      omega

/-- Both functions stay inside just if the target is less than a block larger than the source. -/
theorem stays_inside
    (aes : Equiv.Perm AesBlock)
    (whole : source.size % 16 = 0)
    (fits : source.size ≤ target.size)
    (state : AesIgeState)
    (memory : AesMemory) :
    (StaysInside source target state memory (igeBlock aes)
        (encrypt aes source target state memory) ↔ target.size < source.size + 16) ∧
      (StaysInside source target state memory (decryptBlock aes)
        (decrypt aes source target state memory) ↔ target.size < source.size + 16) :=
  ⟨cross_staysInside_iff (fun _ _ => encryptBatch_eq) (by decide) whole fits,
    cross_staysInside_iff (fun _ _ => rfl) (by decide) whole fits⟩

/-- A permutation of the blocks that is not the identity. -/
def reversal : Equiv.Perm AesBlock where
  toFun block i := block i.rev
  invFun block i := block i.rev
  left_inv block := funext fun i => congrArg block (Fin.rev_rev i)
  right_inv block := funext fun i => congrArg block (Fin.rev_rev i)

/-- A memory without equal blocks among the first sixteen. -/
def countingMemory : AesMemory := fun address => UInt8.ofNat (address + 1)

/-- The vector of the first two blocks. -/
def countingState : AesIgeState := ⟨load countingMemory 0, load countingMemory 16⟩

/-- Three blocks are processed with two bytes more in the target, but not with a block more. -/
theorem three_blocks_stay_inside :
    StaysInside ⟨0, 48⟩ ⟨100, 50⟩ countingState countingMemory (igeBlock reversal)
        (encrypt reversal ⟨0, 48⟩ ⟨100, 50⟩ countingState countingMemory) ∧
      StaysInside ⟨0, 48⟩ ⟨100, 50⟩ countingState countingMemory (decryptBlock reversal)
        (decrypt reversal ⟨0, 48⟩ ⟨100, 50⟩ countingState countingMemory) ∧
      ¬ StaysInside ⟨0, 48⟩ ⟨100, 64⟩ countingState countingMemory (decryptBlock reversal)
        (decrypt reversal ⟨0, 48⟩ ⟨100, 64⟩ countingState countingMemory) :=
  ⟨(stays_inside reversal rfl (by decide) _ _).1.mpr (by decide),
    (stays_inside reversal rfl (by decide) _ _).2.mpr (by decide),
    fun inside => absurd ((stays_inside reversal rfl (by decide) _ _).2.mp inside) (by decide)⟩

/-- With a target that is a block larger, a block behind the source is read. -/
theorem larger_target_read_outside :
    encrypt reversal ⟨0, 0⟩ ⟨0, 16⟩ countingState countingMemory = .error .outOfBounds := by
  rw [encrypt, cross, check_eq_ok (by decide), ok_bind, check_eq_ok (by decide), ok_bind]
  exact blockLoop_outside (by decide) (Nat.le_refl 0) (by decide)

end AesIgeState

structure AesCall where
  memory : AesMemory
  source : AesSlice
  target : AesSlice

namespace AesCall

variable (aes : Equiv.Perm AesBlock)

/-- Slices of one size, which are the same or do not overlap, or the target begins first. -/
def Proper (call : AesCall) : Prop :=
  call.source.size % 16 = 0 ∧ call.target.size = call.source.size ∧
    (call.target.ubegin ≤ call.source.ubegin ∨
      call.source.ubegin + call.source.size ≤ call.target.ubegin)

def blocks (slice : AesSlice) (memory : AesMemory) : List AesBlock :=
  loadAll memory slice.ubegin (slice.size / 16)

def input (call : AesCall) : List AesBlock :=
  blocks call.source call.memory

/-- Successive calls with one state, and what they write. -/
def performAll (perform : AesSlice → AesSlice → AesIgeState → AesMemory →
      Except Fault (AesIgeState × AesMemory)) (state : AesIgeState) :
    List AesCall → Except Fault (List AesBlock × AesIgeState)
  | [] => .ok ([], state)
  | call :: rest => do
    let called ← perform call.source call.target state call.memory
    let later ← performAll perform called.1 rest
    return (blocks call.target called.2 ++ later.1, later.2)

/-- One call with a new state, which leaves its vector. -/
def aesIgeEncrypt (iv : AesIgeState) (call : AesCall) :
    Except Fault (List AesBlock × AesIgeState) :=
  performAll (AesIgeState.encrypt aes) iv [call]

def aesIgeDecrypt (iv : AesIgeState) (call : AesCall) :
    Except Fault (List AesBlock × AesIgeState) :=
  performAll (AesIgeState.decrypt aes) iv [call]

open AesIgeState

variable {most : Nat} {turn : Turn} {step : Step} {calls : List AesCall}

theorem performAll_cross (state : AesIgeState)
    (turns : ∀ state data, turn state data = blockByBlock step state data)
    (positive : 0 < most) (proper : ∀ call ∈ calls, call.Proper) :
    performAll (cross most turn) state calls =
      .ok (blockByBlock step state (calls.flatMap input)) := by
  induction calls generalizing state with
  | nil => rfl
  | cons call rest ih =>
    obtain ⟨⟨whole, same, apart⟩, proper⟩ := forall_mem_cons.mp proper
    obtain ⟨data, after, returned, _, isData, written, _⟩ :=
      (cross_staysInside_iff turns positive whole (Nat.le_of_eq same.symm)).mpr (by omega)
    obtain rfl := isData apart
    rw [performAll, returned, ok_bind, ih _ proper, ok_bind, flatMap_cons,
      blockByBlock_append, blocks, same, written]
    rfl

variable {aes} {state : AesIgeState}

theorem performAll_encrypt (proper : ∀ call ∈ calls, call.Proper) :
    performAll (encrypt aes) state calls =
      .ok (blockByBlock (igeBlock aes) state (calls.flatMap input)) :=
  performAll_cross state (fun _ _ => encryptBatch_eq) (by decide) proper

theorem performAll_decrypt {data : List AesBlock} (proper : ∀ call ∈ calls, call.Proper)
    (encrypted : calls.flatMap input = (blockByBlock (igeBlock aes) state data).1) :
    performAll (decrypt aes) state calls =
      .ok (data, (blockByBlock (igeBlock aes) state data).2) := by
  rw [← blockByBlock_decryptBlock, ← encrypted]
  exact performAll_cross state (fun _ _ => rfl) (by decide) proper

/--
However data is split into calls, `encrypt` makes IGE of it, and `decrypt`
restores it from the first vector in any calls. The functions that make one call
are inverse to each other.
-/
theorem calls_are_ige
    (aes : Equiv.Perm AesBlock)
    (state : AesIgeState)
    (proper : ∀ call ∈ calls, call.Proper) :
    performAll (encrypt aes) state calls =
        .ok (blockByBlock (igeBlock aes) state (calls.flatMap input)) ∧
      (∀ back : List AesCall, (∀ call ∈ back, call.Proper) →
        back.flatMap input = (blockByBlock (igeBlock aes) state (calls.flatMap input)).1 →
        performAll (decrypt aes) state back = .ok (calls.flatMap input,
          (blockByBlock (igeBlock aes) state (calls.flatMap input)).2)) ∧
      ∀ call ∈ calls, ∃ written last, aesIgeEncrypt aes state call = .ok (written, last) ∧
        ∀ back : AesCall, back.Proper → back.input = written →
          aesIgeDecrypt aes state back = .ok (call.input, last) := by
  refine ⟨performAll_encrypt proper, fun back => performAll_decrypt, ?_⟩
  intro call isCall
  refine ⟨_, _, performAll_encrypt (forall_mem_singleton.mpr (proper call isCall)), ?_⟩
  intro back isProper written
  rw [flatMap_singleton] at written ⊢
  exact performAll_decrypt (forall_mem_singleton.mpr isProper)
    ((flatMap_singleton ..).trans written)

/-- Blocks of two batches, the last in another call. -/
def twoCalls : List AesCall :=
  [⟨countingMemory, ⟨0, 512⟩, ⟨0, 512⟩⟩, ⟨countingMemory, ⟨512, 16⟩, ⟨600, 16⟩⟩]

/-- The blocks of two calls are restored by one. -/
theorem two_calls_are_ige :
    ∃ encrypted last, performAll (encrypt reversal) countingState twoCalls = .ok (encrypted, last) ∧
      encrypted.length = 33 ∧
      performAll (decrypt reversal) countingState
          [⟨storeAll 0 encrypted countingMemory, ⟨0, 528⟩, ⟨0, 528⟩⟩] =
        .ok (twoCalls.flatMap input, last) := by
  have proper : ∀ call ∈ twoCalls, call.Proper := forall_mem_cons.mpr
    ⟨⟨rfl, rfl, Or.inl (Nat.le_refl 0)⟩, forall_mem_singleton.mpr ⟨rfl, rfl, Or.inr (by decide)⟩⟩
  obtain ⟨crossed, restored, _⟩ := calls_are_ige reversal countingState proper
  have total : (twoCalls.flatMap input).length = 33 := rfl
  generalize twoCalls.flatMap input = data at crossed restored total ⊢
  generalize isWritten : blockByBlock (igeBlock reversal) countingState data = written
    at crossed restored
  have count : written.1.length = 33 := by rw [← isWritten, length_blockByBlock, total]
  refine ⟨written.1, written.2, crossed, count, restored _ ?_ ?_⟩
  · exact forall_mem_singleton.mpr ⟨(by decide : 528 % 16 = 0), rfl, Or.inl (Nat.le_refl 0)⟩
  · rw [flatMap_singleton]
    change loadAll (storeAll 0 written.1 countingMemory) 0 (528 / 16) = _
    exact (congrArg _ count.symm).trans loadAll_storeAll

/-! ## Texts -/

/-- A text at the beginning of the memory. -/
def textMemory (text : Bytes) : AesMemory := fun address => text[address]?.getD 0

/-- The two halves of a vector. -/
def stateOf (iv : Bytes) : AesIgeState := ⟨load (textMemory iv) 0, load (textMemory iv) 16⟩

/-- The whole blocks of a text. -/
def textBlocks (text : Bytes) : List AesBlock := loadAll (textMemory text) 0 (text.length / 16)

/-- A call that replaces a text, and leaves it as it is if it aborts. -/
def callText (perform : AesIgeState → AesCall → Except Fault (List AesBlock × AesIgeState))
    (iv text : Bytes) : Bytes :=
  match perform (stateOf iv) ⟨textMemory text, ⟨0, text.length⟩, ⟨0, text.length⟩⟩ with
  | .ok (written, _) => (range text.length).map (storeAll 0 written (textMemory text))
  | .error _ => text

theorem length_callText
    (perform : AesIgeState → AesCall → Except Fault (List AesBlock × AesIgeState))
    (iv text : Bytes) : (callText perform iv text).length = text.length := by
  unfold callText
  split
  · rw [length_map, length_range]
  · rfl

theorem textBlocks_callText (turns : ∀ state data, turn state data = blockByBlock step state data)
    (positive : 0 < most) (iv : Bytes) {text : Bytes} (whole : 16 ∣ text.length) :
    textBlocks (callText (fun state call => performAll (cross most turn) state [call]) iv text) =
      (blockByBlock step (stateOf iv) (textBlocks text)).1 := by
  have count : (blockByBlock step (stateOf iv) (textBlocks text)).1.length = text.length / 16 :=
    length_blockByBlock.trans length_loadAll
  rw [textBlocks, length_callText, callText, performAll_cross _ turns positive
    (forall_mem_singleton.mpr ⟨Nat.mod_eq_zero_of_dvd whole, rfl, Or.inl (Nat.le_refl 0)⟩),
    ← count, flatMap_singleton]
  -- The text is what the blocks are stored as.
  refine (loadAll_eq_iff.mpr fun address _ below => ?_).trans
    (@loadAll_storeAll 0 _ (textMemory text))
  have inside : address < text.length := by omega
  simp [textMemory, inside]
  rfl

/-- AES-IGE as it is computed, for any permutation of blocks. -/
def withAes (aes : Bytes → Equiv.Perm AesBlock) (primitives : Mtproto.Primitives) :
    Mtproto.Primitives :=
  { primitives with
    igeEncrypt := fun key => callText (aesIgeEncrypt (aes key))
    igeDecrypt := fun key => callText (aesIgeDecrypt (aes key))
    length_igeEncrypt := fun _ => length_callText _
    length_igeDecrypt := fun _ => length_callText _ }

theorem inverts_withAes (aes : Bytes → Equiv.Perm AesBlock) (primitives : Mtproto.Primitives) :
    (withAes aes primitives).Inverts := by
  intro key iv text whole
  let encrypted := callText (aesIgeEncrypt (aes key)) iv text
  have sameLength : encrypted.length = text.length := length_callText ..
  have isEncrypted : textBlocks encrypted = _ :=
    textBlocks_callText (fun _ _ => encryptBatch_eq) (by decide) iv whole
  have isDecrypted : textBlocks (callText (aesIgeDecrypt (aes key)) iv encrypted) = _ :=
    textBlocks_callText (fun _ _ => rfl) (by decide) iv (sameLength ▸ whole)
  rw [isEncrypted, blockByBlock_decryptBlock, textBlocks, textBlocks, length_callText,
    sameLength] at isDecrypted
  change callText (aesIgeDecrypt (aes key)) iv encrypted = text
  refine ext_getElem ((length_callText ..).trans sameLength) fun i isIndex isOld => ?_
  have same := loadAll_eq_iff.mp isDecrypted i (Nat.zero_le i) (by omega)
  rwa [textMemory, textMemory, getElem?_eq_getElem isIndex, getElem?_eq_getElem isOld] at same

end AesCall

end Autoproto
