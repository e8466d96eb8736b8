import Mathlib.Data.List.GetD
import Mathlib.Data.List.Range
import Mathlib.Data.Vector.Basic
import Mathlib.Tactic.IntervalCases
import GridexEdge.Foundation.Sha256

/-!
The SHA-256 of the update client: a block that fills up over the calls, a block or two of
padding at the end, and the digest of a file read in pieces.
-/

namespace GridexEdge.RockPi

open Foundation

/-- The hash between calls, when at least one byte of the block is free. -/
structure Sha256 where
  state : Vector UInt32 8 := #v[0x6a09e667, 0xbb67ae85, 0x3c6ef372, 0xa54ff53a,
    0x510e527f, 0x9b05688c, 0x1f83d9ab, 0x5be0cd19]
  block : Vector UInt8 64 := Vector.replicate 64 0
  used : Nat := 0
  bitCount : UInt64 := 0
  inside : used < 64 := by decide

namespace Sha256

open Foundation.Sha256 (HashState wordsOfBytes bytesOfWord lengthBytes padding digestBlocks
  digestBlocks_append length_wordsOfBytes extendSchedule extendSchedule_succ length_extendSchedule
  messageSchedule roundConstants compress lowerSigma0 lowerSigma1)

def fresh : Sha256 := {}

def kRound : List UInt32 := [
  0x428a2f98, 0x71374491, 0xb5c0fbcf, 0xe9b5dba5,
  0x3956c25b, 0x59f111f1, 0x923f82a4, 0xab1c5ed5,
  0xd807aa98, 0x12835b01, 0x243185be, 0x550c7dc3,
  0x72be5d74, 0x80deb1fe, 0x9bdc06a7, 0xc19bf174,
  0xe49b69c1, 0xefbe4786, 0x0fc19dc6, 0x240ca1cc,
  0x2de92c6f, 0x4a7484aa, 0x5cb0a9dc, 0x76f988da,
  0x983e5152, 0xa831c66d, 0xb00327c8, 0xbf597fc7,
  0xc6e00bf3, 0xd5a79147, 0x06ca6351, 0x14292967,
  0x27b70a85, 0x2e1b2138, 0x4d2c6dfc, 0x53380d13,
  0x650a7354, 0x766a0abb, 0x81c2c92e, 0x92722c85,
  0xa2bfe8a1, 0xa81a664b, 0xc24b8b70, 0xc76c51a3,
  0xd192e819, 0xd6990624, 0xf40e3585, 0x106aa070,
  0x19a4c116, 0x1e376c08, 0x2748774c, 0x34b0bcb5,
  0x391c0cb3, 0x4ed8aa4a, 0x5b9cca4f, 0x682e6ff3,
  0x748f82ee, 0x78a5636f, 0x84c87814, 0x8cc70208,
  0x90befffa, 0xa4506ceb, 0xbef9a3f7, 0xc67178f2]

def rotateRight (value count : UInt32) : UInt32 := (value >>> count) ||| (value <<< (32 - count))

def loadWord (bytes : List UInt8) (index : Nat) : UInt32 :=
  ((bytes.getD (index * 4) 0).toUInt32 <<< 24) |||
    ((bytes.getD (index * 4 + 1) 0).toUInt32 <<< 16) |||
    ((bytes.getD (index * 4 + 2) 0).toUInt32 <<< 8) |||
    (bytes.getD (index * 4 + 3) 0).toUInt32

def expandWord (words : List UInt32) (index : Nat) : UInt32 :=
  let s0 := rotateRight (words.getD (index - 15) 0) 7 ^^^
    rotateRight (words.getD (index - 15) 0) 18 ^^^ (words.getD (index - 15) 0 >>> 3)
  let s1 := rotateRight (words.getD (index - 2) 0) 17 ^^^
    rotateRight (words.getD (index - 2) 0) 19 ^^^ (words.getD (index - 2) 0 >>> 10)
  words.getD (index - 16) 0 + s0 + words.getD (index - 7) 0 + s1

/-- The words of a block: the first sixteen loaded, the others from earlier ones. -/
def expandedWords (bytes : Vector UInt8 64) : List UInt32 :=
  (List.range' 16 48).foldl (fun words index => words ++ [expandWord words index])
    ((List.range 16).map (loadWord bytes.toList))

def round (words : List UInt32) (working : HashState) (index : Nat) : HashState :=
  let s1 := rotateRight working.e 6 ^^^ rotateRight working.e 11 ^^^ rotateRight working.e 25
  let choice := (working.e &&& working.f) ^^^ (~~~working.e &&& working.g)
  let temp1 := working.h + s1 + choice + kRound.getD index 0 + words.getD index 0
  let s0 := rotateRight working.a 2 ^^^ rotateRight working.a 13 ^^^ rotateRight working.a 22
  let majority :=
    (working.a &&& working.b) ^^^ (working.a &&& working.c) ^^^ (working.b &&& working.c)
  let temp2 := s0 + majority
  { h := working.g
    g := working.f
    f := working.e
    e := working.d + temp1
    d := working.c
    c := working.b
    b := working.a
    a := temp1 + temp2 }

/-- The working variables as a block starts. -/
def working (state : Vector UInt32 8) : HashState :=
  ⟨state[0], state[1], state[2], state[3], state[4], state[5], state[6], state[7]⟩

def transform (state : Vector UInt32 8) (bytes : Vector UInt8 64) : Vector UInt32 8 :=
  let last := (List.range 64).foldl (round (expandedWords bytes)) (working state)
  #v[state[0] + last.a, state[1] + last.b, state[2] + last.c, state[3] + last.d,
    state[4] + last.e, state[5] + last.f, state[6] + last.g, state[7] + last.h]

/-- Bytes written to a block one after the other. -/
def store (block : Vector UInt8 64) (offset : Nat) : List UInt8 → Vector UInt8 64
  | [] => block
  | byte :: rest => store (block.setIfInBounds offset byte) (offset + 1) rest

/-- What fits the block is copied to it, and a full block is hashed. -/
def update (hash : Sha256) (input : List UInt8) : Sha256 :=
  if input = [] then hash
  else
    let copySize := min (64 - hash.used) input.length
    let block := store hash.block hash.used (input.take copySize)
    let bitCount := hash.bitCount + UInt64.ofNat copySize * 8
    if full : hash.used + copySize = 64 then
      update { state := transform hash.state block, block, used := 0, bitCount }
        (input.drop copySize)
    else
      have inside : hash.used + copySize < 64 := by
        have := hash.inside
        omega
      update { hash with block, used := hash.used + copySize, bitCount, inside }
        (input.drop copySize)
termination_by input.length
decreasing_by
  all_goals
    rename_i pending
    have inside := hash.inside
    have positive := List.length_pos_iff.mpr pending
    rw [List.length_drop]
    omega

/-- The count of bits, its last byte first. -/
def storeLength (block : Vector UInt8 64) (bitCount : UInt64) : Vector UInt8 64 :=
  (List.range 8).foldl
    (fun block index =>
      block.setIfInBounds (63 - index) (bitCount >>> UInt64.ofNat (index * 8)).toUInt8)
    block

/-- The last block, from the bytes used of it on. -/
def finishBlock (state : Vector UInt32 8) (block : Vector UInt8 64) (used : Nat)
    (bitCount : UInt64) : Vector UInt32 8 :=
  transform state (storeLength (store block used (List.replicate (56 - used) 0)) bitCount)

/-- The length goes to a block of its own where the closing byte leaves it no room. -/
def finishState (hash : Sha256) : Vector UInt32 8 :=
  let block := store hash.block hash.used [0x80]
  let used := hash.used + 1
  if 56 < used then
    let block := store block used (List.replicate (64 - used) 0)
    finishBlock (transform hash.state block) block 0 hash.bitCount
  else finishBlock hash.state block used hash.bitCount

def finish (hash : Sha256) : List UInt8 :=
  hash.finishState.toList.flatMap fun word =>
    (List.range 4).map fun byte => (word >>> UInt32.ofNat ((3 - byte) * 8)).toUInt8

/-- A file is hashed by its reads of 8192 bytes, the last of which may be shorter. -/
def readAll (hash : Sha256) (contents : List UInt8) : Sha256 :=
  if contents = [] then hash
  else readAll (hash.update (contents.take 8192)) (contents.drop 8192)
termination_by contents.length
decreasing_by
  rename_i pending
  have positive := List.length_pos_iff.mpr pending
  rw [List.length_drop]
  omega

/-! ### One block -/

theorem loadWord_cons (first second third fourth : UInt8) (rest : List UInt8) (index : Nat) :
    loadWord (first :: second :: third :: fourth :: rest) (index + 1) = loadWord rest index := by
  rw [loadWord, Nat.succ_mul]
  rfl

theorem map_loadWord {bytes : List UInt8} {count : Nat} (whole : bytes.length = 4 * count) :
    (List.range count).map (loadWord bytes) = wordsOfBytes bytes := by
  induction count generalizing bytes with
  | zero =>
      rw [List.length_eq_zero_iff.mp whole]
      rfl
  | succ count inductionHypothesis =>
      match bytes, whole with
      | first :: second :: third :: fourth :: rest, whole =>
          have fewer : rest.length = 4 * count := by simpa [Nat.mul_succ] using whole
          have later : loadWord (first :: second :: third :: fourth :: rest) ∘ Nat.succ =
              loadWord rest := funext (loadWord_cons first second third fourth rest)
          rw [List.range_succ_eq_map, List.map_cons, List.map_map, later,
            inductionHypothesis fewer]
          rfl

theorem getD_reverse {words : List UInt32} {index : Nat} (inside : index < words.length) :
    words.reverse.getD (words.length - 1 - index) 0 = words.getD index 0 := by
  have mirrored : words.length - 1 - index < words.reverse.length := by
    rw [List.length_reverse]
    omega
  rw [List.getD_eq_getElem _ _ mirrored, List.getD_eq_getElem _ _ inside, List.getElem_reverse]
  congr 1
  omega

/-- The loop of the code reads the words that the standard names. -/
theorem expandWord_reverse {words : List UInt32} (long : 16 ≤ words.length) :
    words.reverse ++ [expandWord words.reverse words.length] =
      (extendSchedule 1 words).reverse := by
  have back : ∀ distance, 1 ≤ distance → distance ≤ 16 →
      words.reverse.getD (words.length - distance) 0 = words.getD (distance - 1) 0 := by
    intro distance positive near
    have mirrored := @getD_reverse words (distance - 1) (by omega)
    rwa [show words.length - 1 - (distance - 1) = words.length - distance by omega] at mirrored
  have sums : ∀ first second third fourth : UInt32,
      first + second + third + fourth = fourth + third + second + first := by
    intro first second third fourth
    ac_rfl
  have value : expandWord words.reverse words.length =
      lowerSigma1 (words.getD 1 0) + words.getD 6 0 +
        lowerSigma0 (words.getD 14 0) + words.getD 15 0 := by
    rw [expandWord, back 15 (by decide) (by decide), back 2 (by decide) (by decide),
      back 16 (by decide) (by decide), back 7 (by decide) (by decide)]
    exact sums _ _ _ _
  rw [value]
  exact List.reverse_cons.symm

theorem expandedWords_eq (bytes : Vector UInt8 64) :
    expandedWords bytes = messageSchedule (wordsOfBytes bytes.toList) := by
  have sixteen : bytes.toList.length = 4 * 16 := Vector.length_toList
  have loop : ∀ count : Nat, ∀ words : List UInt32, words.length = 16 →
      (List.range' 16 count).foldl (fun words index => words ++ [expandWord words index]) words =
        (extendSchedule count words.reverse).reverse := by
    intro count words loaded
    induction count with
    | zero => exact (List.reverse_reverse words).symm
    | succ count inductionHypothesis =>
        have length := length_extendSchedule count words.reverse
        rw [List.length_reverse, loaded] at length
        rw [List.range'_concat, List.foldl_append, inductionHypothesis, Nat.one_mul,
          List.foldl_cons, List.foldl_nil, ← length, expandWord_reverse (by omega),
          extendSchedule_succ count]
  have loaded := map_loadWord sixteen
  rw [expandedWords, loaded, loop 48 _ (length_wordsOfBytes sixteen)]
  rfl

theorem length_messageSchedule {words : List UInt32} (loaded : words.length = 16) :
    (messageSchedule words).length = 64 := by
  rw [messageSchedule, List.length_reverse, length_extendSchedule, List.length_reverse, loaded]

theorem zip_eq_map_range {first second : List UInt32} {count : Nat} (left : first.length = count)
    (right : second.length = count) :
    first.zip second =
      (List.range count).map fun index => (first.getD index 0, second.getD index 0) := by
  apply List.ext_getElem
  · simp [left, right]
  · intro index inside other
    rw [List.length_zip, left, right, Nat.min_self] at inside
    simp [left, right, inside]

/-- One block of the code is one block of the standard. -/
theorem working_transform (state : Vector UInt32 8) (bytes : Vector UInt8 64) :
    working (transform state bytes) =
      compress (working state) (wordsOfBytes bytes.toList) := by
  have loaded : (wordsOfBytes bytes.toList).length = 16 :=
    length_wordsOfBytes Vector.length_toList
  have rounds : (List.range 64).foldl (round (expandedWords bytes)) (working state) =
      (roundConstants.zip (messageSchedule (wordsOfBytes bytes.toList))).foldl
        (fun state constantAndWord => state.round constantAndWord.1 constantAndWord.2)
        (working state) := by
    rw [zip_eq_map_range rfl (length_messageSchedule loaded), List.foldl_map, expandedWords_eq]
    rfl
  rw [compress, ← rounds]
  rfl

theorem toList_eq_words (state : Vector UInt32 8) : state.toList = (working state).words := by
  apply List.ext_getElem
  · exact Vector.length_toList
  · intro index inside _
    rw [Vector.length_toList] at inside
    interval_cases index <;> rfl

/-! ### The block as it fills up -/

theorem toList_setIfInBounds {block : Vector UInt8 64} {offset : Nat} (inside : offset < 64)
    (byte : UInt8) :
    (block.setIfInBounds offset byte).toList =
      block.toList.take offset ++ byte :: block.toList.drop (offset + 1) := by
  rw [Vector.toList_setIfInBounds, List.set_eq_take_append_cons_drop, if_pos]
  rw [Vector.length_toList]
  exact inside

theorem toList_store {block : Vector UInt8 64} {offset : Nat} {bytes : List UInt8}
    (fits : offset + bytes.length ≤ 64) :
    (store block offset bytes).toList =
      block.toList.take offset ++ bytes ++ block.toList.drop (offset + bytes.length) := by
  induction bytes generalizing block offset with
  | nil => simp [store]
  | cons byte rest inductionHypothesis =>
      rw [List.length_cons] at fits
      have front : (block.toList.take offset).length = offset := by
        rw [List.length_take, Vector.length_toList]
        omega
      have taken : (block.toList.take offset ++ byte :: block.toList.drop (offset + 1)).take
          (offset + 1) = block.toList.take offset ++ [byte] := by
        rw [List.take_append, front, Nat.add_sub_cancel_left, List.take_of_length_le (by omega)]
        rfl
      have dropped : (block.toList.take offset ++ byte :: block.toList.drop (offset + 1)).drop
          (offset + 1 + rest.length) = block.toList.drop (offset + (rest.length + 1)) := by
        rw [List.drop_append, front, List.drop_of_length_le (by omega), List.nil_append,
          show offset + 1 + rest.length - offset = rest.length + 1 by omega, List.drop_succ_cons,
          List.drop_drop]
        congr 1
        omega
      rw [store, inductionHypothesis (by omega), toList_setIfInBounds (by omega), taken, dropped,
        List.append_assoc, List.append_assoc, List.append_assoc]
      rfl

theorem toList_storeLength (block : Vector UInt8 64) (bitCount : UInt64) :
    (storeLength block bitCount).toList =
      block.toList.take 56 ++
        [(bitCount >>> 56).toUInt8, (bitCount >>> 48).toUInt8, (bitCount >>> 40).toUInt8,
          (bitCount >>> 32).toUInt8, (bitCount >>> 24).toUInt8, (bitCount >>> 16).toUInt8,
          (bitCount >>> 8).toUInt8, bitCount.toUInt8] := by
  have loop : ∀ count, count ≤ 8 →
      ((List.range count).foldl
          (fun block index => block.setIfInBounds (63 - index)
            (bitCount >>> UInt64.ofNat (index * 8)).toUInt8) block).toList =
        block.toList.take (64 - count) ++
          ((List.range count).map fun index =>
            (bitCount >>> UInt64.ofNat (index * 8)).toUInt8).reverse := by
    intro count few
    induction count with
    | zero => simp
    | succ count inductionHypothesis =>
        have length : (block.toList.take (64 - count)).length = 64 - count := by
          rw [List.length_take, Vector.length_toList]
          omega
        rw [List.range_succ, List.foldl_append, List.foldl_cons, List.foldl_nil,
          toList_setIfInBounds (by omega), inductionHypothesis (by omega), List.map_append,
          List.reverse_append]
        congr 1
        · rw [List.take_append_of_le_length (by omega), List.take_take]
          congr 1
          omega
        · rw [List.drop_append_of_le_length (by omega), List.drop_of_length_le (by omega)]
          rfl
  have last := loop 8 (Nat.le_refl 8)
  have whole : bitCount >>> UInt64.ofNat (0 * 8) = bitCount := UInt64.shiftRight_zero
  rw [storeLength, last]
  simp only [List.range_succ, List.range_zero, List.map_append, List.map_cons, List.map_nil,
    List.reverse_append, List.nil_append, whole]
  rfl

/-- Bytes that leave room for the length become the last block. -/
theorem working_finishBlock {state : Vector UInt32 8} {block : Vector UInt8 64}
    {front start : List UInt8} (blocks : front.length % 64 = 0)
    (hashed : working state = digestBlocks front) (short : start.length ≤ 56)
    (kept : block.toList.take start.length = start) (length : Nat) :
    working (finishBlock state block start.length (UInt64.ofNat (length * 8))) =
      digestBlocks (front ++ (start ++ List.replicate (56 - start.length) 0 ++
        lengthBytes length)) := by
  have filled : (start ++ List.replicate (56 - start.length) (0 : UInt8)).length = 56 := by
    rw [List.length_append, List.length_replicate]
    omega
  have single : (start ++ List.replicate (56 - start.length) 0 ++ lengthBytes length).length =
      64 := by
    rw [List.length_append, filled]
    rfl
  have fits : start.length + (List.replicate (56 - start.length) (0 : UInt8)).length ≤ 64 := by
    rw [List.length_replicate]
    omega
  rw [digestBlocks_append blocks single, ← hashed, finishBlock, working_transform,
    toList_storeLength, toList_store fits, kept, List.take_left' filled]
  rfl

/-- Bytes that leave no room for it are closed with zeros first. -/
theorem working_closeBlock {state : Vector UInt32 8} {block : Vector UInt8 64}
    {front start : List UInt8} (blocks : front.length % 64 = 0)
    (hashed : working state = digestBlocks front) (inside : start.length ≤ 64)
    (kept : block.toList.take start.length = start) :
    working (transform state
      (store block start.length (List.replicate (64 - start.length) 0))) =
      digestBlocks (front ++ (start ++ List.replicate (64 - start.length) 0)) := by
  have fits : start.length + (List.replicate (64 - start.length) (0 : UInt8)).length = 64 := by
    rw [List.length_replicate]
    omega
  have single : (start ++ List.replicate (64 - start.length) (0 : UInt8)).length = 64 := by
    rw [List.length_append, fits]
  rw [digestBlocks_append blocks single, ← hashed, working_transform, toList_store fits.le, kept,
    fits, List.drop_of_length_le Vector.length_toList.le, List.append_nil]

theorem bytes_eq (word : UInt32) :
    ((List.range 4).map fun byte => (word >>> UInt32.ofNat ((3 - byte) * 8)).toUInt8) =
      bytesOfWord word := by
  have last : word >>> UInt32.ofNat ((3 - 3) * 8) = word := UInt32.shiftRight_zero
  simp only [List.range_succ, List.range_zero, List.map_append, List.map_cons, List.map_nil,
    List.nil_append, last]
  rfl

/-- Whole blocks of the message are in the state, and the rest of it is in the block. -/
structure Absorbed (hash : Sha256) (whole rest : List UInt8) : Prop where
  blocks : whole.length % 64 = 0
  state_eq : working hash.state = digestBlocks whole
  used_eq : hash.used = rest.length
  block_eq : hash.block.toList.take rest.length = rest
  bitCount_eq : hash.bitCount = UInt64.ofNat ((whole ++ rest).length * 8)

theorem absorbed_fresh : Absorbed fresh [] [] where
  blocks := rfl
  state_eq := rfl
  used_eq := rfl
  block_eq := rfl
  bitCount_eq := rfl

variable {hash : Sha256} {whole rest : List UInt8}

theorem bitCount_append (absorbed : Absorbed hash whole rest) {piece : List UInt8}
    {copySize : Nat} (copied : piece.length = copySize) :
    hash.bitCount + UInt64.ofNat copySize * 8 =
      UInt64.ofNat ((whole ++ (rest ++ piece)).length * 8) := by
  have eight : (8 : UInt64) = UInt64.ofNat 8 := rfl
  have total : (whole ++ rest ++ piece).length = (whole ++ rest).length + piece.length :=
    List.length_append
  rw [← copied, absorbed.bitCount_eq, eight, ← UInt64.ofNat_mul, ← UInt64.ofNat_add,
    ← Nat.add_mul, ← List.append_assoc, total]

namespace Absorbed

theorem stored (absorbed : Absorbed hash whole rest) {piece : List UInt8}
    (fits : rest.length + piece.length ≤ 64) :
    (store hash.block hash.used piece).toList.take (rest ++ piece).length = rest ++ piece := by
  rw [absorbed.used_eq, toList_store fits, absorbed.block_eq, List.take_left']
  rfl

/-- A piece that fills the block ends it. -/
theorem fill (absorbed : Absorbed hash whole rest) {piece : List UInt8} {copySize : Nat}
    (copied : piece.length = copySize) (full : hash.used + copySize = 64) :
    Absorbed
      { state := transform hash.state (store hash.block hash.used piece)
        block := store hash.block hash.used piece
        used := 0
        bitCount := hash.bitCount + UInt64.ofNat copySize * 8 }
      (whole ++ (rest ++ piece)) [] where
  blocks := by
    have blocks := absorbed.blocks
    have used := absorbed.used_eq
    rw [List.length_append, List.length_append]
    omega
  state_eq := by
    have used := absorbed.used_eq
    have single : (rest ++ piece).length = 64 := by
      rw [List.length_append]
      omega
    have block := @stored hash whole rest absorbed piece (by omega)
    rw [single, List.take_of_length_le Vector.length_toList.le] at block
    rw [working_transform, block, absorbed.state_eq,
      digestBlocks_append absorbed.blocks single]
  used_eq := rfl
  block_eq := rfl
  bitCount_eq := by
    rw [List.append_nil]
    exact bitCount_append absorbed copied

/-- A shorter piece waits in it. -/
theorem extend (absorbed : Absorbed hash whole rest) {piece : List UInt8} {copySize : Nat}
    (copied : piece.length = copySize) (inside : hash.used + copySize < 64) :
    Absorbed
      { hash with
        block := store hash.block hash.used piece
        used := hash.used + copySize
        bitCount := hash.bitCount + UInt64.ofNat copySize * 8
        inside }
      whole (rest ++ piece) where
  blocks := absorbed.blocks
  state_eq := absorbed.state_eq
  used_eq := by
    rw [List.length_append, copied]
    exact congrArg (· + copySize) absorbed.used_eq
  block_eq := by
    have used := absorbed.used_eq
    exact absorbed.stored (by omega)
  bitCount_eq := bitCount_append absorbed copied

/-- An update takes in all of its input, however the blocks fall. -/
theorem update {hash : Sha256} {whole rest : List UInt8} (absorbed : Absorbed hash whole rest)
    (input : List UInt8) :
    ∃ whole' rest', Absorbed (hash.update input) whole' rest' ∧
      whole' ++ rest' = whole ++ rest ++ input := by
  rw [Sha256.update]
  by_cases pending : input = []
  · rw [if_pos pending, pending, List.append_nil]
    exact ⟨whole, rest, absorbed, rfl⟩
  · have inside := hash.inside
    have positive := List.length_pos_iff.mpr pending
    have parts := List.take_append_drop (min (64 - hash.used) input.length) input
    have copied : (input.take (min (64 - hash.used) input.length)).length =
        min (64 - hash.used) input.length := by
      rw [List.length_take]
      omega
    rw [if_neg pending]
    dsimp only
    by_cases full : hash.used + min (64 - hash.used) input.length = 64
    · rw [dif_pos full]
      obtain ⟨whole', rest', later, all⟩ := (absorbed.fill copied full).update
        (input.drop (min (64 - hash.used) input.length))
      refine ⟨whole', rest', later, ?_⟩
      rw [all, List.append_nil, List.append_assoc, List.append_assoc, List.append_assoc, parts]
    · rw [dif_neg full]
      obtain ⟨whole', rest', later, all⟩ := (absorbed.extend copied (by omega)).update
        (input.drop (min (64 - hash.used) input.length))
      refine ⟨whole', rest', later, ?_⟩
      rw [all, List.append_assoc, List.append_assoc, List.append_assoc, parts]
termination_by input.length
decreasing_by
  all_goals
    rw [List.length_drop]
    omega

/-- The closing byte and the zeros after it complete one block, or two where the length
has no room left in the first. -/
theorem padded (absorbed : Absorbed hash whole rest) :
    working (finishState hash) =
      digestBlocks
        (whole ++ rest ++ padding (whole ++ rest).length) := by
  have inside := hash.inside
  have used := absorbed.used_eq
  have blocks := absorbed.blocks
  have residue : (whole ++ rest).length % 64 = rest.length := by
    rw [List.length_append]
    omega
  have size : hash.used + 1 = (rest ++ [0x80]).length := by
    rw [List.length_append, used]
    rfl
  have closed := @stored hash whole rest absorbed [0x80] (by simp; omega)
  rw [finishState, absorbed.bitCount_eq, padding, residue]
  dsimp only
  rw [size]
  by_cases roomless : 56 < (rest ++ [(0x80 : UInt8)]).length
  · have inner : (rest ++ [(0x80 : UInt8)]).length ≤ 64 := by omega
    have zeros : (119 - rest.length) % 64 = 64 - (rest ++ [(0x80 : UInt8)]).length + 56 := by
      rw [← size]
      omega
    have first : (rest ++ [0x80] ++
        List.replicate (64 - (rest ++ [(0x80 : UInt8)]).length) 0).length = 64 := by
      rw [List.length_append, List.length_replicate]
      omega
    have more : (whole ++ (rest ++ [0x80] ++
        List.replicate (64 - (rest ++ [(0x80 : UInt8)]).length) 0)).length % 64 = 0 := by
      rw [List.length_append, first]
      omega
    have hashed := working_closeBlock blocks absorbed.state_eq inner closed
    -- the length follows in a block that starts empty
    rw [if_pos roomless]
    refine (@working_finishBlock _ _ _ [] more hashed (by decide) rfl _).trans ?_
    rw [zeros, List.replicate_add]
    simp
  · have zeros : (119 - rest.length) % 64 = 56 - (rest ++ [(0x80 : UInt8)]).length := by
      rw [← size]
      omega
    rw [if_neg roomless, working_finishBlock blocks absorbed.state_eq (by omega) closed, zeros]
    simp

end Absorbed

theorem absorbed_updates {hash : Sha256} {whole rest : List UInt8}
    (absorbed : Absorbed hash whole rest) (pieces : List (List UInt8)) :
    ∃ whole' rest', Absorbed (pieces.foldl update hash) whole' rest' ∧
      whole' ++ rest' = whole ++ rest ++ pieces.flatten := by
  induction pieces generalizing hash whole rest with
  | nil => exact ⟨whole, rest, absorbed, (List.append_nil _).symm⟩
  | cons piece pieces inductionHypothesis =>
      obtain ⟨whole', rest', next, taken⟩ := absorbed.update piece
      obtain ⟨last, left, later, all⟩ := inductionHypothesis next
      refine ⟨last, left, later, ?_⟩
      rw [all, taken, List.flatten_cons, List.append_assoc _ piece]

theorem finish_updates (pieces : List (List UInt8)) :
    (pieces.foldl update fresh).finish = sha256 pieces.flatten := by
  obtain ⟨whole, rest, absorbed, all⟩ := absorbed_updates absorbed_fresh pieces
  rw [finish, toList_eq_words, absorbed.padded, all, sha256_eq]
  simp only [bytes_eq]
  rfl

/-- The reads of a file are pieces of it. -/
theorem readAll_eq_updates (hash : Sha256) (contents : List UInt8) :
    ∃ pieces : List (List UInt8), pieces.flatten = contents ∧
      hash.readAll contents = pieces.foldl update hash := by
  rw [readAll]
  by_cases pending : contents = []
  · rw [if_pos pending, pending]
    exact ⟨[], rfl, rfl⟩
  · have positive := List.length_pos_iff.mpr pending
    obtain ⟨pieces, all, read⟩ :=
      readAll_eq_updates (hash.update (contents.take 8192)) (contents.drop 8192)
    rw [if_neg pending, read]
    refine ⟨contents.take 8192 :: pieces, ?_, rfl⟩
    rw [List.flatten_cons, all, List.take_append_drop]
termination_by contents.length
decreasing_by
  rw [List.length_drop]
  omega

end Sha256

/-- Nothing comes of a file that cannot be opened or read to its end. -/
def hashFile (opened toEnd : Bool) (contents : List UInt8) : Option (List UInt8) :=
  if !opened then none
  else
    let hash := Sha256.fresh.readAll contents
    if !toEnd then none else some (hexDigest hash.finish)

def selfTest : Bool :=
  hexDigest (Sha256.fresh.update [0x61, 0x62, 0x63]).finish ==
    asciiBytes "ba7816bf8f01cfea414140de5dae2223b00361a396177a9cb410ff61f20015ad".toList

theorem hashFile_eq (opened toEnd : Bool) (contents : List UInt8) :
    hashFile opened toEnd contents =
      if opened && toEnd then some (hexDigest (sha256 contents)) else none := by
  obtain ⟨pieces, all, read⟩ := Sha256.readAll_eq_updates Sha256.fresh contents
  rw [hashFile, read]
  dsimp only
  rw [Sha256.finish_updates, all]
  cases opened <;> cases toEnd <;> rfl

theorem selfTest_passes : selfTest = true := by
  have digest : (Sha256.fresh.update [0x61, 0x62, 0x63]).finish = sha256 [0x61, 0x62, 0x63] :=
    Sha256.finish_updates [[0x61, 0x62, 0x63]]
  rw [selfTest, digest]
  decide +kernel

/-- The digest is the standard's, for every way to cut the message, and so is that of a file. -/
theorem otaHash_is_sha256 :
    (∀ pieces : List (List UInt8),
      (pieces.foldl Sha256.update Sha256.fresh).finish = sha256 pieces.flatten) ∧
      ∀ contents : List UInt8, hashFile true true contents = some (hexDigest (sha256 contents)) :=
  ⟨Sha256.finish_updates, fun contents => hashFile_eq true true contents⟩

end GridexEdge.RockPi
