import GridexEdge.Foundation.AsciiText

/-!
SHA-256 of a byte string as FIPS 180-4 defines it.
-/

namespace GridexEdge.Foundation.Sha256

def rotateRight (value count : UInt32) : UInt32 :=
  (value >>> count) ||| (value <<< (32 - count))

def choice (e f g : UInt32) : UInt32 := (e &&& f) ^^^ (~~~e &&& g)

def majority (a b c : UInt32) : UInt32 := (a &&& b) ^^^ (a &&& c) ^^^ (b &&& c)

def upperSigma0 (a : UInt32) : UInt32 :=
  rotateRight a 2 ^^^ rotateRight a 13 ^^^ rotateRight a 22

def upperSigma1 (e : UInt32) : UInt32 :=
  rotateRight e 6 ^^^ rotateRight e 11 ^^^ rotateRight e 25

def lowerSigma0 (word : UInt32) : UInt32 :=
  rotateRight word 7 ^^^ rotateRight word 18 ^^^ (word >>> 3)

def lowerSigma1 (word : UInt32) : UInt32 :=
  rotateRight word 17 ^^^ rotateRight word 19 ^^^ (word >>> 10)

def roundConstants : List UInt32 := [
  0x428a2f98, 0x71374491, 0xb5c0fbcf, 0xe9b5dba5, 0x3956c25b, 0x59f111f1, 0x923f82a4, 0xab1c5ed5,
  0xd807aa98, 0x12835b01, 0x243185be, 0x550c7dc3, 0x72be5d74, 0x80deb1fe, 0x9bdc06a7, 0xc19bf174,
  0xe49b69c1, 0xefbe4786, 0x0fc19dc6, 0x240ca1cc, 0x2de92c6f, 0x4a7484aa, 0x5cb0a9dc, 0x76f988da,
  0x983e5152, 0xa831c66d, 0xb00327c8, 0xbf597fc7, 0xc6e00bf3, 0xd5a79147, 0x06ca6351, 0x14292967,
  0x27b70a85, 0x2e1b2138, 0x4d2c6dfc, 0x53380d13, 0x650a7354, 0x766a0abb, 0x81c2c92e, 0x92722c85,
  0xa2bfe8a1, 0xa81a664b, 0xc24b8b70, 0xc76c51a3, 0xd192e819, 0xd6990624, 0xf40e3585, 0x106aa070,
  0x19a4c116, 0x1e376c08, 0x2748774c, 0x34b0bcb5, 0x391c0cb3, 0x4ed8aa4a, 0x5b9cca4f, 0x682e6ff3,
  0x748f82ee, 0x78a5636f, 0x84c87814, 0x8cc70208, 0x90befffa, 0xa4506ceb, 0xbef9a3f7, 0xc67178f2]

/-- The chaining value between blocks, and the working variables within one. -/
structure HashState where
  a : UInt32
  b : UInt32
  c : UInt32
  d : UInt32
  e : UInt32
  f : UInt32
  g : UInt32
  h : UInt32
  deriving DecidableEq

namespace HashState

def initial : HashState where
  a := 0x6a09e667
  b := 0xbb67ae85
  c := 0x3c6ef372
  d := 0xa54ff53a
  e := 0x510e527f
  f := 0x9b05688c
  g := 0x1f83d9ab
  h := 0x5be0cd19

def round (state : HashState) (constant word : UInt32) : HashState :=
  let first := state.h + upperSigma1 state.e + choice state.e state.f state.g + constant + word
  let second := upperSigma0 state.a + majority state.a state.b state.c
  { a := first + second
    b := state.a
    c := state.b
    d := state.c
    e := state.d + first
    f := state.e
    g := state.f
    h := state.g }

def add (state other : HashState) : HashState where
  a := state.a + other.a
  b := state.b + other.b
  c := state.c + other.c
  d := state.d + other.d
  e := state.e + other.e
  f := state.f + other.f
  g := state.g + other.g
  h := state.h + other.h

def words (state : HashState) : List UInt32 :=
  [state.a, state.b, state.c, state.d, state.e, state.f, state.g, state.h]

end HashState

/-- Further words of a message schedule, which is kept newest first. -/
def extendSchedule : Nat → List UInt32 → List UInt32
  | 0, schedule => schedule
  | count + 1, schedule =>
      extendSchedule count
        ((lowerSigma1 (schedule.getD 1 0) + schedule.getD 6 0 + lowerSigma0 (schedule.getD 14 0) +
          schedule.getD 15 0) :: schedule)

theorem length_extendSchedule (count : Nat) (schedule : List UInt32) :
    (extendSchedule count schedule).length = schedule.length + count := by
  induction count generalizing schedule with
  | zero => rfl
  | succ count inductionHypothesis =>
      rw [extendSchedule, inductionHypothesis, List.length_cons]
      omega

/-- The newest word comes from the schedule before it. -/
theorem extendSchedule_succ (count : Nat) (schedule : List UInt32) :
    extendSchedule (count + 1) schedule =
      extendSchedule 1 (extendSchedule count schedule) := by
  induction count generalizing schedule with
  | zero => rfl
  | succ count inductionHypothesis =>
      rw [extendSchedule, inductionHypothesis]
      rfl

/-- The sixty-four words of a block of sixteen. -/
def messageSchedule (block : List UInt32) : List UInt32 :=
  (extendSchedule 48 block.reverse).reverse

def compress (state : HashState) (block : List UInt32) : HashState :=
  state.add ((roundConstants.zip (messageSchedule block)).foldl
    (fun working constantAndWord => working.round constantAndWord.1 constantAndWord.2) state)

/-- Four bytes to a word, the most significant one first. -/
def wordsOfBytes : List UInt8 → List UInt32
  | first :: second :: third :: fourth :: rest =>
      (first.toUInt32 <<< 24 ||| second.toUInt32 <<< 16 ||| third.toUInt32 <<< 8 |||
        fourth.toUInt32) :: wordsOfBytes rest
  | _ => []

def bytesOfWord (word : UInt32) : List UInt8 :=
  [(word >>> 24).toUInt8, (word >>> 16).toUInt8, (word >>> 8).toUInt8, word.toUInt8]

/-- The length of a message in bits, as eight bytes. -/
def lengthBytes (length : Nat) : List UInt8 :=
  let bits := UInt64.ofNat (length * 8)
  [(bits >>> 56).toUInt8, (bits >>> 48).toUInt8, (bits >>> 40).toUInt8, (bits >>> 32).toUInt8,
    (bits >>> 24).toUInt8, (bits >>> 16).toUInt8, (bits >>> 8).toUInt8, bits.toUInt8]

/-- A one bit, the fewest zeros that complete a block with the length, and the length. -/
def padding (length : Nat) : List UInt8 :=
  0x80 :: List.replicate ((119 - length % 64) % 64) 0 ++ lengthBytes length

def compressBlocks : Nat → HashState → List UInt32 → HashState
  | 0, state, _ => state
  | count + 1, state, words => compressBlocks count (compress state (words.take 16)) (words.drop 16)

theorem wordsOfBytes_append {front : List UInt8} {count : Nat}
    (whole : front.length = 4 * count) (back : List UInt8) :
    wordsOfBytes (front ++ back) = wordsOfBytes front ++ wordsOfBytes back := by
  induction count generalizing front with
  | zero =>
      rw [List.length_eq_zero_iff.mp whole]
      rfl
  | succ count inductionHypothesis =>
      match front, whole with
      | first :: second :: third :: fourth :: rest, whole =>
          have fewer : rest.length = 4 * count := by simpa [Nat.mul_succ] using whole
          exact congrArg (_ :: ·) (inductionHypothesis fewer)

theorem length_wordsOfBytes {bytes : List UInt8} {count : Nat} (whole : bytes.length = 4 * count) :
    (wordsOfBytes bytes).length = count := by
  induction count generalizing bytes with
  | zero =>
      rw [List.length_eq_zero_iff.mp whole]
      rfl
  | succ count inductionHypothesis =>
      match bytes, whole with
      | first :: second :: third :: fourth :: rest, whole =>
          have fewer : rest.length = 4 * count := by simpa [Nat.mul_succ] using whole
          exact congrArg (· + 1) (inductionHypothesis fewer)

theorem compressBlocks_append {front last : List UInt32} {count : Nat}
    (whole : front.length = 16 * count) (single : last.length = 16) (state : HashState) :
    compressBlocks (count + 1) state (front ++ last) =
      compress (compressBlocks count state front) last := by
  induction count generalizing front state with
  | zero =>
      have all : last.take 16 = last := List.take_of_length_le single.le
      rw [List.length_eq_zero_iff.mp whole, List.nil_append]
      exact congrArg (compress state) all
  | succ count inductionHypothesis =>
      have long : 16 ≤ front.length := by omega
      have fewer : (front.drop 16).length = 16 * count := by rw [List.length_drop]; omega
      rw [compressBlocks, List.take_append_of_le_length long, List.drop_append_of_le_length long,
        inductionHypothesis fewer]
      rfl

/-- The chaining value after the blocks of a message. -/
def digestBlocks (message : List UInt8) : HashState :=
  compressBlocks (message.length / 64) HashState.initial (wordsOfBytes message)

theorem digestBlocks_append {front block : List UInt8} (whole : front.length % 64 = 0)
    (single : block.length = 64) :
    digestBlocks (front ++ block) = compress (digestBlocks front) (wordsOfBytes block) := by
  have blocks : (front ++ block).length / 64 = front.length / 64 + 1 := by
    rw [List.length_append]
    omega
  have words : front.length = 4 * (16 * (front.length / 64)) := by omega
  have sixteen : block.length = 4 * 16 := single
  rw [digestBlocks, blocks, wordsOfBytes_append words,
    compressBlocks_append (length_wordsOfBytes words) (length_wordsOfBytes sixteen)]
  rfl

end Sha256

open Sha256

def sha256 (message : List UInt8) : List UInt8 :=
  let padded := message ++ padding message.length
  (compressBlocks (padded.length / 64) HashState.initial (wordsOfBytes padded)).words.flatMap
    bytesOfWord

theorem sha256_eq (message : List UInt8) :
    sha256 message =
      (digestBlocks (message ++ padding message.length)).words.flatMap bytesOfWord := rfl

@[simp]
theorem length_sha256 (message : List UInt8) : (sha256 message).length = 32 := rfl

example : hexDigest (sha256 [0x61, 0x62, 0x63]) =
    asciiBytes "ba7816bf8f01cfea414140de5dae2223b00361a396177a9cb410ff61f20015ad".toList := by
  decide +kernel

end GridexEdge.Foundation
