import Mathlib.Data.List.Basic
import Mathlib.Tactic.SplitIfs

/-!
Fixed banks of words, read and written in contiguous ranges.

`writeRange` stores a list from a start index; `getElem_writeRange` is its
complete effect, from which the frame rules and the read-back follow.
`storeWords` stores words at addresses of their own.
-/

namespace GridexEdge.Foundation

universe u

variable {Alpha : Type u} {size : Nat}

/-- Store consecutive values. Callers check the range first; an index past the
end would be dropped. -/
def writeRange (registers : Vector Alpha size) (start : Nat) : List Alpha → Vector Alpha size
  | [] => registers
  | value :: rest => writeRange (registers.setIfInBounds start value) (start + 1) rest

/-- The values of a range, short at the end of the bank. -/
def readRange (registers : Vector Alpha size) (start count : Nat) : List Alpha :=
  (registers.toList.drop start).take count

theorem getElem_writeRange (registers : Vector Alpha size) (start : Nat) (values : List Alpha)
    (index : Nat) (inside : index < size) :
    (writeRange registers start values)[index] =
      if below : start ≤ index ∧ index - start < values.length then
        values[index - start]
      else registers[index] := by
  induction values generalizing registers start with
  | nil => simp [writeRange]
  | cons value rest inductionHypothesis =>
      rw [writeRange, inductionHypothesis, Vector.getElem_setIfInBounds]
      rcases Nat.lt_trichotomy index start with before | rfl | after
      · simp [Nat.not_le_of_lt before, Nat.ne_of_gt before, Nat.not_le_of_lt
          (Nat.lt_succ_of_lt before)]
      · have later : ¬ index + 1 ≤ index := Nat.not_succ_le_self index
        simp [later]
      · obtain ⟨offset, rfl⟩ : ∃ offset, index = start + 1 + offset :=
          ⟨index - (start + 1), by omega⟩
        have inner : start + 1 + offset - (start + 1) = offset := by omega
        have outer : start + 1 + offset - start = offset + 1 := by omega
        simp [inner, outer, Nat.ne_of_lt after, Nat.le_of_lt after]

theorem getElem_writeRange_of_outside (registers : Vector Alpha size) {start : Nat}
    {values : List Alpha} {index : Nat} (inside : index < size)
    (outside : index < start ∨ start + values.length ≤ index) :
    (writeRange registers start values)[index] = registers[index] := by
  rw [getElem_writeRange, dif_neg]
  omega

@[simp]
theorem length_readRange (registers : Vector Alpha size) (start count : Nat) :
    (readRange registers start count).length = min count (size - start) := by
  simp [readRange]

theorem getElem_readRange (registers : Vector Alpha size) (start count index : Nat)
    (inside : index < (readRange registers start count).length) (bounded : start + index < size) :
    (readRange registers start count)[index] = registers[start + index] := by
  simp [readRange]

/-- What was written over a range that fits is what the range then reads. -/
theorem readRange_writeRange (registers : Vector Alpha size) {start : Nat} {values : List Alpha}
    (fits : start + values.length ≤ size) :
    readRange (writeRange registers start values) start values.length = values := by
  apply List.ext_getElem
  · rw [length_readRange]
    omega
  · intro index inside bounded
    have inner : start + index - start = index := by omega
    rw [getElem_readRange _ _ _ _ inside (by omega), getElem_writeRange,
      dif_pos ⟨Nat.le_add_right _ _, by omega⟩]
    simp [inner]

/-- Store words address by address. -/
def storeWords (registers : Vector Alpha size) (words : List (Nat × Alpha)) : Vector Alpha size :=
  words.foldl (fun registers word => registers.setIfInBounds word.1 word.2) registers

theorem getElem_storeWords_of_notMem (registers : Vector Alpha size) {words : List (Nat × Alpha)}
    {address : Nat} (inside : address < size) (other : address ∉ words.map Prod.fst) :
    (storeWords registers words)[address] = registers[address] := by
  induction words generalizing registers with
  | nil => rfl
  | cons word rest inductionHypothesis =>
      rw [List.map_cons, List.mem_cons, not_or] at other
      have stored := inductionHypothesis (registers.setIfInBounds word.1 word.2) other.2
      rw [Vector.getElem_setIfInBounds, if_neg (Ne.symm other.1)] at stored
      exact stored

theorem getElem?_storeWords_of_notMem (registers : Vector Alpha size)
    {words : List (Nat × Alpha)} {address : Nat} (other : address ∉ words.map Prod.fst) :
    (storeWords registers words)[address]? = registers[address]? := by
  by_cases inside : address < size
  · rw [Vector.getElem?_eq_getElem inside, Vector.getElem?_eq_getElem inside,
      getElem_storeWords_of_notMem registers inside other]
  · rw [Vector.getElem?_eq_none (Nat.le_of_not_lt inside),
      Vector.getElem?_eq_none (Nat.le_of_not_lt inside)]

/-- Each word is found at its address when no address is used twice. -/
theorem getElem_storeWords_of_mem (registers : Vector Alpha size) {words : List (Nat × Alpha)}
    {address : Nat} {value : Alpha} (inside : address < size)
    (distinct : (words.map Prod.fst).Nodup) (member : (address, value) ∈ words) :
    (storeWords registers words)[address] = value := by
  induction words generalizing registers with
  | nil => exact absurd member List.not_mem_nil
  | cons word rest inductionHypothesis =>
      rw [List.map_cons, List.nodup_cons] at distinct
      rcases List.mem_cons.mp member with rfl | later
      · have kept := getElem_storeWords_of_notMem (registers.setIfInBounds address value) inside
          distinct.1
        rw [Vector.getElem_setIfInBounds, if_pos rfl] at kept
        exact kept
      · exact inductionHypothesis _ distinct.2 later

theorem getElem?_storeWords_of_mem (registers : Vector Alpha size) {words : List (Nat × Alpha)}
    {address : Nat} {value : Alpha} (inside : address < size)
    (distinct : (words.map Prod.fst).Nodup) (member : (address, value) ∈ words) :
    (storeWords registers words)[address]? = some value := by
  rw [Vector.getElem?_eq_getElem inside,
    getElem_storeWords_of_mem registers inside distinct member]

end GridexEdge.Foundation
