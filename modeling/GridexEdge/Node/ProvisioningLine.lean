import GridexEdge.Foundation.Runs
import GridexEdge.Node.EspOtaService

/-!
The serial console of the node: lines of at most eighty characters, and the commands
that change the stored settings of the control endpoints.
-/

namespace GridexEdge.Node

open Foundation

def lineEnd (value : UInt8) : Bool := value == 0x0D || value == 0x0A

/-- A longer line is discarded whole, so its buffer never overflows. -/
structure ProvisioningLine where
  buffer : List UInt8 := []
  discarding : Bool := false
  fits : buffer.length ≤ 80 := by decide

namespace ProvisioningLine

def fresh : ProvisioningLine := {}

variable (line : ProvisioningLine)

def push (value : UInt8) : Option (List UInt8) × ProvisioningLine :=
  if lineEnd value then
    (if !line.discarding && line.buffer != [] then some line.buffer else none, fresh)
  else if line.discarding then (none, line)
  else if full : line.buffer.length = 80 then (none, { line with discarding := true })
  else
    (none,
      { line with
        buffer := line.buffer ++ [value]
        fits := by
          have fits := line.fits
          rw [List.length_append, List.length_singleton]
          omega })

/-- The state after characters, and the lines they completed. -/
def pushAll (values : List UInt8) : ProvisioningLine :=
  run (fun line value => (push line value).2) line values

def completedLines (values : List UInt8) : List (List UInt8) :=
  outputs (fun line value => (push line value).2) (fun line value => (push line value).1.toList)
    line values

variable {line}

theorem completedLines_of_open {values : List UInt8}
    (inner : ∀ value ∈ values, lineEnd value = false) : line.completedLines values = [] := by
  induction values generalizing line with
  | nil => rfl
  | cons value rest inductionHypothesis =>
      have silent : (line.push value).1 = none := by
        rw [push, inner value List.mem_cons_self, if_neg Bool.false_ne_true]
        split
        · rfl
        · split
          · rfl
          · rfl
      have later : (line.push value).2.completedLines rest = [] :=
        inductionHypothesis fun other member => inner other (List.mem_cons_of_mem _ member)
      rw [completedLines, outputs, silent]
      exact later

theorem pushAll_of_discarding {values : List UInt8} (discarding : line.discarding = true)
    (inner : ∀ value ∈ values, lineEnd value = false) : line.pushAll values = line := by
  induction values with
  | nil => rfl
  | cons value rest inductionHypothesis =>
      have kept : (line.push value).2 = line := by
        rw [push, inner value List.mem_cons_self, if_neg Bool.false_ne_true, if_pos discarding]
      rw [pushAll, run_cons, kept]
      exact inductionHypothesis fun other member => inner other (List.mem_cons_of_mem _ member)

/-- Characters that fit are collected, and one too many starts the discarding. -/
theorem pushAll_of_open {values : List UInt8} (collecting : line.discarding = false)
    (inner : ∀ value ∈ values, lineEnd value = false) :
    (line.buffer.length + values.length ≤ 80 →
        (line.pushAll values).buffer = line.buffer ++ values ∧
          (line.pushAll values).discarding = false) ∧
      (80 < line.buffer.length + values.length → (line.pushAll values).discarding = true) := by
  induction values generalizing line with
  | nil =>
      refine ⟨fun _ => ⟨(List.append_nil _).symm, collecting⟩, fun long => ?_⟩
      exact absurd long (Nat.not_lt_of_le line.fits)
  | cons value rest inductionHypothesis =>
      have others : ∀ other ∈ rest, lineEnd other = false :=
        fun other member => inner other (List.mem_cons_of_mem _ member)
      have unended := inner value List.mem_cons_self
      rw [pushAll, run_cons, List.length_cons]
      by_cases full : line.buffer.length = 80
      · have pushed : (line.push value).2 = { line with discarding := true } := by
          rw [push, unended, if_neg Bool.false_ne_true, collecting, if_neg Bool.false_ne_true,
            dif_pos full]
        refine ⟨fun short => ?_, fun _ => ?_⟩
        · omega
        · have stays := @pushAll_of_discarding (line.push value).2 rest (by rw [pushed]) others
          rw [pushAll] at stays
          rw [stays, pushed]
      · have pushed : (line.push value).2.buffer = line.buffer ++ [value] ∧
            (line.push value).2.discarding = false := by
          rw [push, unended, if_neg Bool.false_ne_true, collecting, if_neg Bool.false_ne_true,
            dif_neg full]
          exact ⟨rfl, rfl⟩
        obtain ⟨short, long⟩ := inductionHypothesis pushed.2 others
        rw [pushed.1, List.length_append, List.length_singleton] at short long
        refine ⟨fun inside => ?_, fun outside => long (by omega)⟩
        obtain ⟨buffer, open_⟩ := short (by omega)
        refine ⟨?_, open_⟩
        rw [List.append_assoc, List.singleton_append] at buffer
        exact buffer

/-- A typed line comes out at its end if it is not empty and fits the buffer. -/
theorem completedLines_typed {values : List UInt8}
    (inner : ∀ value ∈ values, lineEnd value = false) :
    fresh.completedLines (values ++ [0x0A]) =
      if values ≠ [] ∧ values.length ≤ 80 then [values] else [] := by
  have silent := @completedLines_of_open fresh values inner
  have reached : fresh.completedLines (values ++ [0x0A]) =
      fresh.completedLines values ++ ((fresh.pushAll values).push 0x0A).1.toList := by
    rw [completedLines, outputs_append]
    congr 1
    exact List.append_nil _
  have empty : fresh.buffer = [] := rfl
  obtain ⟨short, long⟩ := @pushAll_of_open fresh values rfl inner
  rw [empty, List.length_nil, Nat.zero_add, List.nil_append] at short
  rw [empty, List.length_nil, Nat.zero_add] at long
  rw [reached, silent, List.nil_append, push, if_pos (by decide)]
  by_cases fits : values.length ≤ 80
  · obtain ⟨buffer, collecting⟩ := short fits
    rw [buffer, collecting]
    by_cases nothing : values = []
    · rw [nothing]
      rfl
    · have returned : (!false && values != []) = true := by simpa using nothing
      rw [if_pos returned, if_pos ⟨nothing, fits⟩]
      rfl
  · have tooLong : ¬(values ≠ [] ∧ values.length ≤ 80) := fun right => fits right.2
    rw [long (Nat.lt_of_not_le fits), if_neg tooLong]
    rfl

end ProvisioningLine

/-! ### Commands -/

/-- The space characters of the C locale. -/
def isSpace (value : UInt8) : Bool := value == 0x20 || (0x09 ≤ value && value ≤ 0x0D)

inductive ProvisioningCommand where
  | help
  | status
  | otaClear
  | node (arguments : List UInt8)
  | otaKey (token : List UInt8)
  | rockPi (value : List UInt8)
  | unsupported

namespace ProvisioningCommand

def otaKeyPrefix : List UInt8 := asciiBytes ['o', 't', 'a', '-', 'k', 'e', 'y', ' ']

def nodePrefix : List UInt8 := asciiBytes ['n', 'o', 'd', 'e', ' ']

def rockPiPrefix : List UInt8 := asciiBytes ['r', 'o', 'c', 'k', 'p', 'i', ' ']

/-- A line goes through a C string, which ends at a zero character, and is trimmed. -/
def ofLine (raw : List UInt8) : ProvisioningCommand :=
  let line := trim isSpace (raw.takeWhile (· != 0))
  if line == asciiBytes ['h', 'e', 'l', 'p'] then .help
  else if line == asciiBytes ['s', 't', 'a', 't', 'u', 's'] then .status
  else if line == asciiBytes ['o', 't', 'a', '-', 'c', 'l', 'e', 'a', 'r'] then .otaClear
  else if nodePrefix.isPrefixOf line then .node (line.drop 5)
  else if otaKeyPrefix.isPrefixOf line then .otaKey (line.drop 8)
  else if rockPiPrefix.isPrefixOf line then .rockPi (line.drop 7)
  else .unsupported

end ProvisioningCommand

/-- The stored settings of the control endpoints, empty where none is stored. -/
structure ControlPreferences where
  rockPiIp : List UInt8 := []
  otaTokenHash : List UInt8 := []

/-- The answers of the libraries while a command is executed. -/
structure ProvisioningCalls where
  opened : Bool
  hashed : Bool
  stored : Bool

section Settings

variable (fromString : List UInt8 → Option UInt32)

/-- The effect of a command on the settings. A value that is not stored whole leaves
the one before. -/
def ControlPreferences.execute (preferences : ControlPreferences) (calls : ProvisioningCalls) :
    ProvisioningCommand → ControlPreferences
  | .otaClear => if !calls.opened then preferences else { preferences with otaTokenHash := [] }
  | .otaKey token =>
      if token.length < 32 ∨ 128 < token.length then preferences
      else if !calls.opened then preferences
      else
        let tokenHash := sha256Hex calls.hashed token
        if tokenHash == [] || !calls.stored then preferences
        else { preferences with otaTokenHash := tokenHash }
  | .rockPi value =>
      match fromString value with
      | none => preferences
      | some _ =>
          if !calls.opened || !calls.stored then preferences
          else { preferences with rockPiIp := value }
  | _ => preferences

def loadOtaConfig (preferences : ControlPreferences) : EspOtaConfig where
  rockPiAddress := (fromString preferences.rockPiIp).getD 0
  tokenHash := preferences.otaTokenHash

/-- The settings after characters on the console, whose line buffer starts empty. -/
def ControlPreferences.typed (preferences : ControlPreferences) (calls : ProvisioningCalls)
    (characters : List UInt8) : ControlPreferences :=
  (ProvisioningLine.fresh.completedLines characters).foldl
    (fun preferences line => preferences.execute fromString calls (.ofLine line)) preferences

end Settings

end GridexEdge.Node
