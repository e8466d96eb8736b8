import GridexEdge.Node.NodeIdentity
import GridexEdge.Node.ProvisioningRuns

/-!
A `node` command typed at the serial console.

The console is served between the other work of the loop, one character at a time. The
command takes effect at its line end exactly when its three numbers are in bounds, however
large they are and whatever blanks stand between them.
-/

namespace GridexEdge.Node

open Foundation Json

/-- The digits of a number. -/
def digits (value : Nat) : List UInt8 := asciiBytes (decimal value)

/-- A blank that does not end the line. -/
def inlineBlank (value : UInt8) : Bool := isSpace value && !lineEnd value

/-- The line of a command, with blanks after each of its numbers. -/
structure SpelledCommand where
  address : Nat
  type : Nat
  driverId : Nat
  afterAddress : List UInt8
  afterType : List UInt8
  trailing : List UInt8
  apart : afterAddress ≠ [] ∧ afterType ≠ []
  blanks : (afterAddress ++ afterType ++ trailing).all inlineBlank = true

namespace SpelledCommand

variable (command : SpelledCommand)

def arguments : List UInt8 :=
  digits command.address ++ (command.afterAddress ++
    (digits command.type ++ (command.afterType ++ digits command.driverId)))

def line : List UInt8 :=
  ProvisioningCommand.nodePrefix ++ command.arguments ++ command.trailing

def scanned : ProvisioningArguments where
  address := command.address
  type := command.type
  driverId := command.driverId

end SpelledCommand

/-! ### Scanning -/

theorem all_isDigit_digits (value : Nat) : (digits value).all isDigit = true := by
  rw [List.all_eq_true]
  intro byte member
  obtain ⟨character, inside, rfl⟩ := List.mem_map.mp member
  exact isDigit_of_isDigit (List.all_eq_true.mp (all_isDigit_decimal value) character inside)

theorem digits_ne_nil (value : Nat) : digits value ≠ [] := by
  rw [digits, asciiBytes, ne_eq, List.map_eq_nil_iff]
  exact Nat.toDigits_ne_nil

theorem solid_of_isDigit {byte : UInt8} (digit : isDigit byte = true) :
    isSpace byte = false ∧ lineEnd byte = false ∧ byte ≠ 0 ∧ byte ≠ 0x2D ∧ byte ≠ 0x2B := by
  have bounds : 0x30 ≤ byte ∧ byte ≤ 0x39 := by
    simpa [isDigit] using digit
  have different : ∀ other : UInt8, other < 0x30 → byte ≠ other := by
    rintro other small rfl
    exact absurd bounds.1 (UInt8.not_le.mpr small)
  have high : decide (byte ≤ 0x0D) = false := by
    rw [decide_eq_false_iff_not, UInt8.not_le]
    exact UInt8.lt_of_lt_of_le (by decide) bounds.1
  refine ⟨?_, ?_, different 0 (by decide), different _ (by decide), different _ (by decide)⟩
  · rw [isSpace, high, Bool.and_false, Bool.or_false, beq_eq_false_iff_ne]
    exact different _ (by decide)
  · rw [lineEnd, beq_eq_false_iff_ne.mpr (different _ (by decide)),
      beq_eq_false_iff_ne.mpr (different _ (by decide))]
    rfl

theorem isDigit_of_isSpace {byte : UInt8} (space : isSpace byte = true) : isDigit byte = false := by
  cases digit : isDigit byte with
  | false => rfl
  | true =>
      rw [(solid_of_isDigit digit).1] at space
      exact absurd space Bool.false_ne_true

/-- A number that is too large is read as the largest. -/
theorem scanUnsigned_digits {blanks rest : List UInt8} (spaces : blanks.all isSpace = true)
    (value : Nat) (ends : ∀ byte ∈ rest.head?, isDigit byte = false) :
    scanUnsigned (blanks ++ (digits value ++ rest)) = some (min value 0xFFFFFFFF, rest) := by
  have all := List.all_eq_true.mp (all_isDigit_digits value)
  obtain ⟨first, others, split⟩ := List.exists_cons_of_ne_nil (digits_ne_nil value)
  obtain ⟨space, -, -, noMinus, noPlus⟩ :=
    solid_of_isDigit (all first (by rw [split]; exact List.mem_cons_self))
  have skipped : (blanks ++ (digits value ++ rest)).dropWhile isSpace = digits value ++ rest := by
    rw [List.dropWhile_append_of_pos (List.all_eq_true.mp spaces), split, List.cons_append,
      List.dropWhile_cons_of_neg (by simp [space])]
  have unsigned : ∀ sign : UInt8, first ≠ sign →
      ((digits value ++ rest).head? == some sign) = false := by
    intro sign different
    rw [split, List.cons_append, List.head?_cons, beq_eq_false_iff_ne]
    exact fun same => different (Option.some.inj same)
  have stops : rest.takeWhile isDigit = [] ∧ rest.dropWhile isDigit = rest := by
    cases rest with
    | nil => exact ⟨rfl, rfl⟩
    | cons byte rest =>
        have ended := ends byte rfl
        exact ⟨List.takeWhile_cons_of_neg (by simp [ended]),
          List.dropWhile_cons_of_neg (by simp [ended])⟩
  have number : (digits value ++ rest).takeWhile isDigit = digits value := by
    rw [List.takeWhile_append_of_pos all, stops.1, List.append_nil]
  have remaining : (digits value ++ rest).dropWhile isDigit = rest := by
    rw [List.dropWhile_append_of_pos all, stops.2]
  have magnitude : digitsValue (digits value) = value := digitsValue_decimal value
  unfold scanUnsigned
  dsimp only
  rw [skipped, unsigned _ noMinus, unsigned _ noPlus, Bool.or_false, if_neg Bool.false_ne_true,
    number, remaining, magnitude, if_neg (digits_ne_nil value), if_neg Bool.false_ne_true]
  congr 2
  split <;> omega

/-- The largest numbers are out of bounds themselves. -/
theorem identity?_min (scanned : ProvisioningArguments) :
    ProvisioningArguments.identity?
        { address := min scanned.address 0xFFFFFFFF
          type := min scanned.type 0xFFFFFFFF
          driverId := min scanned.driverId 0xFFFFFFFF } = scanned.identity? := by
  unfold ProvisioningArguments.identity?
  dsimp only
  split
  · next inside =>
      have address : min scanned.address 0xFFFFFFFF = scanned.address := by omega
      have type : min scanned.type 0xFFFFFFFF = scanned.type := by omega
      have driverId : min scanned.driverId 0xFFFFFFFF = scanned.driverId := by omega
      rw [address, type, driverId] at inside
      rw [if_pos inside, address, type, driverId]
  · next outside =>
      rw [if_neg]
      omega

namespace SpelledCommand

variable (command : SpelledCommand)

theorem blank_of_mem {byte : UInt8}
    (member : byte ∈ command.afterAddress ++ command.afterType ++ command.trailing) :
    isSpace byte = true ∧ lineEnd byte = false := by
  simpa [inlineBlank] using List.all_eq_true.mp command.blanks byte member

theorem spaces_afterAddress : command.afterAddress.all isSpace = true :=
  List.all_eq_true.mpr fun _ member =>
    (command.blank_of_mem (List.mem_append_left _ (List.mem_append_left _ member))).1

theorem spaces_afterType : command.afterType.all isSpace = true :=
  List.all_eq_true.mpr fun _ member =>
    (command.blank_of_mem (List.mem_append_left _ (List.mem_append_right _ member))).1

theorem ends_of_spaces {blanks rest : List UInt8} (nonempty : blanks ≠ [])
    (spaces : blanks.all isSpace = true) :
    ∀ byte ∈ (blanks ++ rest).head?, isDigit byte = false := by
  intro byte member
  obtain ⟨first, others, rfl⟩ := List.exists_cons_of_ne_nil nonempty
  rw [List.cons_append, List.head?_cons, Option.mem_def] at member
  cases member
  exact isDigit_of_isSpace (List.all_eq_true.mp spaces byte List.mem_cons_self)

theorem scanArguments_arguments :
    (scanArguments command.arguments).bind ProvisioningArguments.identity? =
      command.scanned.identity? := by
  have first := @scanUnsigned_digits [] (command.afterAddress ++
    (digits command.type ++ (command.afterType ++ digits command.driverId))) rfl command.address
    (ends_of_spaces command.apart.1 command.spaces_afterAddress)
  have second := @scanUnsigned_digits command.afterAddress
    (command.afterType ++ digits command.driverId) command.spaces_afterAddress command.type
    (ends_of_spaces command.apart.2 command.spaces_afterType)
  have third := @scanUnsigned_digits command.afterType [] command.spaces_afterType command.driverId
    (fun _ member => absurd member (by simp))
  rw [List.nil_append] at first
  rw [List.append_nil] at third
  rw [scanArguments, arguments, first]
  simp only [Option.bind_eq_bind, Option.bind_some, second, third, Option.pure_def]
  exact identity?_min command.scanned

/-- No character of a command ends its line or its text. -/
theorem inner_line {byte : UInt8} (member : byte ∈ command.line) :
    lineEnd byte = false ∧ byte ≠ 0 := by
  have opening : (ProvisioningCommand.nodePrefix.all fun byte =>
      !lineEnd byte && byte != 0) = true := rfl
  have number : ∀ value : Nat, byte ∈ digits value → lineEnd byte = false ∧ byte ≠ 0 := by
    intro value inside
    obtain ⟨-, inner, nonzero, -⟩ :=
      solid_of_isDigit (List.all_eq_true.mp (all_isDigit_digits value) byte inside)
    exact ⟨inner, nonzero⟩
  have blank : byte ∈ command.afterAddress ++ command.afterType ++ command.trailing →
      lineEnd byte = false ∧ byte ≠ 0 := by
    intro inside
    obtain ⟨space, inner⟩ := command.blank_of_mem inside
    refine ⟨inner, ?_⟩
    rintro rfl
    exact absurd space (by decide)
  simp only [line, arguments, List.mem_append] at member
  rcases member with ((prefixed | first | spaces | second | spaces | third) | spaces)
  · simpa using List.all_eq_true.mp opening byte prefixed
  · exact number _ first
  · exact blank (List.mem_append_left _ (List.mem_append_left _ spaces))
  · exact number _ second
  · exact blank (List.mem_append_left _ (List.mem_append_right _ spaces))
  · exact number _ third
  · exact blank (List.mem_append_right _ spaces)

theorem ofLine_line : ProvisioningCommand.ofLine command.line = .node command.arguments := by
  have digitsLast := digits_ne_nil command.driverId
  have tailNonempty : command.afterType ++ digits command.driverId ≠ [] := by simp [digitsLast]
  have last : command.arguments.getLast (by simp [arguments, digitsLast]) =
      (digits command.driverId).getLast digitsLast := by
    simp only [arguments]
    rw [List.getLast_append_of_ne_nil _ (by simp [digitsLast]),
      List.getLast_append_of_ne_nil _ (by simp [digitsLast]),
      List.getLast_append_of_ne_nil _ tailNonempty, List.getLast_append_of_ne_nil _ digitsLast]
  have text : trim isSpace (command.line.takeWhile (· != 0)) =
      ProvisioningCommand.nodePrefix ++ command.arguments := by
    have whole : command.line.takeWhile (· != 0) = command.line := by
      rw [List.takeWhile_eq_self_iff]
      exact fun byte member => by simpa using (command.inner_line member).2
    rw [whole, line]
    apply trim_append (by simp [ProvisioningCommand.nodePrefix, asciiBytes])
    · rfl
    · rw [List.getLast_append_of_ne_nil _ (by simp [arguments, digitsLast]), last]
      exact (solid_of_isDigit (List.all_eq_true.mp (all_isDigit_digits command.driverId) _
        (List.getLast_mem digitsLast))).1
    · exact fun byte member => (command.blank_of_mem (List.mem_append_right _ member)).1
  rw [ProvisioningCommand.ofLine, text]
  rfl

theorem identity?_ofLine :
    (ProvisioningCommand.ofLine command.line).identity? = command.scanned.identity? := by
  rw [ofLine_line, ProvisioningCommand.identity?, scanArguments_arguments]

end SpelledCommand

/-- What a command asks for, if the console can hold its line. -/
def SpelledCommand.identity? (command : SpelledCommand) : Option NodeIdentity :=
  if command.line.length ≤ 80 then command.scanned.identity? else none

/-! ### Typing -/

/-- Work of the loop that is no restart. -/
def NodeEvent.continues : NodeEvent → Bool
  | .restart _ => false
  | _ => true

namespace NodeProgram

/-- The characters that the events of a run bring. -/
def typedCharacters (events : List NodeEvent) : List UInt8 :=
  events.filterMap fun event =>
    match event with
    | .serial value _ _ _ => some value
    | _ => none

section Typing

variable {Device : Type} (driver : DeviceDriver Device)
  (fromString : List UInt8 → Option UInt32) (build : InstalledDriver)
  (program : NodeProgram Device)

/-- Between two starts the reader of lines moves by its characters only. -/
theorem step_serialLine {event : NodeEvent} (continues : event.continues = true)
    (untyped : typedCharacters [event] = []) :
    (program.step driver fromString build event).serialLine = program.serialLine := by
  cases event with
  | serial value calls stored boot => exact absurd untyped (List.cons_ne_nil _ _)
  | controlLoop input => rfl
  | restartControl =>
      unfold step
      dsimp only
      split <;> rfl
  | applyCommand nowMs => rfl
  | persistNodeConfig stored => rfl
  | superviseDeviceBus nowMs busInitialized =>
      unfold step superviseDeviceBus
      dsimp only
      split
      · rfl
      · obtain ⟨device, readied⟩ := readyDriver_eq driver
          { program with lastBusRecoveryMs := nowMs } busInitialized
        rw [readied]
        rfl
  | pollDriver nowMs laterMs mqttConnected =>
      unfold step pollDriver
      dsimp only
      split
      · rfl
      · obtain ⟨device, polled⟩ := program.pollSample_eq driver
        dsimp only [publishHealthRegisters]
        rw [polled]
        rfl
  | publishCloud nowMs laterMs =>
      unfold step
      dsimp only
      split <;> rfl
  | ethernet event => cases event <;> rfl
  | restart boot => exact absurd continues Bool.false_ne_true

/-- A character inside a line is only read. -/
theorem step_serial_inner {value : UInt8} (inner : lineEnd value = false)
    (calls : ProvisioningCalls) (stored : StoredFields) (boot : BootInput) :
    (program.step driver fromString build (.serial value calls stored boot)).serialLine =
        (program.serialLine.push value).2 ∧
      program.acceptedIdentity (.serial value calls stored boot) = [] := by
  have silent : (program.serialLine.push value).1 = none := by
    rw [ProvisioningLine.push, inner, if_neg Bool.false_ne_true]
    split
    · rfl
    · split <;> rfl
  unfold step serial acceptedIdentity
  dsimp only
  rw [silent]
  exact ⟨rfl, rfl⟩

theorem provisionNode_serialLine (arguments : List UInt8) (stored : StoredFields) :
    (program.provisionNode arguments stored).serialLine = program.serialLine := by
  unfold provisionNode
  split
  · rfl
  · split
    · rfl
    · split <;> rfl

theorem typed_inner {events : List NodeEvent}
    (continues : ∀ event ∈ events, event.continues = true)
    (inner : ∀ value ∈ typedCharacters events, lineEnd value = false) :
    (run (step driver fromString build) program events).serialLine =
        program.serialLine.pushAll (typedCharacters events) ∧
      outputs (step driver fromString build) acceptedIdentity program events = [] := by
  induction events generalizing program with
  | nil => exact ⟨rfl, rfl⟩
  | cons event rest inductionHypothesis =>
      have split : typedCharacters (event :: rest) =
          typedCharacters [event] ++ typedCharacters rest := by
        rw [typedCharacters, typedCharacters, typedCharacters, ← List.filterMap_append,
          List.singleton_append]
      rw [split] at inner ⊢
      obtain ⟨reached, silent⟩ := inductionHypothesis (program.step driver fromString build event)
        (fun later member => continues later (List.mem_cons_of_mem _ member))
        (fun value member => inner value (List.mem_append_right _ member))
      rw [run_cons, outputs, reached, silent, List.append_nil, ProvisioningLine.pushAll,
        ProvisioningLine.pushAll, run_append]
      by_cases untyped : typedCharacters [event] = []
      · rw [untyped, program.step_serialLine driver fromString build
          (continues event List.mem_cons_self) untyped]
        refine ⟨rfl, ?_⟩
        cases event with
        | serial value calls stored boot => exact absurd untyped (List.cons_ne_nil _ _)
        | _ => rfl
      · cases event with
        | serial value calls stored boot =>
            obtain ⟨read, nothing⟩ := program.step_serial_inner driver fromString build
              (inner value (List.mem_append_left _ List.mem_cons_self)) calls stored boot
            rw [read, nothing]
            exact ⟨rfl, rfl⟩
        | _ => exact absurd rfl untyped

/-- From the start of a line, and between any work of the loop: at its end a command of
any three numbers is accepted exactly when they are in bounds and the line is no longer
than the buffer. It then takes effect at once, and otherwise nothing changes. -/
theorem typed_identity_taken (command : SpelledCommand) (fresh : program.serialLine = .fresh)
    {events : List NodeEvent} (continues : ∀ event ∈ events, event.continues = true)
    (spelled : typedCharacters events = command.line) {last : UInt8} (isEnd : lineEnd last = true)
    (calls : ProvisioningCalls) (stored : StoredFields) (boot : BootInput) :
    let before := run (step driver fromString build) program events
    let after := before.step driver fromString build (.serial last calls stored boot)
    outputs (step driver fromString build) acceptedIdentity program
          (events ++ [.serial last calls stored boot]) =
        (command.identity?.map fun identity => (identity, stored)).toList ∧
      (∀ identity, command.identity? = some identity →
        TakesIdentity before after (identity, stored)) ∧
      (command.identity? = none →
        after.firmware = before.firmware ∧ after.flash = before.flash) ∧
      after.serialLine = .fresh := by
  intro before after
  obtain ⟨reached, silent⟩ := program.typed_inner driver fromString build continues
    (by rw [spelled]; exact fun value member => (command.inner_line member).1)
  rw [fresh, spelled] at reached
  have opened : openSegment lineEnd command.line = command.line := by
    rw [Foundation.openSegment, List.rtakeWhile_eq_self_iff]
    exact fun value member => by simpa using (command.inner_line member).1
  have completed := ProvisioningLine.push_pushAll command.line last
  rw [opened] at completed
  have refreshed : (before.serialLine.push last).2 = .fresh := by
    rw [ProvisioningLine.push, if_pos isEnd]
  have finished : (before.serialLine.push last).1 =
      if command.line.length ≤ 80 then some command.line else none := by
    have nonempty : command.line ≠ [] := by
      simp [SpelledCommand.line, ProvisioningCommand.nodePrefix, asciiBytes]
    rw [reached, completed]
    simp [isEnd, ProvisioningLine.Shown, nonempty]
  have accepts : before.acceptedIdentity (.serial last calls stored boot) =
      (command.identity?.map fun identity => (identity, stored)).toList := by
    rw [acceptedIdentity, finished, SpelledCommand.identity?]
    split
    · rw [Option.bind_some, command.identity?_ofLine]
    · rfl
  have stepped : after = before.serial driver fromString build last calls stored boot := rfl
  have told : outputs (step driver fromString build) acceptedIdentity program
      (events ++ [.serial last calls stored boot]) =
        (command.identity?.map fun identity => (identity, stored)).toList := by
    rw [outputs_append, silent, List.nil_append, outputs, outputs, List.append_nil]
    exact accepts
  refine ⟨told, ?_⟩
  have nothing {taken : NodeIdentity → Prop} (identity : NodeIdentity)
      (absent : none = some identity) : taken identity :=
    absurd absent.symm (Option.some_ne_none identity)
  rw [stepped, SpelledCommand.identity?]
  by_cases short : command.line.length ≤ 80
  · rw [if_pos short] at finished
    rw [if_pos short, before.serial_of_line driver fromString build finished, refreshed,
      command.ofLine_line, processProvisioningLine]
    rcases provisionNode_cases { before with serialLine := .fresh } command.arguments stored with
      ⟨refused, same⟩ | ⟨identity, accepted, takes, -⟩
    · rw [command.scanArguments_arguments] at refused
      rw [refused, same]
      exact ⟨nothing, fun _ => ⟨rfl, rfl⟩, rfl⟩
    · rw [command.scanArguments_arguments] at accepted
      rw [accepted, provisionNode_serialLine]
      refine ⟨fun identity taken => ?_,
        fun refused => absurd refused (Option.some_ne_none identity), rfl⟩
      cases taken
      exact ⟨takes.flashNode, takes.efuseMac, takes.config⟩
  · rw [if_neg short] at finished
    rw [if_neg short, before.serial_of_none driver fromString build finished, refreshed]
    exact ⟨nothing, fun _ => ⟨rfl, rfl⟩, rfl⟩

end Typing

/-- A driver of which nothing is asked here. -/
def idleDriver : DeviceDriver Unit where
  applyPowerCommand _ device := (false, device)
  begins device := (false, device)
  poll device := ({}, device)
  requiresDeviceBus := false
  healthy _ := false

def sevenThreeTwo : SpelledCommand where
  address := 7
  type := 3
  driverId := 2
  afterAddress := [0x20]
  afterType := [0x20, 0x09]
  trailing := [0x20]
  apart := by decide
  blanks := by decide

def noBoot : BootInput where
  busInitialized := false
  watchdogReady := true
  linkUp := false

/-- `node 7 3 2`, with the link going down in between. -/
theorem typed_identity_taken_seven :
    let program := powerOn (fun _ => none) .unconfigured { efuseMac := 0 } ()
    let stored : StoredFields := ⟨true, true, true⟩
    let typed := sevenThreeTwo.line.map fun value =>
      NodeEvent.serial value ⟨true, true, true⟩ stored noBoot
    outputs (step idleDriver (fun _ => none) .unconfigured) acceptedIdentity program
        ((.ethernet .disconnected :: typed) ++ [.serial 0x0A ⟨true, true, true⟩ stored noBoot]) =
      [(⟨7, 3, 2⟩, stored)] := by
  intro program stored typed
  have taken := (@typed_identity_taken Unit idleDriver (fun _ => none) .unconfigured program
    sevenThreeTwo rfl (.ethernet .disconnected :: typed) (by decide) (by decide) 0x0A rfl
    ⟨true, true, true⟩ stored noBoot).1
  exact taken.trans rfl

end NodeProgram

end GridexEdge.Node
