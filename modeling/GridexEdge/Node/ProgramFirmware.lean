import GridexEdge.Node.Isolation
import GridexEdge.Node.NodeProgram

/-!
The program moves its firmware by the events of the firmware.

Beside these only the device moves, with every poll, and a restart begins with a new
firmware. What the program publishes by such an event is what it knows at the moment.
-/

namespace GridexEdge.Node

open Foundation

namespace NodeProgram

section Moves

variable {Device : Type} (driver : DeviceDriver Device)
  (fromString : List UInt8 → Option UInt32) (build : InstalledDriver)

variable (program : NodeProgram Device)

/-- An event that publishes nothing but what the program knows. -/
def Publishes : FirmwareEvent → Prop
  | .publishDriverSample sample => sample = (program.pollSample driver).1
  | .publishHealthRegisters health => health = program.health
  | .publishCounters _ cloudConnected => cloudConnected = true → program.cloudActive = true
  | _ => True

/-- Events of the firmware, perhaps after a move of its device. -/
def Moved (after : Firmware Device) : Prop :=
  ∃ device events, (∀ event ∈ events, program.Publishes driver event) ∧ after =
    run (Firmware.step driver.toIDeviceDriver) { program.firmware with device := device } events

theorem Moved.refl : program.Moved driver program.firmware :=
  ⟨program.firmware.device, [], by simp, rfl⟩

theorem Moved.single (event : FirmwareEvent) (publishes : program.Publishes driver event) :
    program.Moved driver (program.firmware.step driver.toIDeviceDriver event) :=
  ⟨program.firmware.device, [event], by simpa using publishes, rfl⟩

/-- Nothing that is published depends on the line being read. -/
theorem publishes_of_serialLine {line : ProvisioningLine} {event : FirmwareEvent}
    (publishes : Publishes driver { program with serialLine := line } event) :
    program.Publishes driver event := by
  have sample : (pollSample driver { program with serialLine := line }).1 =
      (program.pollSample driver).1 := by
    unfold pollSample
    cases program.firmware.installed <;> rfl
  cases event with
  | publishDriverSample published => exact publishes.trans sample
  | publishHealthRegisters published => exact publishes
  | publishCounters uptimeSeconds cloudConnected => exact publishes
  | _ => trivial

def withDevice (device : Device) : NodeProgram Device := { program with firmware.device := device }

/-- Beginning the driver touches the device only. -/
theorem beginDriver_eq :
    ∃ device, (program.beginDriver driver).2 = program.withDevice device := by
  unfold beginDriver
  split
  · exact ⟨_, rfl⟩
  · exact ⟨program.firmware.device, rfl⟩

/-- A poll touches the device only, and leaves its sample. -/
theorem pollSample_eq :
    ∃ device, (program.pollSample driver).2 =
      { program.withDevice device with
        samples := (program.pollSample driver).1 :: program.samples } := by
  unfold pollSample
  split
  · exact ⟨(driver.poll program.firmware.device).2, rfl⟩
  · exact ⟨program.firmware.device, rfl⟩

theorem readyDriver_eq (busInitialized : Bool) :
    ∃ device, program.readyDriver driver busInitialized =
      { program.withDevice device with
        deviceBusReady := busInitialized
        driverReady := busInitialized && (program.beginDriver driver).1 } := by
  unfold readyDriver
  cases busInitialized with
  | true =>
      obtain ⟨device, begun⟩ := program.beginDriver_eq driver
      refine ⟨device, ?_⟩
      rw [if_pos rfl]
      dsimp only
      rw [begun]
      rfl
  | false => exact ⟨program.firmware.device, rfl⟩

/-- What link events and failed initializations are noted in. -/
structure LinkState where
  seen : Bool
  up : Bool
  restart : Bool
  recoveries : UInt16
  error : UInt16

def withLink (link : LinkState) : NodeProgram Device :=
  { program with
    ethernetSeen := link.seen
    ethernetUp := link.up
    restartControlRequested := link.restart
    ethernetRecoveries := link.recoveries
    lastError := link.error }

def link : LinkState where
  seen := program.ethernetSeen
  up := program.ethernetUp
  restart := program.restartControlRequested
  recoveries := program.ethernetRecoveries
  error := program.lastError

theorem onEthernet_eq (event : EthernetEvent) :
    ∃ link, program.onEthernet event = program.withLink link := by
  cases event with
  | gotIp => exact ⟨(program.onEthernet .gotIp).link, rfl⟩
  | disconnected => exact ⟨(program.onEthernet .disconnected).link, rfl⟩

theorem onEthernetEvents_eq (events : List EthernetEvent) :
    ∃ link, program.onEthernetEvents events = program.withLink link := by
  induction events generalizing program with
  | nil => exact ⟨program.link, rfl⟩
  | cons event rest inductionHypothesis =>
      obtain ⟨first, noted⟩ := program.onEthernet_eq event
      obtain ⟨later, reached⟩ := inductionHypothesis (program.onEthernet event)
      refine ⟨later, reached.trans ?_⟩
      rw [noted]
      rfl

theorem noteFailure_eq (ready : Bool) (error : UInt16) :
    ∃ link, program.noteFailure ready error = program.withLink link := by
  cases ready with
  | true => exact ⟨program.link, rfl⟩
  | false => exact ⟨{ program.link with error := error }, rfl⟩

theorem beginDriver_withLink (link : LinkState) :
    ((program.withLink link).beginDriver driver).1 = (program.beginDriver driver).1 := by
  unfold beginDriver withLink
  dsimp only
  split
  · rfl
  · rfl

theorem provisionNode_firmware (arguments : List UInt8) (stored : StoredFields) :
    (program.provisionNode arguments stored).firmware =
      match scanArguments arguments with
      | none => program.firmware
      | some scanned =>
          program.firmware.provisionNode scanned.address scanned.type scanned.driverId := by
  cases read : scanArguments arguments with
  | none => simp only [provisionNode, read]
  | some scanned =>
      simp only [provisionNode, read, Firmware.provisionNode]
      by_cases large : 247 < scanned.address ∨ NodeType.secondCabinet.toNat < scanned.type ∨
          65535 < scanned.driverId
      · rw [if_pos large, if_pos large]
      · rw [if_neg large, if_neg large]
        cases program.firmware.node.provision (UInt8.ofNat scanned.address)
            (UInt16.ofNat scanned.type) (UInt16.ofNat scanned.driverId) with
        | mk accepted node => cases accepted <;> rfl

/-- What a start does once the driver is ready. -/
theorem watch_eq (boot : BootInput) :
    let awaited := program.onEthernetEvents boot.untilWatchdog
    let watched :=
      { awaited with watchdogReady := boot.watchdogReady }.noteFailure boot.watchdogReady 3
    let looked := { watched.onEthernetEvents boot.untilLink with ethernetUp := boot.linkUp }
    ∃ link, looked.onEthernetEvents boot.untilHealth =
      withLink { program with watchdogReady := boot.watchdogReady } link := by
  intro awaited watched looked
  let ready : NodeProgram Device := { program with watchdogReady := boot.watchdogReady }
  obtain ⟨untilWatchdog, first⟩ := program.onEthernetEvents_eq boot.untilWatchdog
  obtain ⟨watchdog, noted⟩ := (ready.withLink untilWatchdog).noteFailure_eq boot.watchdogReady 3
  obtain ⟨untilLink, second⟩ := (ready.withLink watchdog).onEthernetEvents_eq boot.untilLink
  have isWatched : watched = ready.withLink watchdog := by
    refine Eq.trans ?_ noted
    dsimp only [watched, awaited]
    rw [first]
    rfl
  have isLooked : looked = ready.withLink { untilLink with up := boot.linkUp } := by
    dsimp only [looked]
    rw [isWatched, second]
    rfl
  rw [isLooked]
  exact onEthernetEvents_eq _ boot.untilHealth

/-- Whatever the link does meanwhile: a start readies the driver of a booted program, and
publishes the health. -/
theorem setup_eq (flash : Flash) (device : Device) (boot : BootInput) :
    let powered := powerOn fromString build flash device
    ∃ device' link, setup driver fromString build flash device boot =
      publishHealthRegisters driver
        { (powered.withDevice device').withLink link with
          deviceBusReady := boot.busInitialized
          driverReady := boot.busInitialized && (powered.beginDriver driver).1
          watchdogReady := boot.watchdogReady } := by
  intro powered
  obtain ⟨untilBus, linked⟩ := powered.onEthernetEvents_eq boot.untilBus
  obtain ⟨bus, noted⟩ := (powered.withLink untilBus).noteFailure_eq boot.busInitialized 2
  obtain ⟨device', readied⟩ := (powered.withLink bus).readyDriver_eq driver boot.busInitialized
  have started : ((powered.onEthernetEvents boot.untilBus).noteFailure boot.busInitialized
      2).readyDriver driver boot.busInitialized =
        { (powered.withDevice device').withLink bus with
          deviceBusReady := boot.busInitialized
          driverReady := boot.busInitialized && (powered.beginDriver driver).1 } := by
    rw [linked, noted, ← powered.beginDriver_withLink driver bus]
    exact readied
  obtain ⟨link, watched⟩ := watch_eq
    { (powered.withDevice device').withLink bus with
      deviceBusReady := boot.busInitialized
      driverReady := boot.busInitialized && (powered.beginDriver driver).1 } boot
  refine ⟨device', link, ?_⟩
  unfold setup
  dsimp only at watched ⊢
  rw [started, watched]
  rfl

/-- A start leaves the firmware booted, with the health registers published. -/
theorem setup_firmware (flash : Flash) (device : Device) (boot : BootInput) :
    ∃ device', (setup driver fromString build flash device boot).firmware =
      Firmware.step driver.toIDeviceDriver
        { (powerOn fromString build flash device).firmware with device := device' }
        (.publishHealthRegisters (setup driver fromString build flash device boot).health) := by
  obtain ⟨device', _, started⟩ := setup_eq driver fromString build flash device boot
  refine ⟨device', ?_⟩
  rw [started]
  dsimp only [publishHealthRegisters, health]
  rfl

theorem processProvisioningLine_moved (calls : ProvisioningCalls) (stored : StoredFields)
    (boot : BootInput) (command : ProvisioningCommand) :
    program.Moved driver
        (program.processProvisioningLine driver fromString build calls stored boot
          command).firmware ∨
      ∃ flash, program.processProvisioningLine driver fromString build calls stored boot command =
        setup driver fromString build flash program.firmware.device boot := by
  cases command with
  | node arguments =>
      refine .inl ?_
      rw [processProvisioningLine, provisionNode_firmware]
      cases scanArguments arguments with
      | none => exact .refl driver program
      | some scanned => exact .single driver program (.provisionNode _ _ _) trivial
  | rockPi value =>
      refine .inl ?_
      cases read : fromString value with
      | none => simp only [processProvisioningLine, read, Moved.refl]
      | some address =>
          simp only [processProvisioningLine, read]
          split
          · exact .refl driver program
          · exact .single driver program (.setRockPiAddress address) trivial
  | help => exact .inl (.refl driver program)
  | status => exact .inl (.refl driver program)
  | unsupported => exact .inl (.refl driver program)
  | otaClear =>
      unfold processProvisioningLine
      dsimp only
      split
      · exact .inr ⟨_, rfl⟩
      · exact .inl (.refl driver program)
  | otaKey token =>
      unfold processProvisioningLine
      dsimp only
      split
      · exact .inr ⟨_, rfl⟩
      · exact .inl (.refl driver program)

theorem pollDriver_moved (nowMs laterMs : UInt32) (mqttConnected : Bool) :
    program.Moved driver (program.pollDriver driver nowMs laterMs mqttConnected).firmware := by
  unfold pollDriver
  split
  · exact .refl driver program
  · obtain ⟨device, polled⟩ := program.pollSample_eq driver
    refine ⟨device, [.publishDriverSample (program.pollSample driver).1,
      .publishHealthRegisters program.health,
      .publishCounters (laterMs / 1000) (program.cloudActive && mqttConnected)], ?_, ?_⟩
    · intro event member
      simp only [List.mem_cons, List.not_mem_nil, or_false] at member
      rcases member with rfl | rfl | rfl
      · rfl
      · rfl
      · exact fun connected => (Bool.and_eq_true_iff.mp connected).1
    · dsimp only [publishHealthRegisters, health]
      rw [polled]
      rfl

/-- An event moves the firmware by its own events, or it is a start. -/
theorem step_moved (event : NodeEvent) :
    program.Moved driver (program.step driver fromString build event).firmware ∨
      ∃ flash boot, program.step driver fromString build event =
        setup driver fromString build flash program.firmware.device boot := by
  cases event with
  | serial value calls stored boot =>
      unfold step serial
      dsimp only
      split
      · exact .inl (.refl driver program)
      · next raw _ =>
          let read : NodeProgram Device :=
            { program with serialLine := (program.serialLine.push value).2 }
          rcases read.processProvisioningLine_moved driver fromString build calls stored boot
            (.ofLine raw) with moved | ⟨flash, started⟩
          · obtain ⟨device, events, publishes, reached⟩ := moved
            refine .inl ⟨device, events, fun event member => ?_, reached⟩
            exact publishes_of_serialLine driver program (publishes event member)
          · exact .inr ⟨flash, boot, started⟩
  | controlLoop input => exact .inl (.single driver program (.controlLoop input) trivial)
  | restartControl =>
      refine .inl ?_
      unfold step
      dsimp only
      split
      · exact .single driver program .restartControl trivial
      · exact .refl driver program
  | applyCommand nowMs => exact .inl (.single driver program (.applyCommand nowMs) trivial)
  | persistNodeConfig stored => exact .inl (.single driver program .persistNodeConfig trivial)
  | superviseDeviceBus nowMs busInitialized =>
      refine .inl ?_
      unfold step superviseDeviceBus
      dsimp only
      split
      · exact .refl driver program
      · obtain ⟨device, readied⟩ := readyDriver_eq driver
          { program with lastBusRecoveryMs := nowMs } busInitialized
        rw [readied]
        exact ⟨device, [], by simp, rfl⟩
  | pollDriver nowMs laterMs mqttConnected =>
      exact .inl (program.pollDriver_moved driver nowMs laterMs mqttConnected)
  | publishCloud nowMs laterMs =>
      refine .inl ?_
      unfold step
      dsimp only
      split <;> exact .refl driver program
  | ethernet event =>
      obtain ⟨_, linked⟩ := program.onEthernet_eq event
      rw [step, linked]
      exact .inl (.refl driver program)
  | restart boot => exact .inr ⟨program.flash, boot, rfl⟩

/-- Every start has its identity registers show the configuration. -/
theorem identified_setup (flash : Flash) (device : Device) (boot : BootInput) :
    Identified (setup driver fromString build flash device boot).firmware.node := by
  obtain ⟨device', booted⟩ := setup_firmware driver fromString build flash device boot
  rw [booted]
  exact Firmware.identified_step _ _ _ (.ofConfig (loadConfig flash))

variable {program}

theorem identified_step (identified : Identified program.firmware.node) (event : NodeEvent) :
    Identified (program.step driver fromString build event).firmware.node := by
  rcases program.step_moved driver fromString build event with
    ⟨device, events, -, moved⟩ | ⟨flash, boot, started⟩
  · rw [moved]
    have onDevice : Identified { program.firmware with device := device }.node := identified
    exact run_invariant (Firmware.step driver.toIDeviceDriver)
      (fun firmware => Identified firmware.node)
      (fun firmware event => Firmware.identified_step _ firmware event) onDevice events
  · rw [started]
    exact identified_setup driver fromString build flash _ boot

end Moves

end NodeProgram

end GridexEdge.Node
