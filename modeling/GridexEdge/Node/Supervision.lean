import GridexEdge.Foundation.Throttle
import GridexEdge.Node.ProgramFirmware

/-!
The two jobs that the loop holds apart by the clock: the polls of the driver, which the
heartbeat counts, and the recoveries of the device bus.

The clock is the wrapping counter of milliseconds, which starts with the program.
-/

namespace GridexEdge.Node

open Foundation

/-- The readings of the clock that an event carries. -/
def NodeEvent.Reads : NodeEvent → TimedCall → Prop
  | .pollDriver nowMs laterMs _, call => nowMs = clock call.start ∧ laterMs = clock call.finish
  | .superviseDeviceBus nowMs _, call => nowMs = clock call.start ∧ call.start = call.finish
  | _, _ => True

structure TimedEvent where
  event : NodeEvent
  call : TimedCall
  reads : event.Reads call

namespace NodeProgram

section Supervision

variable {Device : Type} (driver : DeviceDriver Device)
  (fromString : List UInt8 → Option UInt32) (build : InstalledDriver)
  (program : NodeProgram Device)

def timedStep (timed : TimedEvent) : NodeProgram Device :=
  program.step driver fromString build timed.event

/-- The program is not restarted, from outside or by a command. -/
def Uninterrupted : NodeEvent → Prop
  | .restart _ => False
  | .serial value calls _ _ => ∀ raw, (program.serialLine.push value).1 = some raw →
      restarts calls (.ofLine raw) = false
  | _ => True

def heartbeat : UInt16 := program.firmware.node.registerValue Reg.heartbeat

/-- The calls that poll the driver, each as often as it does. -/
def polled (timed : TimedEvent) : List TimedCall :=
  List.replicate ((program.timedStep driver fromString build timed).samples.length -
    program.samples.length) timed.call

/-- The calls that try to recover the bus. -/
def recovered (timed : TimedEvent) : List TimedCall :=
  match timed.event with
  | .superviseDeviceBus nowMs _ => if program.recoversBus driver nowMs then [timed.call] else []
  | _ => []

/-- A poll is always wanted. -/
def pollAsk (timed : TimedEvent) : Option Throttle.Ask :=
  match timed.event with
  | .pollDriver _ _ _ => some (timed.call, true)
  | _ => none

/-- A recovery is wanted while a driver that needs the bus is not ready or not healthy. -/
def busAsk (timed : TimedEvent) : Option Throttle.Ask :=
  match timed.event with
  | .superviseDeviceBus _ _ =>
      some (timed.call,
        program.requiresDeviceBus driver && !(program.driverReady && program.healthy driver))
  | _ => none

/-! ### One event -/

/-- What an event that is neither of the two jobs leaves alone. -/
structure SameSupervision (before after : NodeProgram Device) : Prop where
  lastPollMs : after.lastPollMs = before.lastPollMs
  lastBusRecoveryMs : after.lastBusRecoveryMs = before.lastBusRecoveryMs
  busRecoveries : after.busRecoveries = before.busRecoveries
  samples : after.samples = before.samples
  heartbeat : after.heartbeat = before.heartbeat

theorem SameSupervision.refl : SameSupervision program program := ⟨rfl, rfl, rfl, rfl, rfl⟩

/-- Only the counters of a poll write the heartbeat. -/
theorem heartbeat_firmware (driver : IDeviceDriver Device) (firmware : Firmware Device)
    (identified : Identified firmware.node) (event : FirmwareEvent)
    (other : ∀ uptimeSeconds cloudConnected,
      event ≠ .publishCounters uptimeSeconds cloudConnected) :
    (firmware.step driver event).node.registerValue Reg.heartbeat =
      firmware.node.registerValue Reg.heartbeat := by
  cases event with
  | controlLoop input =>
      have isolated := loop_isolated firmware.server input identified.applyConfiguration
      exact isolated.registers Reg.heartbeat (by decide)
  | restartControl => rfl
  | setRockPiAddress address => rfl
  | provisionNode address type driverId =>
      rcases firmware.provisionNode_node address type driverId with same | provisioned
      · rw [Firmware.step, same]
      · rw [Firmware.step, provisioned]
        exact MbusNode.registerValue_provision_of_not_mem _ _ _ _ (by decide)
  | applyCommand nowMs =>
      apply Firmware.applyCommand_node driver fun node =>
        node.registerValue Reg.heartbeat = firmware.node.registerValue Reg.heartbeat
      · intro node applied result before
        rw [MbusNode.registerValue_setRegisters_of_not_mem _ (by simp +decide), before]
      · rfl
  | persistNodeConfig => rfl
  | publishDriverSample sample =>
      exact MbusNode.registerValue_setRegisters_of_not_mem _ (by simp +decide [sampleRegisters])
  | publishHealthRegisters health =>
      exact MbusNode.registerValue_setRegisters_of_not_mem _ (by simp +decide [healthRegisters])
  | publishCounters uptimeSeconds cloudConnected =>
      exact absurd rfl (other uptimeSeconds cloudConnected)

/-- A poll publishes its sample and the health first. -/
theorem heartbeat_published (node : MbusNode) (sample : DriverSample) (health : Health)
    (uptimeSeconds : UInt32) (cloudConnected : Bool) :
    let shown := (node.setRegisters (sampleRegisters sample)).setRegisters (healthRegisters health)
    (shown.setRegisters (counterRegisters shown uptimeSeconds cloudConnected)).registerValue
        Reg.heartbeat =
      node.registerValue Reg.heartbeat + 1 := by
  intro shown
  have same : shown.registerValue Reg.heartbeat = node.registerValue Reg.heartbeat := by
    rw [MbusNode.registerValue_setRegisters_of_not_mem _ (by simp +decide [healthRegisters]),
      MbusNode.registerValue_setRegisters_of_not_mem _ (by simp +decide [sampleRegisters])]
  rw [← same]
  exact MbusNode.registerValue_setRegisters_of_mem _ (by simp +decide [counterRegisters])
    (by simp [counterRegisters]) (by decide)

variable {program}

theorem provisionNode_supervision (arguments : List UInt8) (stored : StoredFields)
    (identified : Identified program.firmware.node) :
    SameSupervision program (program.provisionNode arguments stored) := by
  have heartbeat : (program.provisionNode arguments stored).heartbeat = program.heartbeat := by
    rw [NodeProgram.heartbeat, provisionNode_firmware]
    split
    · rfl
    · next scanned _ =>
        exact heartbeat_firmware ⟨fun _ device => (false, device)⟩ program.firmware identified
          (.provisionNode scanned.address scanned.type scanned.driverId) (by simp)
  refine ⟨?_, ?_, ?_, ?_, heartbeat⟩ <;>
    · unfold provisionNode
      split
      · rfl
      · split
        · rfl
        · split <;> rfl

theorem processProvisioningLine_supervision (calls : ProvisioningCalls) (stored : StoredFields)
    (boot : BootInput) (command : ProvisioningCommand)
    (identified : Identified program.firmware.node) (continues : restarts calls command = false) :
    SameSupervision program
      (program.processProvisioningLine driver fromString build calls stored boot command) := by
  cases command with
  | node arguments => exact provisionNode_supervision arguments stored identified
  | rockPi value =>
      cases read : fromString value with
      | none =>
          simp only [processProvisioningLine, read]
          exact .refl program
      | some address =>
          simp only [processProvisioningLine, read]
          split
          · exact .refl program
          · exact ⟨rfl, rfl, rfl, rfl, rfl⟩
  | help => exact ⟨rfl, rfl, rfl, rfl, rfl⟩
  | status => exact ⟨rfl, rfl, rfl, rfl, rfl⟩
  | unsupported => exact ⟨rfl, rfl, rfl, rfl, rfl⟩
  | otaClear =>
      simp only [processProvisioningLine, continues, Bool.false_eq_true, if_false]
      exact ⟨rfl, rfl, rfl, rfl, rfl⟩
  | otaKey token =>
      simp only [processProvisioningLine, continues, Bool.false_eq_true, if_false]
      exact ⟨rfl, rfl, rfl, rfl, rfl⟩

/-- Another event than the two jobs touches nothing of them. -/
theorem step_supervision (event : NodeEvent) (identified : Identified program.firmware.node)
    (uninterrupted : program.Uninterrupted event)
    (noPoll : ∀ nowMs laterMs mqttConnected, event ≠ .pollDriver nowMs laterMs mqttConnected)
    (noRecovery : ∀ nowMs busInitialized, event ≠ .superviseDeviceBus nowMs busInitialized) :
    SameSupervision program (program.step driver fromString build event) := by
  have moved : ∀ moved : FirmwareEvent,
      (∀ uptimeSeconds cloudConnected, moved ≠ .publishCounters uptimeSeconds cloudConnected) →
      (program.firmware.step driver.toIDeviceDriver moved).node.registerValue Reg.heartbeat =
        program.heartbeat :=
    heartbeat_firmware driver.toIDeviceDriver program.firmware identified
  cases event with
  | serial value calls stored boot =>
      unfold step serial
      dsimp only
      split
      · exact ⟨rfl, rfl, rfl, rfl, rfl⟩
      · next raw pushed =>
          have same := @processProvisioningLine_supervision Device driver fromString build
            { program with serialLine := (program.serialLine.push value).2 } calls stored boot
            (.ofLine raw) identified (uninterrupted raw pushed)
          exact ⟨same.lastPollMs, same.lastBusRecoveryMs, same.busRecoveries, same.samples,
            same.heartbeat⟩
  | controlLoop input => exact ⟨rfl, rfl, rfl, rfl, moved (.controlLoop input) (by simp)⟩
  | restartControl =>
      unfold step
      dsimp only
      split
      · exact ⟨rfl, rfl, rfl, rfl, rfl⟩
      · exact .refl program
  | applyCommand nowMs => exact ⟨rfl, rfl, rfl, rfl, moved (.applyCommand nowMs) (by simp)⟩
  | persistNodeConfig stored => exact ⟨rfl, rfl, rfl, rfl, rfl⟩
  | superviseDeviceBus nowMs busInitialized => exact absurd rfl (noRecovery nowMs busInitialized)
  | pollDriver nowMs laterMs mqttConnected => exact absurd rfl (noPoll nowMs laterMs mqttConnected)
  | publishCloud nowMs laterMs =>
      unfold step
      dsimp only
      split
      · exact ⟨rfl, rfl, rfl, rfl, rfl⟩
      · exact .refl program
  | ethernet event => cases event <;> exact ⟨rfl, rfl, rfl, rfl, rfl⟩
  | restart boot => exact uninterrupted.elim

/-- A poll is counted by the heartbeat, and sets its own clock. -/
theorem pollDriver_supervision (nowMs laterMs : UInt32) (mqttConnected : Bool) :
    (program.pollDriver driver nowMs laterMs mqttConnected).lastPollMs =
        (if program.polls nowMs then laterMs else program.lastPollMs) ∧
      (program.pollDriver driver nowMs laterMs mqttConnected).lastBusRecoveryMs =
        program.lastBusRecoveryMs ∧
      (program.pollDriver driver nowMs laterMs mqttConnected).busRecoveries =
        program.busRecoveries ∧
      (program.pollDriver driver nowMs laterMs mqttConnected).samples.length =
        (if program.polls nowMs then program.samples.length + 1 else program.samples.length) ∧
      (program.pollDriver driver nowMs laterMs mqttConnected).heartbeat =
        (if program.polls nowMs then program.heartbeat + 1 else program.heartbeat) := by
  unfold pollDriver
  cases polls : program.polls nowMs with
  | false => exact ⟨rfl, rfl, rfl, rfl, rfl⟩
  | true =>
      obtain ⟨device, polled⟩ := program.pollSample_eq driver
      rw [Bool.not_true, if_neg Bool.false_ne_true, if_pos rfl, if_pos rfl, if_pos rfl]
      dsimp only [publishHealthRegisters]
      rw [polled]
      exact ⟨rfl, rfl, rfl, rfl, heartbeat_published program.firmware.node _ _ _ _⟩

/-- A recovery is counted, and sets its own clock. -/
theorem superviseDeviceBus_supervision (nowMs : UInt32) (busInitialized : Bool) :
    (program.superviseDeviceBus driver nowMs busInitialized).lastPollMs = program.lastPollMs ∧
      (program.superviseDeviceBus driver nowMs busInitialized).lastBusRecoveryMs =
        (if program.recoversBus driver nowMs then nowMs else program.lastBusRecoveryMs) ∧
      (program.superviseDeviceBus driver nowMs busInitialized).busRecoveries =
        (if program.recoversBus driver nowMs then program.busRecoveries + 1
          else program.busRecoveries) ∧
      (program.superviseDeviceBus driver nowMs busInitialized).samples = program.samples ∧
      (program.superviseDeviceBus driver nowMs busInitialized).heartbeat = program.heartbeat := by
  unfold superviseDeviceBus
  cases recovers : program.recoversBus driver nowMs with
  | false => exact ⟨rfl, rfl, rfl, rfl, rfl⟩
  | true =>
      obtain ⟨device, readied⟩ := readyDriver_eq driver
        { program with lastBusRecoveryMs := nowMs } busInitialized
      rw [readied]
      exact ⟨rfl, rfl, rfl, rfl, rfl⟩

/-! ### Runs -/

/-- A start has done nothing yet. -/
theorem setup_supervision (flash : Flash) (device : Device) (boot : BootInput) :
    (setup driver fromString build flash device boot).lastPollMs = 0 ∧
      (setup driver fromString build flash device boot).lastBusRecoveryMs = 0 ∧
      (setup driver fromString build flash device boot).busRecoveries = 0 ∧
      (setup driver fromString build flash device boot).heartbeat = 0 := by
  obtain ⟨device', link, started⟩ := setup_eq driver fromString build flash device boot
  obtain ⟨device'', booted⟩ := setup_firmware driver fromString build flash device boot
  refine ⟨?_, ?_, ?_, ?_⟩
  · rw [started]
    rfl
  · rw [started]
    rfl
  · rw [started]
    rfl
  · rw [heartbeat, booted]
    refine (heartbeat_firmware driver.toIDeviceDriver _ (.ofConfig (loadConfig flash)) _
      (by simp)).trans ?_
    change (MbusNode.ofConfig (loadConfig flash)).registerValue Reg.heartbeat = 0
    rw [MbusNode.ofConfig, MbusNode.initializeIdentity,
      MbusNode.registerValue_setRegisters_of_not_mem _ (by simp +decide)]
    simp +decide [MbusNode.registerValue]

/-- What is known of the program wherever an event of an uninterrupted run meets it. -/
def Supervised (program : NodeProgram Device) (timed : TimedEvent) : Prop :=
  Identified program.firmware.node ∧ program.Uninterrupted timed.event

theorem along_supervised {events : List TimedEvent} (identified : Identified program.firmware.node)
    (uninterrupted : Along (timedStep driver fromString build)
      (fun program timed => program.Uninterrupted timed.event) program events) :
    Along (timedStep driver fromString build) Supervised program events := by
  refine (along_congr (timedStep driver fromString build)
    (fun program : NodeProgram Device => Identified program.firmware.node)
    (fun program timed known => ?_) (fun program timed known _ => ?_) identified events).mp
    uninterrupted
  · exact (and_iff_right known).symm
  · exact identified_step driver fromString build known timed.event

theorem polled_of_same {timed : TimedEvent}
    (same : (program.timedStep driver fromString build timed).samples = program.samples) :
    program.polled driver fromString build timed = [] := by
  rw [polled, same, Nat.sub_self, List.replicate_zero]

/-- The guard of the loop decides whether a pass polls. -/
theorem polled_pollDriver {nowMs laterMs : UInt32} {mqttConnected : Bool} {call : TimedCall}
    (reads : (NodeEvent.pollDriver nowMs laterMs mqttConnected).Reads call) :
    program.polled driver fromString build ⟨.pollDriver nowMs laterMs mqttConnected, call, reads⟩ =
      if program.polls nowMs then [call] else [] := by
  have length : (program.timedStep driver fromString build
      ⟨.pollDriver nowMs laterMs mqttConnected, call, reads⟩).samples.length = _ :=
    (pollDriver_supervision driver nowMs laterMs mqttConnected).2.2.2.1
  rw [polled, length]
  cases program.polls nowMs with
  | true => rw [if_pos rfl, if_pos rfl, Nat.add_sub_cancel_left, List.replicate_one]
  | false => rw [if_neg Bool.false_ne_true, if_neg Bool.false_ne_true, Nat.sub_self,
      List.replicate_zero]

theorem polled_eq_openings {events : List TimedEvent}
    (supervised : Along (timedStep driver fromString build) Supervised program events) :
    outputs (timedStep driver fromString build) (polled driver fromString build) program events =
      Throttle.openings 500 program.lastPollMs
        (outputs (timedStep driver fromString build) (fun _ timed => (pollAsk timed).toList) program
          events) := by
  apply Throttle.outputs_eq_openings _ _ supervised
  · rintro program ⟨event, call, reads⟩ ⟨identified, uninterrupted⟩ unasked
    cases event with
    | pollDriver nowMs laterMs mqttConnected => exact absurd unasked (by simp [pollAsk])
    | superviseDeviceBus nowMs busInitialized =>
        have same := @superviseDeviceBus_supervision Device driver program nowMs busInitialized
        exact ⟨same.1, polled_of_same driver fromString build same.2.2.2.1⟩
    | _ =>
        have same := step_supervision driver fromString build _ identified uninterrupted (by simp)
          (by simp)
        exact ⟨same.lastPollMs, polled_of_same driver fromString build same.samples⟩
  · rintro program ⟨event, call, reads⟩ asked ⟨identified, uninterrupted⟩ isAsked
    cases event with
    | pollDriver nowMs laterMs mqttConnected =>
        obtain ⟨rfl, rfl⟩ := reads
        cases isAsked
        exact ⟨(@pollDriver_supervision Device driver program _ _ mqttConnected).1,
          polled_pollDriver driver fromString build ⟨rfl, rfl⟩⟩
    | _ => exact absurd isAsked (by simp [pollAsk])

theorem recovered_eq_openings {events : List TimedEvent}
    (supervised : Along (timedStep driver fromString build) Supervised program events) :
    outputs (timedStep driver fromString build) (recovered driver) program events =
      Throttle.openings 30000 program.lastBusRecoveryMs
        (outputs (timedStep driver fromString build) (fun program timed =>
          (program.busAsk driver timed).toList) program events) := by
  apply Throttle.outputs_eq_openings _ _ supervised
  · rintro program ⟨event, call, reads⟩ ⟨identified, uninterrupted⟩ unasked
    cases event with
    | pollDriver nowMs laterMs mqttConnected =>
        exact ⟨(pollDriver_supervision driver nowMs laterMs mqttConnected).2.1, rfl⟩
    | superviseDeviceBus nowMs busInitialized => exact absurd unasked (by simp [busAsk])
    | _ =>
        exact ⟨(step_supervision driver fromString build _ identified uninterrupted (by simp)
          (by simp)).lastBusRecoveryMs, rfl⟩
  · rintro program ⟨event, ⟨start, finish, ordered⟩, reads⟩ asked ⟨identified, uninterrupted⟩
      isAsked
    cases event with
    | superviseDeviceBus nowMs busInitialized =>
        obtain ⟨rfl, same⟩ := reads
        dsimp only at same
        subst same
        cases isAsked
        exact ⟨(@superviseDeviceBus_supervision Device driver program (clock start)
          busInitialized).2.1, rfl⟩
    | _ => exact absurd isAsked (by simp [busAsk])

theorem heartbeat_run {events : List TimedEvent}
    (supervised : Along (timedStep driver fromString build) Supervised program events) :
    (run (timedStep driver fromString build) program events).heartbeat =
      program.heartbeat + UInt16.ofNat
        (outputs (timedStep driver fromString build) (polled driver fromString build) program
          events).length := by
  apply Throttle.count_run _ supervised
  rintro program ⟨event, call, reads⟩ ⟨identified, uninterrupted⟩
  cases event with
  | pollDriver nowMs laterMs mqttConnected =>
      refine (pollDriver_supervision driver nowMs laterMs mqttConnected).2.2.2.2.trans ?_
      rw [polled_pollDriver]
      cases program.polls nowMs with
      | true => rfl
      | false => exact (UInt16.add_zero _).symm
  | superviseDeviceBus nowMs busInitialized =>
      have same := @superviseDeviceBus_supervision Device driver program nowMs busInitialized
      have silent : program.polled driver fromString build
          ⟨.superviseDeviceBus nowMs busInitialized, call, reads⟩ = [] :=
        polled_of_same driver fromString build same.2.2.2.1
      rw [silent]
      exact same.2.2.2.2.trans (UInt16.add_zero _).symm
  | _ =>
      have same := step_supervision driver fromString build _ identified uninterrupted (by simp)
        (by simp)
      have silent : program.polled driver fromString build ⟨_, call, reads⟩ = [] :=
        polled_of_same driver fromString build same.samples
      rw [silent]
      exact same.heartbeat.trans (UInt16.add_zero _).symm

theorem busRecoveries_run {events : List TimedEvent}
    (supervised : Along (timedStep driver fromString build) Supervised program events) :
    (run (timedStep driver fromString build) program events).busRecoveries =
      program.busRecoveries + UInt16.ofNat
        (outputs (timedStep driver fromString build) (recovered driver) program events).length := by
  apply Throttle.count_run _ supervised
  rintro program ⟨event, call, reads⟩ ⟨identified, uninterrupted⟩
  cases event with
  | pollDriver nowMs laterMs mqttConnected =>
      exact (pollDriver_supervision driver nowMs laterMs mqttConnected).2.2.1.trans
        (UInt16.add_zero _).symm
  | superviseDeviceBus nowMs busInitialized =>
      refine (superviseDeviceBus_supervision driver nowMs busInitialized).2.2.1.trans ?_
      dsimp only [recovered]
      cases program.recoversBus driver nowMs with
      | true => rfl
      | false => exact (UInt16.add_zero _).symm
  | _ =>
      exact (step_supervision driver fromString build _ identified uninterrupted (by simp)
        (by simp)).busRecoveries.trans (UInt16.add_zero _).symm

/-- The calls of the loop that may poll. -/
def pollCalls (events : List TimedEvent) : List TimedCall :=
  events.filterMap fun timed => (pollAsk timed).map Prod.fst

theorem pollCalls_cons (timed : TimedEvent) (rest : List TimedEvent) :
    pollCalls (timed :: rest) = ((pollAsk timed).map Prod.fst).toList ++ pollCalls rest := by
  cases asked : pollAsk timed with
  | none => exact List.filterMap_cons_none (by rw [asked]; rfl)
  | some ask => exact List.filterMap_cons_some (by rw [asked]; rfl)

theorem outputs_pollAsk (events : List TimedEvent) :
    let asks := outputs (timedStep driver fromString build) (fun _ timed => (pollAsk timed).toList)
      program events
    asks.map Prod.fst = pollCalls events ∧ ∀ ask ∈ asks, ask.2 = true := by
  induction events generalizing program with
  | nil => exact ⟨rfl, fun _ member => absurd member List.not_mem_nil⟩
  | cons timed rest inductionHypothesis =>
      obtain ⟨calls, wanted⟩ :=
        @inductionHypothesis (program.timedStep driver fromString build timed)
      dsimp only [outputs]
      rw [List.map_append, calls, pollCalls_cons]
      cases asked : pollAsk timed with
      | none => exact ⟨rfl, wanted⟩
      | some ask =>
          refine ⟨rfl, fun other member => ?_⟩
          rcases List.mem_cons.mp member with rfl | later
          · obtain ⟨event, call, reads⟩ := timed
            cases event with
            | pollDriver nowMs laterMs mqttConnected =>
                cases asked
                rfl
            | _ => exact absurd asked (by simp [pollAsk])
          · exact wanted other later

section Started

variable (flash : Flash) (device : Device) (boot : BootInput) {events : List TimedEvent}

/-- Between two starts the heartbeat counts the polls, which keep half a second apart over
every wrap of the clock. A loop that comes by before the clock has gone round polls
whenever half a second is over. -/
theorem heartbeat_counts_polls
    (uninterrupted : Along (timedStep driver fromString build)
      (fun program timed => program.Uninterrupted timed.event)
      (setup driver fromString build flash device boot) events)
    (chronological : Chronological 0 (events.map TimedEvent.call)) :
    let start := setup driver fromString build flash device boot
    let polls := outputs (timedStep driver fromString build) (polled driver fromString build) start
      events
    (run (timedStep driver fromString build) start events).heartbeat = UInt16.ofNat polls.length ∧
      Apart 500 0 polls ∧
      ∀ gap, gap + 500 ≤ 2 ^ 32 → Frequent gap 0 (pollCalls events) →
        polls = Throttle.due 500 0 (pollCalls events) := by
  intro start polls
  obtain ⟨lastPollMs, -, -, heartbeat⟩ :=
    setup_supervision driver fromString build flash device boot
  have supervised := along_supervised driver fromString build
    (identified_setup driver fromString build flash device boot) uninterrupted
  have openings := polled_eq_openings driver fromString build supervised
  rw [lastPollMs] at openings
  have counted := heartbeat_run driver fromString build supervised
  rw [heartbeat, UInt16.zero_add] at counted
  obtain ⟨calls, wanted⟩ := @outputs_pollAsk Device driver fromString build start events
  have inOrder : Chronological 0 (pollCalls events) := by
    rw [← calls]
    refine chronological.sublist (Throttle.sublist_asks ?_ start events)
    rintro _ ⟨event, call, reads⟩ asked isAsked
    cases event with
    | pollDriver nowMs laterMs mqttConnected =>
        cases isAsked
        rfl
    | _ => exact absurd isAsked (by simp [pollAsk])
  rw [← calls] at inOrder
  refine ⟨counted, ?_, fun gap fits frequent => ?_⟩
  · rw [show polls = _ from openings]
    exact Throttle.apart_openings 500 (Nat.le_refl 0) inOrder
  · rw [← calls] at frequent ⊢
    rw [show polls = _ from openings]
    exact Throttle.openings_eq_due 500 fits (Nat.le_refl 0) (by omega) inOrder frequent wanted

/-- Between two starts the device bus is recovered at most every thirty seconds over every
wrap of the clock, the first time thirty seconds after the start, and the attempts are
counted. As long as there is something to recover, a loop that comes by before the clock
has gone round tries whenever the thirty seconds are over. -/
theorem bus_recoveries_apart
    (uninterrupted : Along (timedStep driver fromString build)
      (fun program timed => program.Uninterrupted timed.event)
      (setup driver fromString build flash device boot) events)
    (chronological : Chronological 0 (events.map TimedEvent.call)) :
    let start := setup driver fromString build flash device boot
    let recoveries := outputs (timedStep driver fromString build) (recovered driver) start events
    let asks := outputs (timedStep driver fromString build)
      (fun program timed => (program.busAsk driver timed).toList) start events
    (run (timedStep driver fromString build) start events).busRecoveries =
        UInt16.ofNat recoveries.length ∧
      Apart 30000 0 recoveries ∧
      ∀ gap, gap + 30000 ≤ 2 ^ 32 → Frequent gap 0 (asks.map Prod.fst) →
        (∀ ask ∈ asks, ask.2 = true) →
        recoveries = Throttle.due 30000 0 (asks.map Prod.fst) := by
  intro start recoveries asks
  obtain ⟨-, lastBusRecoveryMs, busRecoveries, -⟩ :=
    setup_supervision driver fromString build flash device boot
  have supervised := along_supervised driver fromString build
    (identified_setup driver fromString build flash device boot) uninterrupted
  have openings := recovered_eq_openings driver fromString build supervised
  rw [lastBusRecoveryMs] at openings
  have counted := busRecoveries_run driver fromString build supervised
  rw [busRecoveries, UInt16.zero_add] at counted
  have inOrder : Chronological 0 (asks.map Prod.fst) := by
    refine chronological.sublist (Throttle.sublist_asks ?_ start events)
    rintro _ ⟨event, call, reads⟩ asked isAsked
    cases event with
    | superviseDeviceBus nowMs busInitialized =>
        cases isAsked
        rfl
    | _ => exact absurd isAsked (by simp [busAsk])
  refine ⟨counted, ?_, fun gap fits frequent wanted => ?_⟩
  · rw [show recoveries = _ from openings]
    exact Throttle.apart_openings 30000 (Nat.le_refl 0) inOrder
  · rw [show recoveries = _ from openings]
    exact Throttle.openings_eq_due 30000 fits (Nat.le_refl 0) (by omega) inOrder frequent wanted

end Started

end Supervision

/-! ### A driver that needs the bus -/

def busDriver : DeviceDriver Unit where
  applyPowerCommand _ device := (true, device)
  begins device := (true, device)
  poll device := ({}, device)
  requiresDeviceBus := true
  healthy _ := true

def coldBoot : BootInput where
  busInitialized := false
  watchdogReady := true
  linkUp := false

def coldStart : NodeProgram Unit :=
  setup busDriver (fun _ => none) .compiled { efuseMac := 0 } () coldBoot

def pollAt (start : Nat) : TimedEvent where
  event := .pollDriver (clock start) (clock start) false
  call := { start := start, finish := start, ordered := le_rfl }
  reads := ⟨rfl, rfl⟩

def superviseAt (start : Nat) : TimedEvent where
  event := .superviseDeviceBus (clock start) true
  call := { start := start, finish := start, ordered := le_rfl }
  reads := ⟨rfl, rfl⟩

/-- The second poll comes too early, and the third one after the clock has gone round. -/
theorem heartbeat_counts_polls_wrapped :
    let events := [pollAt 500, pollAt 900, pollAt (2 ^ 32 + 900)]
    (run (timedStep busDriver (fun _ => none) .compiled) coldStart events).heartbeat =
      UInt16.ofNat (outputs (timedStep busDriver (fun _ => none) .compiled)
        (polled busDriver (fun _ => none) .compiled) coldStart events).length :=
  (@heartbeat_counts_polls Unit busDriver (fun _ => none) .compiled { efuseMac := 0 } () coldBoot
    [pollAt 500, pollAt 900, pollAt (2 ^ 32 + 900)] ⟨trivial, trivial, trivial, trivial⟩
    ⟨by decide, by decide, by decide, trivial⟩).1

/-- The bus is down at the start, and comes up at the first attempt. -/
theorem bus_recoveries_apart_cold :
    let events := [superviseAt 20000, superviseAt 30000, superviseAt 70000]
    (run (timedStep busDriver (fun _ => none) .compiled) coldStart events).busRecoveries =
      UInt16.ofNat (outputs (timedStep busDriver (fun _ => none) .compiled) (recovered busDriver)
        coldStart events).length :=
  (@bus_recoveries_apart Unit busDriver (fun _ => none) .compiled { efuseMac := 0 } () coldBoot
    [superviseAt 20000, superviseAt 30000, superviseAt 70000] ⟨trivial, trivial, trivial, trivial⟩
    ⟨by decide, by decide, by decide, trivial⟩).1

end NodeProgram

end GridexEdge.Node
