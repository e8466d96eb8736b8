import GridexEdge.Core.ZeroFallback

/-!
What one tick adds to the history: its poll, a heartbeat where one is due, and at most
one setpoint.
-/

namespace GridexEdge.Core

open Foundation

/-- A snapshot after a failed setpoint write. -/
def ControllerSnapshot.writeFailed (snapshot : ControllerSnapshot) : ControllerSnapshot :=
  { snapshot with
    state := .fault
    command := { snapshot.command with
      appliedPowerKw := 0
      clamped := true
      reason := "PCS command write failed" } }

/-- A cabinet that answers and acknowledges everything, with every fault clear and
both power limits as given. -/
def cabinetInOrder (limits : UInt16) : IModbusClient Unit where
  readInput address _ :=
    (if address = Registers.bmsMaxChargePower ∨ address = Registers.bmsMaxDischargePower then
        some limits
      else if address = Registers.bmsSoc then some 500
      else some 0, ())
  readInputRange _ _ _ := (some [0, 0, 0, 0], ())
  readHolding address _ := (some (if address = Registers.pcsGridMode then 0 else 1), ())
  readCoil _ _ := (some false, ())
  writeHolding _ _ _ := (true, ())

namespace ControlLoop

variable {Device : Type} (client : IModbusClient Device) (loop : ControlLoop Device)
  (now : SteadyTime)

def added : List Occurrence := since loop.bus.history (loop.tick client now).2.bus.history

/-- What the envelope is asked in the next tick. -/
def decision : SafetyInput :=
  loop.controller.safetyInput (loop.upcoming client) (loop.controller.emsConnected now)
    (loop.beat client now).1

def decidedPowerKw : ℚ := (SafetyEnvelope.apply (loop.decision client now)).appliedPowerKw

/-- The decided power goes out to the cabinet. -/
def SendsSetpoint : Prop :=
  (loop.upcoming client).controlReady = true ∧
    (loop.polled client).AdmitsPower (loop.decidedPowerKw client now)

/-- What the tick reports unless the write fails. -/
def decided : ControllerSnapshot :=
  { state := EdgeController.tickState (loop.upcoming client) (loop.controller.emsConnected now)
      (loop.beat client now).1
    battery := loop.upcoming client
    command := SafetyEnvelope.apply (loop.decision client now)
    emsConnected := loop.controller.emsConnected now
    heartbeatOk := (loop.beat client now).1 }

/-- The outcome of the setpoint write, where there is one. -/
def sent : Bool × Bus Device :=
  (loop.beat client now).2.2.write client Registers.pcsPowerCommand
    (encodeSigned (loop.decidedPowerKw client now) 10)

theorem polled_writesEnabled :
    (loop.polled client).writesEnabled = loop.driver.writesEnabled := by
  unfold polled SunStoragePro261Driver.writesEnabled
  rw [SunStoragePro261Driver.cache_approval]

/-- What the heartbeat of a tick writes. -/
structure Beats (beats : List Occurrence) : Prop where
  noSetpoint : setpointWrites beats = []
  refreshed : loop.driver.writesEnabled = true →
    (∀ occurrence ∈ beats, occurrence.Acknowledged) → (loop.beat client now).1 = true

theorem beat_history :
    ∃ beats, (loop.beat client now).2.2.history =
        beats ++ .poll (loop.bus.poll client).1 :: loop.bus.history ∧
      loop.Beats client now beats := by
  have enabledAlike := loop.polled_writesEnabled client
  by_cases due : loop.controller.heartbeatDue now = true
  · have beaten : loop.beat client now =
        let refreshed := (loop.polled client).refreshHeartbeat client
          loop.controller.config.heartbeatTimeoutSeconds (loop.bus.poll client).2
        (refreshed.1, if refreshed.1 then { loop.controller with lastHeartbeatAt := some now }
          else loop.controller, refreshed.2) := by
      rw [beat, EdgeController.heartbeat, if_pos due]
    rcases (loop.polled client).refreshHeartbeat_cases client (loop.bus.poll client).2
      loop.controller.config.heartbeatTimeoutSeconds with
      ⟨locked, same⟩ | ⟨-, -, history⟩ | ⟨-, history⟩
    · refine ⟨[], by rw [beaten, same]; rfl, rfl, fun enabled => ?_⟩
      rw [← enabledAlike, locked] at enabled
      exact absurd enabled (by simp)
    · refine ⟨[_], by rw [beaten]; exact history, rfl, fun _ acknowledged => ?_⟩
      exact absurd (acknowledged _ List.mem_cons_self) (by simp [Occurrence.Acknowledged])
    · refine ⟨[_, _], by rw [beaten]; exact history, rfl, fun _ acknowledged => ?_⟩
      rw [beaten]
      exact acknowledged _ List.mem_cons_self
  · have idle : loop.beat client now = (true, loop.controller, (loop.bus.poll client).2) := by
      rw [beat, EdgeController.heartbeat, if_neg due]
    rw [idle]
    exact ⟨[], rfl, rfl, fun _ _ => by rw [idle]⟩

variable {client loop now}

theorem settled_of_sends (sends : loop.SendsSetpoint client now) :
    loop.settled client now =
      (if (loop.sent client now).1 then loop.decided client now
        else (loop.decided client now).writeFailed, (loop.sent client now).2) := by
  have written := SunStoragePro261Driver.writePowerSetpointKw_of_admits client
    (loop.polled client) (loop.beat client now).2.2 sends.2
  have enabled := sends.2.1
  unfold decidedPowerKw decision at written
  unfold settled EdgeController.settle
  dsimp only
  rw [enabled, sends.1, written]
  simp only [Bool.not_true, Bool.false_eq_true, if_false, if_true]
  unfold sent decidedPowerKw decision
  split <;> rfl

/-- Where nothing goes out behind the control gate, the tick says that it failed. -/
theorem settled_of_not_sends (enabled : loop.driver.writesEnabled = true)
    (silent : ¬loop.SendsSetpoint client now) :
    loop.settled client now =
      (if (loop.upcoming client).controlReady then (loop.decided client now).writeFailed
        else loop.decided client now, (loop.beat client now).2.2) := by
  unfold settled EdgeController.settle
  dsimp only
  rw [if_neg (by rw [polled_writesEnabled, enabled]; simp)]
  by_cases ready : (loop.upcoming client).controlReady = true
  · have refused := SunStoragePro261Driver.writePowerSetpointKw_of_not_admits client
      (loop.polled client) (loop.beat client now).2.2 fun admitted => silent ⟨ready, admitted⟩
    unfold decidedPowerKw decision at refused
    rw [if_pos ready, if_pos ready, refused]
    rfl
  · rw [if_neg ready, if_neg ready]
    rfl

theorem tick_history_of_sends (sends : loop.SendsSetpoint client now) :
    (loop.tick client now).2.bus.history =
      .write Registers.pcsPowerCommand (encodeSigned (loop.decidedPowerKw client now) 10)
        (loop.sent client now).1 :: (loop.beat client now).2.2.history := by
  rw [tick_eq, settled_of_sends sends]
  rfl

theorem tick_history_of_not_sends (silent : ¬loop.SendsSetpoint client now) :
    (loop.tick client now).2.bus.history = (loop.beat client now).2.2.history := by
  rw [tick_eq]
  rcases EdgeController.settle_cases client loop.controller (loop.polled client)
    (loop.beat client now).2.2 (loop.upcoming client) (loop.controller.emsConnected now)
    (loop.beat client now).1 with kept | ⟨ready, admitted, -⟩
  · exact congrArg Bus.history kept
  · exact absurd ⟨ready, admitted⟩ silent

theorem added_of_sends (sends : loop.SendsSetpoint client now) :
    ∃ beats, loop.added client now =
        .write Registers.pcsPowerCommand (encodeSigned (loop.decidedPowerKw client now) 10)
          (loop.sent client now).1 :: (beats ++ [.poll (loop.bus.poll client).1]) ∧
      loop.Beats client now beats := by
  obtain ⟨beats, history, beating⟩ := loop.beat_history client now
  have whole : (loop.tick client now).2.bus.history =
      (.write Registers.pcsPowerCommand (encodeSigned (loop.decidedPowerKw client now) 10)
        (loop.sent client now).1 :: (beats ++ [.poll (loop.bus.poll client).1])) ++
        loop.bus.history := by
    rw [tick_history_of_sends sends, history]
    simp
  exact ⟨beats, by rw [added, whole, since_append], beating⟩

theorem added_of_not_sends (silent : ¬loop.SendsSetpoint client now) :
    ∃ beats, loop.added client now = beats ++ [.poll (loop.bus.poll client).1] ∧
      loop.Beats client now beats := by
  obtain ⟨beats, history, beating⟩ := loop.beat_history client now
  have whole : (loop.tick client now).2.bus.history =
      (beats ++ [.poll (loop.bus.poll client).1]) ++ loop.bus.history := by
    rw [tick_history_of_not_sends silent, history]
    simp
  exact ⟨beats, by rw [added, whole, since_append], beating⟩

theorem setpointWrites_of_sends (sends : loop.SendsSetpoint client now) :
    setpointWrites (loop.added client now) =
      [(encodeSigned (loop.decidedPowerKw client now) 10, (loop.sent client now).1)] := by
  obtain ⟨beats, added, beating⟩ := added_of_sends sends
  have none_ := beating.noSetpoint
  unfold setpointWrites at none_ ⊢
  rw [added, List.filterMap_cons, List.filterMap_append, none_]
  rfl

theorem setpointWrites_of_not_sends (silent : ¬loop.SendsSetpoint client now) :
    setpointWrites (loop.added client now) = [] := by
  obtain ⟨beats, added, beating⟩ := added_of_not_sends silent
  have none_ := beating.noSetpoint
  unfold setpointWrites at none_ ⊢
  rw [added, List.filterMap_append, none_]
  rfl

/-- In a tick in which every write is acknowledged, the heartbeat is fresh. -/
theorem beat_of_acknowledged (enabled : loop.driver.writesEnabled = true)
    (acknowledged : ∀ occurrence ∈ loop.added client now, occurrence.Acknowledged) :
    (loop.beat client now).1 = true := by
  by_cases sends : loop.SendsSetpoint client now
  · obtain ⟨beats, added, beating⟩ := added_of_sends sends
    apply beating.refreshed enabled
    exact fun occurrence member => acknowledged occurrence (by rw [added]; simp [member])
  · obtain ⟨beats, added, beating⟩ := added_of_not_sends sends
    apply beating.refreshed enabled
    exact fun occurrence member => acknowledged occurrence (by rw [added]; simp [member])

/-- Behind the control and limit gates every decided power goes out. -/
theorem sends_iff (enabled : loop.driver.writesEnabled = true) :
    loop.SendsSetpoint client now ↔
      (loop.upcoming client).controlReady = true ∧ (loop.upcoming client).limitsValid = true := by
  constructor
  · rintro ⟨ready, -, -, limits, -⟩
    obtain ⟨-, cacheLimits, -⟩ := report_cache loop.driver ready
    exact ⟨ready, cacheLimits.symm.trans limits⟩
  · rintro ⟨ready, limits⟩
    obtain ⟨cacheReady, cacheLimits, -⟩ := report_cache loop.driver ready
    exact ⟨ready, (loop.polled_writesEnabled client).trans enabled, cacheReady,
      cacheLimits.trans limits, apply_not_exceedsLimits loop.driver _ rfl ready⟩

theorem sends_of_open (enabled : loop.driver.writesEnabled = true)
    (opened : (loop.decision client now).Open) : loop.SendsSetpoint client now :=
  (sends_iff enabled).mpr ⟨opened.2.2.2, opened.2.2.1⟩

end ControlLoop

end GridexEdge.Core
