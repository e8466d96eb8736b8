import GridexEdge.RockPi.MainLoop

/-!
The heartbeat that the cabinet watches, refreshed by the main loop.

A full acknowledgement arms the cabinet's watchdog for sixty seconds. The loop refreshes
it once thirty-five seconds are over, and again in every pass until that succeeds, so the
slack is what failing refreshes and the pace of the loop may use up.
-/

namespace GridexEdge.RockPi

open GridexEdge.Core Foundation

/-- When the watchdog was last armed, by the clock of the loop. -/
def lastRefresh : List Occurrence → Option SteadyTime
  | [] => none
  | .write address _ true :: earlier =>
      if address = Registers.heartbeatSeconds then currentTime earlier else lastRefresh earlier
  | _ :: earlier => lastRefresh earlier

def isHeartbeat (address : UInt16) : Bool :=
  address == Registers.heartbeatEnable || address == Registers.heartbeatSeconds

/-- The refreshes that have failed since then, each at one of its two writes. -/
def failedRefreshes : List Occurrence → Nat
  | [] => 0
  | .write address _ true :: earlier =>
      if address = Registers.heartbeatSeconds then 0 else failedRefreshes earlier
  | .write address _ false :: earlier =>
      if isHeartbeat address then failedRefreshes earlier + 1 else failedRefreshes earlier
  | _ :: earlier => failedRefreshes earlier

/-- A refresh begins only once the last one is thirty-five seconds old. -/
def SpacedRefresh (before : List Occurrence) : Occurrence → Prop
  | .write address _ _ =>
      address = Registers.heartbeatEnable → ∀ now refreshedAt, currentTime before = some now →
        lastRefresh before = some refreshedAt → seconds 35 ≤ now - refreshedAt
  | _ => True

/-- A pass begins before the gaps paid for are over: one for each refresh that has failed
and one for the pass itself. -/
def Timely (gap : Int) (before : List Occurrence) : Occurrence → Prop
  | .tick now => ∀ refreshedAt, lastRefresh before = some refreshedAt →
      now - refreshedAt < seconds 35 + (failedRefreshes before + 1) * gap
  | _ => True

/-- What the loop knows of the watchdog: when it was armed, and that the time since then
is covered by the refreshes that have failed. -/
structure Beating (gap : Int) (controller : EdgeController) (driver : SunStoragePro261Driver)
    (history : List Occurrence) : Prop where
  refresh : controller.config.heartbeatRefresh = seconds 35
  timeout : controller.config.heartbeatTimeoutSeconds = 60
  known : controller.lastHeartbeatAt = lastRefresh history
  enabled : ∀ refreshedAt, lastRefresh history = some refreshedAt → driver.writesEnabled = true
  age : ∀ refreshedAt, lastRefresh history = some refreshedAt → ∃ now,
    currentTime history = some now ∧
      now - refreshedAt < seconds 35 + failedRefreshes history * gap
  timely : Justified (Timely gap) history
  spaced : Justified SpacedRefresh history

theorem isHeartbeat_enable : isHeartbeat Registers.heartbeatEnable = true := by decide

theorem ne_of_not_isHeartbeat {address : UInt16} (other : isHeartbeat address = false) :
    address ≠ Registers.heartbeatSeconds ∧ address ≠ Registers.heartbeatEnable := by
  constructor
  · rintro rfl
    exact absurd other (by decide)
  · rintro rfl
    exact absurd other (by decide)

theorem lastRefresh_write {address value : UInt16} {acknowledged : Bool} {history : List Occurrence}
    (other : address ≠ Registers.heartbeatSeconds) :
    lastRefresh (.write address value acknowledged :: history) = lastRefresh history := by
  cases acknowledged with
  | true => rw [lastRefresh, if_neg other]
  | false => rfl

theorem failedRefreshes_write {address value : UInt16} {acknowledged : Bool}
    {history : List Occurrence} (other : isHeartbeat address = false) :
    failedRefreshes (.write address value acknowledged :: history) = failedRefreshes history := by
  cases acknowledged with
  | true => rw [failedRefreshes, if_neg (ne_of_not_isHeartbeat other).1]
  | false => rw [failedRefreshes, other, if_neg Bool.false_ne_true]

namespace Beating

variable {gap : Int} {controller : EdgeController} {driver : SunStoragePro261Driver}
  {history : List Occurrence}

theorem initial (gap : Int) (limit : ConfiguredPowerLimit) (approval : CommissioningApproval) :
    Beating gap { config := { configuredLimit := limit } } { approval := approval } [] where
  refresh := rfl
  timeout := rfl
  known := rfl
  enabled _ armed := nomatch armed
  age _ armed := nomatch armed
  timely := justified_nil
  spaced := justified_nil

/-- Nothing but the heartbeat registers and the clock of the loop matters. -/
theorem extend (beating : Beating gap controller driver history) {occurrence : Occurrence}
    {later : SunStoragePro261Driver} (approved : later.writesEnabled = driver.writesEnabled)
    (sameRefresh : lastRefresh (occurrence :: history) = lastRefresh history)
    (sameFailures : failedRefreshes (occurrence :: history) = failedRefreshes history)
    (sameTime : currentTime (occurrence :: history) = currentTime history)
    (inTime : Timely gap history occurrence) (permitted : SpacedRefresh history occurrence) :
    Beating gap controller later (occurrence :: history) where
  refresh := beating.refresh
  timeout := beating.timeout
  known := beating.known.trans sameRefresh.symm
  enabled refreshedAt armed := approved.trans (beating.enabled refreshedAt (sameRefresh ▸ armed))
  age refreshedAt armed := by
    rw [sameTime, sameFailures]
    exact beating.age refreshedAt (sameRefresh ▸ armed)
  timely := justified_cons.mpr ⟨inTime, beating.timely⟩
  spaced := justified_cons.mpr ⟨permitted, beating.spaced⟩

theorem otherWrite (beating : Beating gap controller driver history) {address : UInt16}
    (value : UInt16) (acknowledged : Bool) (other : isHeartbeat address = false) :
    Beating gap controller driver (.write address value acknowledged :: history) :=
  beating.extend rfl (lastRefresh_write (ne_of_not_isHeartbeat other).1)
    (failedRefreshes_write other) rfl trivial
    fun same => absurd same (ne_of_not_isHeartbeat other).2

end Beating

/-- In a tick the pass since the last one is not paid for yet. -/
structure Ticking (gap : Int) (now : SteadyTime) (controller : EdgeController)
    (driver : SunStoragePro261Driver) (history : List Occurrence) : Prop where
  refresh : controller.config.heartbeatRefresh = seconds 35
  timeout : controller.config.heartbeatTimeoutSeconds = 60
  known : controller.lastHeartbeatAt = lastRefresh history
  enabled : ∀ refreshedAt, lastRefresh history = some refreshedAt → driver.writesEnabled = true
  running : currentTime history = some now
  age : ∀ refreshedAt, lastRefresh history = some refreshedAt →
    now - refreshedAt < seconds 35 + (failedRefreshes history + 1) * gap
  timely : Justified (Timely gap) history
  spaced : Justified SpacedRefresh history

/-- The loop comes by again before the gap is over. -/
def InPace (gap : Int) (history : List Occurrence) (now : SteadyTime) : Prop :=
  ∀ earlier, currentTime history = some earlier → now ≤ earlier + gap

theorem Beating.timely_tick {gap : Int} {controller : EdgeController}
    {driver : SunStoragePro261Driver} {history : List Occurrence}
    (beating : Beating gap controller driver history) {now : SteadyTime}
    (inPace : InPace gap history now) : Timely gap history (.tick now) := by
  intro refreshedAt armed
  obtain ⟨earlier, running, young⟩ := beating.age refreshedAt armed
  have soon := inPace earlier running
  rw [add_mul, one_mul]
  linarith

theorem Beating.start {gap : Int} {controller : EdgeController} {driver : SunStoragePro261Driver}
    {history : List Occurrence} (beating : Beating gap controller driver history)
    {now : SteadyTime} (inPace : InPace gap history now) (reads : PollReads) :
    Ticking gap now controller (driver.cache reads) (.poll reads :: .tick now :: history) where
  refresh := beating.refresh
  timeout := beating.timeout
  known := beating.known
  enabled refreshedAt armed := by
    rw [SunStoragePro261Driver.writesEnabled, SunStoragePro261Driver.cache_approval]
    exact beating.enabled refreshedAt armed
  running := rfl
  age := beating.timely_tick inPace
  timely := justified_cons.mpr ⟨trivial,
    justified_cons.mpr ⟨beating.timely_tick inPace, beating.timely⟩⟩
  spaced := justified_cons.mpr ⟨trivial, justified_cons.mpr ⟨trivial, beating.spaced⟩⟩

section Ticks

variable {Device : Type} (client : IModbusClient Device) {gap : Int} {controller : EdgeController}
  {driver : SunStoragePro261Driver} {bus : Bus Device} {now : SteadyTime}

/-- A refresh pays for the pass: it arms the watchdog anew, or it is one more failure. -/
theorem Ticking.heartbeat (nonneg : 0 ≤ gap)
    (ticking : Ticking gap now controller driver bus.history) :
    Beating gap (controller.heartbeat client driver now bus).2.1 driver
      (controller.heartbeat client driver now bus).2.2.history := by
  unfold EdgeController.heartbeat
  rw [ticking.timeout]
  have old : controller.heartbeatDue now = true → ∀ refreshedAt,
      lastRefresh bus.history = some refreshedAt → seconds 35 ≤ now - refreshedAt := by
    intro due refreshedAt armed
    rw [EdgeController.heartbeatDue, ticking.known, armed, ticking.refresh] at due
    simpa using due
  have begun : controller.heartbeatDue now = true → ∀ acknowledged,
      Justified SpacedRefresh (.write Registers.heartbeatEnable 1 acknowledged :: bus.history) := by
    intro due acknowledged
    refine justified_cons.mpr ⟨fun _ time refreshedAt running armed => ?_, ticking.spaced⟩
    rw [ticking.running] at running
    cases running
    exact old due refreshedAt armed
  have otherRegister : Registers.heartbeatEnable ≠ Registers.heartbeatSeconds := by decide
  by_cases due : controller.heartbeatDue now = true
  · rw [if_pos due]
    dsimp only
    generalize refreshedEq : driver.refreshHeartbeat client 60 bus = refreshed
    rcases driver.refreshHeartbeat_cases client bus 60 with
      ⟨locked, refused⟩ | ⟨enabled, lost, history⟩ | ⟨enabled, history⟩
    · -- without approval the watchdog is never armed
      rw [refreshedEq] at refused
      subst refused
      have never : lastRefresh bus.history = none := by
        cases armed : lastRefresh bus.history with
        | none => rfl
        | some refreshedAt =>
            rw [ticking.enabled refreshedAt armed] at locked
            exact absurd locked (by simp)
      refine ⟨ticking.refresh, ticking.timeout, ticking.known, ticking.enabled, ?_,
        ticking.timely, ticking.spaced⟩
      intro refreshedAt armed
      rw [never] at armed
      exact nomatch armed
    · rw [refreshedEq] at lost history
      rw [lost, history, if_neg Bool.false_ne_true]
      refine ⟨ticking.refresh, ticking.timeout, ?_, fun _ _ => enabled, ?_,
        justified_cons.mpr ⟨trivial, ticking.timely⟩, begun due false⟩
      · rw [lastRefresh_write otherRegister]
        exact ticking.known
      · intro refreshedAt armed
        rw [lastRefresh_write otherRegister] at armed
        refine ⟨now, ticking.running, ?_⟩
        rw [failedRefreshes, isHeartbeat_enable, if_pos rfl, Nat.cast_add, Nat.cast_one]
        exact ticking.age refreshedAt armed
    · rw [refreshedEq] at history
      rw [history]
      have timely : ∀ acknowledged, Justified (Timely gap)
          (.write Registers.heartbeatSeconds 60 acknowledged ::
            .write Registers.heartbeatEnable 1 true :: bus.history) := fun _ =>
        justified_cons.mpr ⟨trivial, justified_cons.mpr ⟨trivial, ticking.timely⟩⟩
      have spaced : Justified SpacedRefresh (.write Registers.heartbeatSeconds 60 refreshed.1 ::
          .write Registers.heartbeatEnable 1 true :: bus.history) :=
        justified_cons.mpr ⟨fun same => absurd same.symm otherRegister, begun due true⟩
      cases acknowledged : refreshed.1 with
      | true =>
          rw [acknowledged] at spaced
          refine ⟨ticking.refresh, ticking.timeout, ?_, fun _ _ => enabled, ?_, timely _, spaced⟩
          · rw [if_pos rfl, lastRefresh, if_pos rfl]
            exact ticking.running.symm
          · intro refreshedAt armed
            rw [lastRefresh, if_pos rfl] at armed
            refine ⟨now, ticking.running, ?_⟩
            have sameTime : refreshedAt = now :=
              Option.some.inj (armed.symm.trans ticking.running)
            rw [failedRefreshes, if_pos rfl, sameTime]
            simp [seconds]
      | false =>
          rw [acknowledged] at spaced
          refine ⟨ticking.refresh, ticking.timeout, ?_, fun _ _ => enabled, ?_, timely _, spaced⟩
          · rw [if_neg Bool.false_ne_true]
            exact ticking.known.trans (lastRefresh_write otherRegister).symm
          · intro refreshedAt armed
            refine ⟨now, ticking.running, ?_⟩
            have failures : failedRefreshes (.write Registers.heartbeatSeconds 60 false ::
                .write Registers.heartbeatEnable 1 true :: bus.history) =
                failedRefreshes bus.history + 1 := rfl
            rw [failures, Nat.cast_add, Nat.cast_one]
            exact ticking.age refreshedAt ((lastRefresh_write otherRegister).symm.trans armed)
  · rw [if_neg due]
    refine ⟨ticking.refresh, ticking.timeout, ticking.known, ticking.enabled, ?_,
      ticking.timely, ticking.spaced⟩
    intro refreshedAt armed
    have young : now - refreshedAt < seconds 35 := by
      rw [EdgeController.heartbeatDue, ticking.known, armed, ticking.refresh] at due
      simpa using due
    have paid : 0 ≤ (failedRefreshes bus.history : Int) * gap :=
      mul_nonneg (Int.natCast_nonneg _) nonneg
    exact ⟨now, ticking.running, by linarith⟩

/-- The write of a tick is decided by the controller of before the refresh. -/
theorem Beating.settle (beating : Beating gap controller driver bus.history)
    (deciding : EdgeController) (battery : BatteryTelemetry) (emsConnected heartbeatOk : Bool) :
    Beating gap controller driver
      (deciding.settle client driver battery emsConnected heartbeatOk bus).2.history := by
  rcases deciding.settle_cases client driver bus battery emsConnected heartbeatOk with
    same | ⟨-, -, written⟩
  · rwa [same]
  · rw [written]
    exact beating.otherWrite _ _ (by decide)

theorem Beating.tick (nonneg : 0 ≤ gap) (beating : Beating gap controller driver bus.history)
    (inPace : InPace gap bus.history now) :
    let ticked := controller.tick client driver now (bus.note (.tick now))
    Beating gap ticked.2.1 ticked.2.2.1 ticked.2.2.2.history := by
  have started : Ticking gap now controller
      (driver.poll client (bus.note (.tick now))).2.1
      (driver.poll client (bus.note (.tick now))).2.2.history := beating.start inPace _
  exact (started.heartbeat client nonneg).settle client controller _ _ _

theorem Beating.socWrites (beating : Beating gap controller driver bus.history)
    {later : List Occurrence} (writes : SunStoragePro261Driver.SocWrites bus.history later) :
    Beating gap controller driver later := by
  induction writes with
  | none => exact beating
  | more _ limit inductionHypothesis =>
      rcases limit with rfl | rfl
      · exact inductionHypothesis.otherWrite _ _ (by decide)
      · exact inductionHypothesis.otherWrite _ _ (by decide)

theorem Beating.writePowerState (beating : Beating gap controller driver bus.history)
    (powerOn : Bool) :
    Beating gap controller (driver.writePowerState client powerOn bus).2.1
      (driver.writePowerState client powerOn bus).2.2.history := by
  rcases driver.writePowerState_cases client bus powerOn with
    same | ⟨-, -, started⟩ | ⟨-, -, zeroed, stopped, -, closed, history⟩
  · rwa [same]
  · rw [started]
    exact beating.otherWrite _ _ (by decide)
  · rw [closed, history]
    have zero := beating.otherWrite 0 zeroed
      (by decide : isHeartbeat Registers.pcsPowerCommand = false)
    refine zero.extend ?_ (lastRefresh_write (by decide)) (failedRefreshes_write (by decide)) rfl
      trivial (fun same => absurd same (by decide))
    cases stopped with
    | true => rfl
    | false => rfl

theorem Beating.handleOperation (beating : Beating gap controller driver bus.history)
    (operation : NorthboundOperatorCommand) :
    Beating gap controller (handleOperation client operation driver bus).2.1
      (handleOperation client operation driver bus).2.2.history := by
  refine handleOperation_invariant client
    (fun driver bus => Beating gap controller driver bus.history) ?_ ?_ ?_ operation driver bus
    beating
  · exact fun _ _ powerOn before => before.writePowerState client powerOn
  · intro driver bus lowerPct upperPct before
    rcases driver.writeSocLimitsPct_cases client bus lowerPct upperPct with
      same | ⟨-, -, writes⟩
    · rwa [same]
    · exact before.socWrites writes
  · intro driver bus kvar before
    rcases driver.writeReactivePowerSetpointKvar_cases client bus kvar with
      same | ⟨-, -, written⟩
    · rwa [same]
    · rw [written]
      exact before.otherWrite _ _ (by decide)

end Ticks

namespace Gateway

variable {Device : Type} (client : IModbusClient Device)

end Gateway

end GridexEdge.RockPi
