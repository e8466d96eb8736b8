import GridexEdge.Foundation.Runs
import GridexEdge.RockPi.NodePolling

/-!
What the sample of a slot says about the polls of the slot.

Of all its polls it keeps how many have failed since the last success, what was read at
that success, and the health of the last success that had any.
-/

namespace GridexEdge.RockPi

open GridexEdge.Core Foundation

/-! ### Poll outcomes -/

inductive PollFailure where
  | transport
  | identity
  | telemetry

def PollFailure.status : PollFailure → NodePollStatus
  | .transport => .transportFailure
  | .identity => .identityFailure
  | .telemetry => .telemetryFailure

/-- The words of a poll that got through, and when it did. -/
structure PollSuccess where
  identity : List UInt16
  telemetry : List UInt16
  health : Option (List UInt16)
  steadyNow : SteadyTime
  systemNow : Int

inductive PollOutcome where
  | failed (failure : PollFailure)
  | succeeded (success : PollSuccess)

namespace PollOutcome

def status : PollOutcome → NodePollStatus
  | .failed failure => failure.status
  | .succeeded _ => .online

def isFailure : PollOutcome → Bool
  | .failed _ => true
  | .succeeded _ => false

def success? : PollOutcome → Option PollSuccess
  | .failed _ => none
  | .succeeded success => some success

def health? (outcome : PollOutcome) : Option (List UInt16) :=
  outcome.success?.bind PollSuccess.health

end PollOutcome

/-! The outcomes of a slot's polls, the last one at the end. -/

def failuresSinceSuccess (outcomes : List PollOutcome) : Nat :=
  (outcomes.reverse.takeWhile PollOutcome.isFailure).length

def lastSuccess (outcomes : List PollOutcome) : Option PollSuccess :=
  outcomes.reverse.findSome? PollOutcome.success?

def lastHealth (outcomes : List PollOutcome) : Option (List UInt16) :=
  outcomes.reverse.findSome? PollOutcome.health?

section Outcomes

variable (outcomes : List PollOutcome)

theorem failuresSinceSuccess_append (outcome : PollOutcome) :
    failuresSinceSuccess (outcomes ++ [outcome]) =
      if outcome.isFailure then failuresSinceSuccess outcomes + 1 else 0 := by
  unfold failuresSinceSuccess
  rw [List.reverse_append, List.reverse_singleton, List.singleton_append, List.takeWhile_cons]
  split <;> rfl

theorem lastSuccess_append (outcome : PollOutcome) :
    lastSuccess (outcomes ++ [outcome]) = outcome.success?.or (lastSuccess outcomes) := by
  unfold lastSuccess
  rw [List.reverse_append, List.reverse_singleton, List.singleton_append, List.findSome?_cons]
  cases outcome.success? <;> rfl

theorem lastHealth_append (outcome : PollOutcome) :
    lastHealth (outcomes ++ [outcome]) = outcome.health?.or (lastHealth outcomes) := by
  unfold lastHealth
  rw [List.reverse_append, List.reverse_singleton, List.singleton_append, List.findSome?_cons]
  cases outcome.health? <;> rfl

end Outcomes

/-! ### Parts of a sample -/

/-- What every success brings. -/
structure NodeReadings where
  nodeType : UInt16
  nodeState : UInt16
  driverId : UInt16
  quality : UInt16
  heartbeat : UInt16
  actualPowerKw : ℚ
  energyWh : UInt32
  deviceState : UInt16
  alarmBits : UInt16
  cloudConnected : Bool
  lastSeen : SteadyTime
  lastSuccessfulContact : Int

structure NodeHealth where
  ethernetStatus : UInt16
  modbusTcpStatus : UInt16
  driverReady : UInt16
  deviceBusStatus : UInt16
  watchdogStatus : UInt16
  recoveryCount : UInt16
  ethernetRecoveryCount : UInt16
  busRecoveryCount : UInt16
  lastError : UInt16

def MbusNodeTelemetry.readings (sample : MbusNodeTelemetry) : NodeReadings where
  nodeType := sample.nodeType
  nodeState := sample.nodeState
  driverId := sample.driverId
  quality := sample.quality
  heartbeat := sample.heartbeat
  actualPowerKw := sample.actualPowerKw
  energyWh := sample.energyWh
  deviceState := sample.deviceState
  alarmBits := sample.alarmBits
  cloudConnected := sample.cloudConnected
  lastSeen := sample.lastSeen
  lastSuccessfulContact := sample.lastSuccessfulContact

def MbusNodeTelemetry.health (sample : MbusNodeTelemetry) : NodeHealth where
  ethernetStatus := sample.ethernetStatus
  modbusTcpStatus := sample.modbusTcpStatus
  driverReady := sample.driverReady
  deviceBusStatus := sample.deviceBusStatus
  watchdogStatus := sample.watchdogStatus
  recoveryCount := sample.recoveryCount
  ethernetRecoveryCount := sample.ethernetRecoveryCount
  busRecoveryCount := sample.busRecoveryCount
  lastError := sample.lastError

def PollSuccess.readings (success : PollSuccess) : NodeReadings where
  nodeType := success.identity.getD 2 0
  nodeState := success.identity.getD 3 0
  driverId := success.identity.getD 5 0
  quality := success.identity.getD 6 0
  heartbeat := success.identity.getD 12 0
  actualPowerKw := (signed (success.telemetry.getD 0 0) : ℚ) / 10
  energyWh := doubleWord (success.telemetry.getD 1 0) (success.telemetry.getD 2 0)
  deviceState := success.telemetry.getD 3 0
  alarmBits := success.telemetry.getD 4 0
  cloudConnected := success.telemetry.getD 5 0 == 1
  lastSeen := success.steadyNow
  lastSuccessfulContact := success.systemNow

def NodeHealth.ofWords (words : List UInt16) : NodeHealth where
  ethernetStatus := words.getD 0 0
  modbusTcpStatus := words.getD 1 0
  driverReady := words.getD 2 0
  deviceBusStatus := words.getD 3 0
  watchdogStatus := words.getD 4 0
  recoveryCount := words.getD 5 0
  ethernetRecoveryCount := words.getD 6 0
  busRecoveryCount := words.getD 7 0
  lastError := words.getD 8 0

/-- The sample of a slot after its polls. The counter wraps after 4294967296 failures in
a row. -/
structure ShowsPolls (slot : Nat) (sample : MbusNodeTelemetry) (outcomes : List PollOutcome) :
    Prop where
  address : sample.address = UInt8.ofNat (slot + 1)
  online : sample.online = true ↔ sample.pollStatus = .online
  status : sample.pollStatus = (outcomes.getLast?.map PollOutcome.status).getD .unknown
  failures : sample.consecutiveFailures = UInt32.ofNat (failuresSinceSuccess outcomes)
  counted : outcomes ≠ [] → failuresSinceSuccess outcomes < 4294967296 →
    (sample.online = true ↔ sample.consecutiveFailures = 0)
  readings : sample.readings =
    ((lastSuccess outcomes).map PollSuccess.readings).getD ({} : MbusNodeTelemetry).readings
  health : sample.health =
    ((lastHealth outcomes).map NodeHealth.ofWords).getD ({} : MbusNodeTelemetry).health

namespace NodePollingService

/-- What a poll makes of the sample. -/
def record (sample : MbusNodeTelemetry) : PollOutcome → MbusNodeTelemetry
  | .failed failure => failed sample failure.status
  | .succeeded success =>
      succeeded (withHealth (withTelemetry sample success.identity success.telemetry)
        success.health) success.steadyNow success.systemNow

theorem readings_record (sample : MbusNodeTelemetry) (outcome : PollOutcome) :
    (record sample outcome).readings =
      (outcome.success?.map PollSuccess.readings).getD sample.readings := by
  cases outcome with
  | failed failure => rfl
  | succeeded success =>
      rw [record, withHealth_withTelemetry]
      rfl

theorem health_record (sample : MbusNodeTelemetry) (outcome : PollOutcome) :
    (record sample outcome).health =
      (outcome.health?.map NodeHealth.ofWords).getD sample.health := by
  cases outcome with
  | failed failure => rfl
  | succeeded success =>
      obtain ⟨identity, telemetry, health, steadyNow, systemNow⟩ := success
      cases health <;> rfl

theorem address_record (sample : MbusNodeTelemetry) (outcome : PollOutcome) :
    (record sample outcome).address = sample.address := by
  cases outcome with
  | failed failure => rfl
  | succeeded success =>
      obtain ⟨identity, telemetry, health, steadyNow, systemNow⟩ := success
      cases health <;> rfl

theorem pollStatus_record (sample : MbusNodeTelemetry) (outcome : PollOutcome) :
    (record sample outcome).pollStatus = outcome.status := by
  cases outcome <;> rfl

theorem online_record (sample : MbusNodeTelemetry) (outcome : PollOutcome) :
    (record sample outcome).online = !outcome.isFailure := by
  cases outcome <;> rfl

theorem consecutiveFailures_record (sample : MbusNodeTelemetry) (outcome : PollOutcome) :
    (record sample outcome).consecutiveFailures =
      if outcome.isFailure then sample.consecutiveFailures + 1 else 0 := by
  cases outcome <;> rfl

theorem status_eq_online_iff (outcome : PollOutcome) :
    outcome.status = .online ↔ outcome.isFailure = false := by
  cases outcome with
  | failed failure => cases failure <;> simp [PollOutcome.status, PollFailure.status,
      PollOutcome.isFailure]
  | succeeded success => simp [PollOutcome.status, PollOutcome.isFailure]

/-- A slot that was never polled. -/
theorem showsPolls_nil (slot : Nat) :
    ShowsPolls slot { address := UInt8.ofNat (slot + 1) } [] where
  address := rfl
  online := by simp
  status := rfl
  failures := rfl
  counted polled := absurd rfl polled
  readings := rfl
  health := rfl

/-- One more poll. -/
theorem showsPolls_record {slot : Nat} {sample : MbusNodeTelemetry}
    {outcomes : List PollOutcome} (shows_ : ShowsPolls slot sample outcomes)
    (outcome : PollOutcome) :
    ShowsPolls slot (record sample outcome) (outcomes ++ [outcome]) where
  address := (address_record sample outcome).trans shows_.address
  online := by
    rw [online_record, pollStatus_record, status_eq_online_iff]
    simp
  status := by
    rw [pollStatus_record, List.getLast?_concat]
    rfl
  failures := by
    rw [consecutiveFailures_record, failuresSinceSuccess_append, shows_.failures]
    split
    · exact (UInt32.ofNat_add _ 1).symm
    · rfl
  counted _ few := by
    rw [failuresSinceSuccess_append] at few
    rw [online_record, consecutiveFailures_record, shows_.failures]
    cases failed : outcome.isFailure with
    | false => simp
    | true =>
        rw [if_pos failed] at few
        have counted : UInt32.ofNat (failuresSinceSuccess outcomes) + 1 ≠ 0 := by
          intro zero
          have value := congrArg UInt32.toNat zero
          rw [UInt32.toNat_add, UInt32.toNat_ofNat'] at value
          simp only [UInt32.reduceToNat] at value
          omega
        simpa using counted
  readings := by
    rw [readings_record, lastSuccess_append, shows_.readings]
    cases outcome.success? <;> rfl
  health := by
    rw [health_record, lastHealth_append, shows_.health]
    cases outcome.health? <;> rfl

/-- The polls of one event. -/
theorem showsPolls_foldl {slot : Nat} {sample : MbusNodeTelemetry} {outcomes : List PollOutcome}
    (shows_ : ShowsPolls slot sample outcomes) (news : List PollOutcome) :
    ShowsPolls slot (news.foldl record sample) (outcomes ++ news) := by
  induction news generalizing sample outcomes with
  | nil => rwa [List.append_nil]
  | cons outcome rest inductionHypothesis =>
      have next := inductionHypothesis (showsPolls_record shows_ outcome)
      rwa [List.append_assoc, List.singleton_append] at next

/-! ### Polls of the service -/

variable {World : Type}

/-- The service's thread polls a slot, or anything else happens to the clients and the
nodes behind them. -/
inductive PollingEvent (World : Type) where
  | pollNode (slot : Nat) (steadyNow : SteadyTime) (systemNow : Int)
  | clients (clients : List (PosixModbusTcpClient World))

variable (network : Network World)

def step (service : NodePollingService World) : PollingEvent World → NodePollingService World
  | .pollNode slot steadyNow systemNow => service.pollNode network steadyNow systemNow slot
  | .clients clients => { service with clients := clients }

/-- How a poll of this client ends. -/
def pollOutcome (client : PosixModbusTcpClient World) (steadyNow : SteadyTime)
    (systemNow : Int) : PollOutcome :=
  match readIdentity network client with
  | (none, _) => .failed .transport
  | (some identity, client) =>
      if identity.getD 0 0 ≠ magic then .failed .identity
      else
        match readTelemetry network client with
        | (none, _) => .failed .telemetry
        | (some telemetry, client) =>
            .succeeded
              { identity := identity
                telemetry := telemetry
                health := (readHealth network client).1
                steadyNow := steadyNow
                systemNow := systemNow }

/-- The outcome of an event's poll, when the event polls the slot. -/
def outcomesAt (slot : Nat) (service : NodePollingService World) :
    PollingEvent World → List PollOutcome
  | .pollNode polled steadyNow systemNow =>
      match service.clients[polled]?, service.samples[polled]? with
      | some client, some _ =>
          if polled = slot then [pollOutcome network client steadyNow systemNow] else []
      | _, _ => []
  | .clients _ => []

/-- A poll takes over all of its outcome or none of it. -/
theorem pollSample_eq_record (client : PosixModbusTcpClient World) (sample : MbusNodeTelemetry)
    (steadyNow : SteadyTime) (systemNow : Int) :
    (pollSample network client sample steadyNow systemNow).1 =
      record sample (pollOutcome network client steadyNow systemNow) := by
  unfold pollSample pollOutcome
  rcases readIdentity network client with ⟨_ | identity, second⟩
  · rfl
  · dsimp only
    split
    · rfl
    · rcases readTelemetry network second with ⟨_ | telemetry, third⟩ <;> rfl

theorem length_samples_step (service : NodePollingService World) (event : PollingEvent World) :
    (step network service event).samples.length = service.samples.length := by
  cases event with
  | pollNode polled steadyNow systemNow =>
      exact length_samples_pollNode network service steadyNow systemNow polled
  | clients clients => rfl

/-- An event makes of a slot's sample what its poll of the slot has brought. -/
theorem samples_step {service : NodePollingService World} {slot : Nat}
    {sample : MbusNodeTelemetry} (held : service.samples[slot]? = some sample)
    (event : PollingEvent World) :
    (step network service event).samples[slot]? =
      some ((outcomesAt network slot service event).foldl record sample) := by
  cases event with
  | clients clients => exact held
  | pollNode polled steadyNow systemNow =>
      unfold step pollNode outcomesAt
      dsimp only
      cases service.clients[polled]? with
      | none => exact held
      | some client =>
          cases foundSample : service.samples[polled]? with
          | none => exact held
          | some found =>
              dsimp only
              by_cases same : polled = slot
              · subst same
                obtain rfl := Option.some.inj (foundSample.symm.trans held)
                have inside := (List.getElem?_eq_some_iff.mp held).1
                rw [if_pos rfl, List.foldl_cons, List.foldl_nil, ← pollSample_eq_record]
                exact List.getElem?_set_self inside
              · rw [if_neg same]
                exact (List.getElem?_set_ne same).trans held

/-- A run of the service shows the polls of every slot. -/
theorem showsPolls_run {service : NodePollingService World} {slot : Nat}
    {sample : MbusNodeTelemetry} {outcomes : List PollOutcome}
    (held : service.samples[slot]? = some sample) (shows_ : ShowsPolls slot sample outcomes)
    (events : List (PollingEvent World)) :
    ∃ later, (run (step network) service events).samples[slot]? = some later ∧
      ShowsPolls slot later
        (outcomes ++ outputs (step network) (outcomesAt network slot) service events) := by
  induction events generalizing service sample outcomes with
  | nil => exact ⟨sample, held, by rwa [outputs, List.append_nil]⟩
  | cons event rest inductionHypothesis =>
      obtain ⟨later, reached, seen⟩ := inductionHypothesis (samples_step network held event)
        (showsPolls_foldl shows_ _)
      refine ⟨later, reached, ?_⟩
      rwa [outputs, ← List.append_assoc]

/-- In every run over any network: each slot shows the last successful poll of its own, and
polling it leaves every other slot as it is. -/
theorem slot_shows_last_success (endpoints : List (UInt8 × World))
    (events : List (PollingEvent World)) :
    let reached := run (step network) (ofEndpoints endpoints) events
    reached.samples.length = endpoints.length ∧
      (∀ slot sample, reached.samples[slot]? = some sample →
        ShowsPolls slot sample
          (outputs (step network) (outcomesAt network slot) (ofEndpoints endpoints) events)) ∧
      ∀ polled steadyNow systemNow other, other ≠ polled →
        (reached.pollNode network steadyNow systemNow polled).samples[other]? =
            reached.samples[other]? ∧
          (reached.pollNode network steadyNow systemNow polled).clients[other]? =
            reached.clients[other]? := by
  intro reached
  have length : reached.samples.length = endpoints.length := by
    apply run_invariant (step network) (fun service => service.samples.length = endpoints.length)
    · exact fun service event same => (length_samples_step network service event).trans same
    · simp [ofEndpoints]
  refine ⟨length, fun slot sample held => ?_, fun polled steadyNow systemNow other different =>
    pollNode_other network reached steadyNow systemNow different⟩
  have inside : slot < endpoints.length := by
    rw [← length]
    exact (List.getElem?_eq_some_iff.mp held).1
  have initial : (ofEndpoints endpoints).samples[slot]? =
      some { address := UInt8.ofNat (slot + 1) } := by
    simp [ofEndpoints, inside]
  obtain ⟨later, found, shows_⟩ := showsPolls_run network initial (showsPolls_nil slot) events
  rw [held] at found
  rw [Option.some.inj found]
  exact shows_

end NodePollingService

end GridexEdge.RockPi
