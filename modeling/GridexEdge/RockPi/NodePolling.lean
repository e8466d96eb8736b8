import GridexEdge.Foundation.Words
import GridexEdge.RockPi.MbusNodeTelemetry
import GridexEdge.RockPi.NodeTcpPollingService

/-!
The poll of one node: its identity and its telemetry, and its health where the node
answers that as well.
-/

namespace GridexEdge.RockPi

open GridexEdge.Core Foundation

structure NodePollingService (World : Type) extends NodeTcpPollingService World where
  samples : List MbusNodeTelemetry

namespace NodePollingService

def magic : UInt16 := 0x4758
def identityStart : UInt16 := 0x0000
def identityCount : UInt16 := 13
def telemetryStart : UInt16 := 0x0040
def telemetryCount : UInt16 := 6
def healthStart : UInt16 := 0x0046
def healthCount : UInt16 := 9

/-- One client and one sample for each endpoint, which is a unit behind a network. -/
def ofEndpoints {World : Type} (endpoints : List (UInt8 × World)) : NodePollingService World where
  clients := endpoints.map fun endpoint => { unitId := endpoint.1, world := endpoint.2 }
  samples := (List.range endpoints.length).map fun index => { address := UInt8.ofNat (index + 1) }

/-- A poll that fails keeps what was seen before. -/
def failed (sample : MbusNodeTelemetry) (status : NodePollStatus) : MbusNodeTelemetry :=
  { sample with
    online := false
    pollStatus := status
    consecutiveFailures := sample.consecutiveFailures + 1 }

/-- Without an answer the health of the last poll that had one stays. -/
def withHealth (sample : MbusNodeTelemetry) : Option (List UInt16) → MbusNodeTelemetry
  | none => sample
  | some health =>
      { sample with
        ethernetStatus := health.getD 0 0
        modbusTcpStatus := health.getD 1 0
        driverReady := health.getD 2 0
        deviceBusStatus := health.getD 3 0
        watchdogStatus := health.getD 4 0
        recoveryCount := health.getD 5 0
        ethernetRecoveryCount := health.getD 6 0
        busRecoveryCount := health.getD 7 0
        lastError := health.getD 8 0 }

def withTelemetry (sample : MbusNodeTelemetry) (identity telemetry : List UInt16) :
    MbusNodeTelemetry :=
  { sample with
    nodeType := identity.getD 2 0
    nodeState := identity.getD 3 0
    driverId := identity.getD 5 0
    quality := identity.getD 6 0
    heartbeat := identity.getD 12 0
    actualPowerKw := (signed (telemetry.getD 0 0) : ℚ) / 10
    energyWh := doubleWord (telemetry.getD 1 0) (telemetry.getD 2 0)
    deviceState := telemetry.getD 3 0
    alarmBits := telemetry.getD 4 0
    cloudConnected := telemetry.getD 5 0 == 1 }

def succeeded (sample : MbusNodeTelemetry) (steadyNow : SteadyTime) (systemNow : Int) :
    MbusNodeTelemetry :=
  { sample with
    online := true
    pollStatus := .online
    consecutiveFailures := 0
    lastSeen := steadyNow
    lastSuccessfulContact := systemNow }

section Operations

variable {World : Type} (network : Network World) (client : PosixModbusTcpClient World)
  (sample : MbusNodeTelemetry) (service : NodePollingService World) (steadyNow : SteadyTime)
  (systemNow : Int)

/-! The reads of a poll, each on the client the one before it has left. -/

def readIdentity : Option (List UInt16) × PosixModbusTcpClient World :=
  client.readHoldingRange network identityStart identityCount

def readTelemetry : Option (List UInt16) × PosixModbusTcpClient World :=
  client.readHoldingRange network telemetryStart telemetryCount

def readHealth : Option (List UInt16) × PosixModbusTcpClient World :=
  client.readHoldingRange network healthStart healthCount

/-- The poll as far as it goes. Nothing is taken over before both the identity and
the telemetry have been read. -/
def pollSample : MbusNodeTelemetry × PosixModbusTcpClient World :=
  match readIdentity network client with
  | (none, client) => (failed sample .transportFailure, client)
  | (some identity, client) =>
      if identity.getD 0 0 ≠ magic then (failed sample .identityFailure, client)
      else
        match readTelemetry network client with
        | (none, client) => (failed sample .telemetryFailure, client)
        | (some telemetry, client) =>
            let health := readHealth network client
            (succeeded (withHealth (withTelemetry sample identity telemetry) health.1) steadyNow
              systemNow, health.2)

def pollNode (index : Nat) : NodePollingService World :=
  match service.clients[index]?, service.samples[index]? with
  | some client, some sample =>
      let polled := pollSample network client sample steadyNow systemNow
      { service with
        clients := service.clients.set index polled.2
        samples := service.samples.set index polled.1 }
  | _, _ => service

/-- A poll ends after the first read, after the second, or after all three; only
then is the node seen. -/
theorem pollSample_cases :
    let identified := readIdentity network client
    let measured := readTelemetry network identified.2
    let checked := readHealth network measured.2
    (∃ status, pollSample network client sample steadyNow systemNow =
        (failed sample status, identified.2)) ∨
      (∃ status, pollSample network client sample steadyNow systemNow =
        (failed sample status, measured.2)) ∨
      ∃ identity telemetry, identified.1 = some identity ∧ measured.1 = some telemetry ∧
        pollSample network client sample steadyNow systemNow =
          (succeeded (withHealth (withTelemetry sample identity telemetry) checked.1) steadyNow
            systemNow, checked.2) := by
  intro identified measured checked
  unfold pollSample
  split
  · next later silent =>
      have same : identified.2 = later := congrArg Prod.snd silent
      exact .inl ⟨.transportFailure, by rw [same]⟩
  · next identity later answered =>
      have same : identified.2 = later := congrArg Prod.snd answered
      subst same
      split
      · exact .inl ⟨.identityFailure, rfl⟩
      · split
        · next last silent =>
            have same : measured.2 = last := congrArg Prod.snd silent
            exact .inr (.inl ⟨.telemetryFailure, by rw [same]⟩)
        · next telemetry last measuredAnswer =>
            have same : measured.2 = last := congrArg Prod.snd measuredAnswer
            subst same
            refine .inr (.inr ⟨identity, telemetry, ?_, ?_, rfl⟩)
            · exact congrArg Prod.fst answered
            · exact congrArg Prod.fst measuredAnswer

theorem length_samples_pollNode (index : Nat) :
    (service.pollNode network steadyNow systemNow index).samples.length =
      service.samples.length := by
  unfold pollNode
  split
  · exact List.length_set
  · rfl

/-- One slot is polled, and no other one is touched. -/
theorem pollNode_other {polled other : Nat} (different : other ≠ polled) :
    (service.pollNode network steadyNow systemNow polled).samples[other]? =
        service.samples[other]? ∧
      (service.pollNode network steadyNow systemNow polled).clients[other]? =
        service.clients[other]? := by
  unfold pollNode
  split
  · exact ⟨List.getElem?_set_ne different.symm, List.getElem?_set_ne different.symm⟩
  · exact ⟨rfl, rfl⟩

/-- The health fields are apart from those of the telemetry. -/
theorem withHealth_withTelemetry (identity telemetry : List UInt16)
    (health : Option (List UInt16)) :
    withHealth (withTelemetry sample identity telemetry) health =
      withTelemetry (withHealth sample health) identity telemetry := by
  cases health with
  | none => rfl
  | some words => rfl

end Operations

end NodePollingService

end GridexEdge.RockPi
