import GridexEdge.Foundation.JsonNumbers
import GridexEdge.Node.Firmware
import GridexEdge.Node.ProvisioningLine

/-!
The whole program of the node: its globals, what it keeps in flash, its start, and the
statements of its main loop.

Link events come from another task and may fall between any two statements, so a run is
a list of events; `loop` is the order in which the loop itself produces them. A restart
loses everything but the flash.
-/

namespace GridexEdge.Node

open Foundation

/-! ### Drivers and settings -/

/-- A driver with all that the loop asks of it besides its commands. -/
structure DeviceDriver (Device : Type) extends IDeviceDriver Device where
  begins : Device → Bool × Device
  poll : Device → DriverSample × Device
  requiresDeviceBus : Bool
  healthy : Device → Bool

/-- It takes no command, needs no bus, and is never healthy. -/
structure UnconfiguredDriver where
  type : NodeType
  driverId : UInt16

def UnconfiguredDriver.poll (driver : UnconfiguredDriver) : DriverSample :=
  { state := if driver.driverId = 0 then NodeState.driverMissing.code else driver.type }

/-- The keys of the identity in flash. -/
structure NodePreferences where
  nodeAddress : UInt8 := 0
  nodeType : NodeType := 0
  driverId : UInt16 := 0

/-- What an earlier firmware may have left behind for its own cloud connection. -/
structure CloudPreferences where
  mqttHost : List UInt8 := []
  mqttUser : List UInt8 := []
  mqttSecret : List UInt8 := []
  clientId : List UInt8 := []
  assetId : List UInt8 := []
  caCert : List UInt8 := []

/-- Everything that outlives a restart. -/
structure Flash where
  node : NodePreferences := {}
  control : ControlPreferences := {}
  port : UInt16 := 1502
  cloud : CloudPreferences := {}
  efuseMac : UInt64

def loadConfig (flash : Flash) : NodeConfig where
  address := flash.node.nodeAddress
  type := flash.node.nodeType
  driverId := flash.node.driverId
  uid := flash.efuseMac

structure MqttTelemetryConfig where
  enabled : Bool
  host : List UInt8
  serviceUser : List UInt8
  serviceSecret : List UInt8
  clientId : List UInt8
  assetId : List UInt8
  caCertificate : List UInt8

/-- Retained settings never enable telemetry from the node to the cloud. -/
def loadCloudConfig (flash : Flash) : MqttTelemetryConfig where
  enabled := false
  host := flash.cloud.mqttHost
  serviceUser := flash.cloud.mqttUser
  serviceSecret := flash.cloud.mqttSecret
  clientId := flash.cloud.clientId
  assetId := flash.cloud.assetId
  caCertificate := flash.cloud.caCert

/-- Whether the telemetry service becomes active. -/
def MqttTelemetryConfig.begins (config : MqttTelemetryConfig) : Bool :=
  config.enabled && config.host != [] && config.serviceUser != [] && config.serviceSecret != [] &&
    config.clientId != [] && config.assetId != [] && config.caCertificate != []

/-! ### The numbers of a command -/

/-- A number of the format `%u`: blanks, a sign, digits. A number too large for its type
is the largest there is, and a negative one is taken modulo the width. -/
def scanUnsigned (text : List UInt8) : Option (Nat × List UInt8) :=
  let text := text.dropWhile isSpace
  let negative := text.head? == some 0x2D
  let text := if negative || text.head? == some 0x2B then text.tail else text
  let digits := text.takeWhile Json.isDigit
  if digits = [] then none
  else
    let magnitude := Json.digitsValue digits
    let value :=
      if 0xFFFFFFFF < magnitude then 0xFFFFFFFF
      else if negative then (0x100000000 - magnitude) % 0x100000000
      else magnitude
    some (value, text.dropWhile Json.isDigit)

structure ProvisioningArguments where
  address : Nat
  type : Nat
  driverId : Nat

/-- `sscanf` with three of them; what follows is not looked at. -/
def scanArguments (text : List UInt8) : Option ProvisioningArguments := do
  let (address, text) ← scanUnsigned text
  let (type, text) ← scanUnsigned text
  let (driverId, _) ← scanUnsigned text
  return { address := address, type := type, driverId := driverId }

/-! ### State -/

inductive EthernetEvent where
  | gotIp
  | disconnected

/-- What a start finds: how its initializations end, the link, and the link events that come
in until the bus and the watchdog have answered, the link is looked at, and the health is
published. -/
structure BootInput where
  busInitialized : Bool
  watchdogReady : Bool
  linkUp : Bool
  untilBus : List EthernetEvent := []
  untilWatchdog : List EthernetEvent := []
  untilLink : List EthernetEvent := []
  untilHealth : List EthernetEvent := []

/-- Which of the three writes of an identity reach the flash. -/
structure StoredFields where
  address : Bool
  type : Bool
  driverId : Bool

structure NodeProgram (Device : Type) where
  flash : Flash
  firmware : Firmware Device
  unconfigured : UnconfiguredDriver
  cloudActive : Bool := false
  serialLine : ProvisioningLine := .fresh
  lastPollMs : UInt32 := 0
  lastCloudPublishMs : UInt32 := 0
  lastBusRecoveryMs : UInt32 := 0
  ethernetSeen : Bool := false
  ethernetUp : Bool := false
  deviceBusReady : Bool := false
  driverReady : Bool := false
  watchdogReady : Bool := false
  restartControlRequested : Bool := false
  ethernetRecoveries : UInt16 := 0
  busRecoveries : UInt16 := 0
  lastError : UInt16 := 0
  lastSample : DriverSample := {}
  /-- What the driver has answered to its polls since the start, newest first. The program does
  not keep them; only what is proved about it reads them. -/
  samples : List DriverSample := []

inductive NodeEvent where
  | serial (value : UInt8) (calls : ProvisioningCalls) (stored : StoredFields) (boot : BootInput)
  | controlLoop (input : ControlInput)
  | restartControl
  | applyCommand (nowMs : UInt32)
  | persistNodeConfig (stored : StoredFields)
  | superviseDeviceBus (nowMs : UInt32) (busInitialized : Bool)
  | pollDriver (nowMs laterMs : UInt32) (mqttConnected : Bool)
  | publishCloud (nowMs laterMs : UInt32)
  | ethernet (event : EthernetEvent)
  | restart (boot : BootInput)

/-- The answers of the outside to one pass. -/
structure LoopInput where
  typed : List (UInt8 × ProvisioningCalls × StoredFields × BootInput)
  bounded : typed.length ≤ 80
  control : ControlInput
  stored : StoredFields
  nowMs : UInt32
  busInitialized : Bool
  mqttConnected : Bool

/-- One pass of the loop. -/
def loop (input : LoopInput) : List NodeEvent :=
  (input.typed.map fun typed => .serial typed.1 typed.2.1 typed.2.2.1 typed.2.2.2) ++
    [ .controlLoop input.control, .restartControl, .applyCommand input.nowMs,
      .persistNodeConfig input.stored, .superviseDeviceBus input.nowMs input.busInitialized,
      .pollDriver input.nowMs input.nowMs input.mqttConnected,
      .publishCloud input.nowMs input.nowMs ]

namespace NodeProgram

section Operations

variable {Device : Type} (driver : DeviceDriver Device)
  (fromString : List UInt8 → Option UInt32) (build : InstalledDriver)
  (program : NodeProgram Device)

/-- The driver the program has at the moment. -/
def beginDriver : Bool × NodeProgram Device :=
  match program.firmware.installed with
  | .compiled =>
      let begun := driver.begins program.firmware.device
      (begun.1, { program with firmware.device := begun.2 })
  | .unconfigured => (false, program)

def pollSample : DriverSample × NodeProgram Device :=
  match program.firmware.installed with
  | .compiled =>
      let polled := driver.poll program.firmware.device
      (polled.1,
        { program with
          firmware.device := polled.2
          samples := polled.1 :: program.samples })
  | .unconfigured =>
      let sample := program.unconfigured.poll
      (sample, { program with samples := sample :: program.samples })

def requiresDeviceBus : Bool :=
  match program.firmware.installed with
  | .compiled => driver.requiresDeviceBus
  | .unconfigured => false

def healthy : Bool :=
  match program.firmware.installed with
  | .compiled => driver.healthy program.firmware.device
  | .unconfigured => false

/-- Only the first address is no recovery. -/
def onEthernet : EthernetEvent → NodeProgram Device
  | .gotIp =>
      { program with
        ethernetSeen := true
        ethernetUp := true
        ethernetRecoveries :=
          if program.ethernetSeen && !program.ethernetUp then program.ethernetRecoveries + 1
          else program.ethernetRecoveries
        restartControlRequested := true }
  | .disconnected =>
      { program with
        ethernetUp := false
        lastError := 1
        restartControlRequested := true }

def health : Health where
  ethernetUp := program.ethernetUp
  listening := program.flash.port != 0
  driverReady := program.driverReady
  deviceBusReady := program.deviceBusReady
  watchdogReady := program.watchdogReady
  ethernetRecoveries := program.ethernetRecoveries
  busRecoveries := program.busRecoveries
  lastError := program.lastError

def publishHealthRegisters : NodeProgram Device :=
  { program with
    firmware := program.firmware.step driver.toIDeviceDriver
      (.publishHealthRegisters program.health) }

/-- Both initializations count: without a bus the driver is not even begun. -/
def readyDriver (busInitialized : Bool) : NodeProgram Device :=
  if busInitialized then
    let begun := program.beginDriver driver
    { begun.2 with deviceBusReady := true, driverReady := begun.1 }
  else { program with deviceBusReady := false, driverReady := false }

/-- The globals before anything is initialized. -/
def powerOn (flash : Flash) (device : Device) : NodeProgram Device where
  flash := flash
  firmware :=
    { Firmware.boot (loadConfig flash) device with
      installed := build
      server := { rockPiAddress := (fromString flash.control.rockPiIp).getD 0 } }
  unconfigured :=
    { type := (MbusNode.ofConfig (loadConfig flash)).config.type
      driverId := (MbusNode.ofConfig (loadConfig flash)).config.driverId }
  cloudActive := (loadCloudConfig flash).begins

def onEthernetEvents (events : List EthernetEvent) : NodeProgram Device :=
  events.foldl (fun program event => program.onEthernet event) program

/-- The error of an initialization that has failed. -/
def noteFailure (ready : Bool) (error : UInt16) : NodeProgram Device :=
  if ready then program else { program with lastError := error }

/-- The events of the link come in from the first statement on, and the later error stands. -/
def setup (flash : Flash) (device : Device) (boot : BootInput) : NodeProgram Device :=
  let linked := (powerOn fromString build flash device).onEthernetEvents boot.untilBus
  let readied := (linked.noteFailure boot.busInitialized 2).readyDriver driver boot.busInitialized
  let awaited := readied.onEthernetEvents boot.untilWatchdog
  let watched :=
    { awaited with watchdogReady := boot.watchdogReady }.noteFailure boot.watchdogReady 3
  let looked := { watched.onEthernetEvents boot.untilLink with ethernetUp := boot.linkUp }
  (looked.onEthernetEvents boot.untilHealth).publishHealthRegisters driver

def restart (boot : BootInput) : NodeProgram Device :=
  setup driver fromString build program.flash program.firmware.device boot

/-- A key whose write fails keeps its old value. -/
def Flash.store (flash : Flash) (config : NodeConfig) (stored : StoredFields) : Flash :=
  { flash with
    node :=
      { nodeAddress := if stored.address then config.address else flash.node.nodeAddress
        nodeType := if stored.type then config.type else flash.node.nodeType
        driverId := if stored.driverId then config.driverId else flash.node.driverId } }

def persistNodeConfig (stored : StoredFields) : NodeProgram Device :=
  let taken := program.firmware.node.takeConfigurationChanged
  { program with
    firmware := program.firmware.persistNodeConfig
    flash := if taken.1 then Flash.store program.flash taken.2.config stored else program.flash }

/-- An accepted identity is stored, and its driver is not the one that was built in. -/
def provisionNode (arguments : List UInt8) (stored : StoredFields) : NodeProgram Device :=
  match scanArguments arguments with
  | none => program
  | some scanned =>
      if 247 < scanned.address ∨ NodeType.secondCabinet.toNat < scanned.type ∨
          65535 < scanned.driverId then program
      else
        match program.firmware.node.provision (UInt8.ofNat scanned.address)
            (UInt16.ofNat scanned.type) (UInt16.ofNat scanned.driverId) with
        | (false, _) => program
        | (true, node) =>
            let persisted := { program with firmware.node := node }.persistNodeConfig stored
            { persisted with
              firmware.installed := .unconfigured
              unconfigured := { type := node.config.type, driverId := node.config.driverId }
              driverReady := false }

/-- The commands that end in a restart, when they have stored what they should. -/
def restarts (calls : ProvisioningCalls) : ProvisioningCommand → Bool
  | .otaClear => calls.opened
  | .otaKey token =>
      decide (32 ≤ token.length) && decide (token.length ≤ 128) && calls.opened &&
        sha256Hex calls.hashed token != [] && calls.stored
  | _ => false

def processProvisioningLine (calls : ProvisioningCalls) (stored : StoredFields)
    (boot : BootInput) (command : ProvisioningCommand) : NodeProgram Device :=
  match command with
  | .node arguments => program.provisionNode arguments stored
  | .rockPi value =>
      match fromString value with
      | none => program
      | some address =>
          if !calls.opened || !calls.stored then program
          else
            { program with
              flash.control := program.flash.control.execute fromString calls command
              firmware := program.firmware.step driver.toIDeviceDriver
                (.setRockPiAddress address) }
  | command =>
      let executed : NodeProgram Device :=
        { program with flash.control := program.flash.control.execute fromString calls command }
      if restarts calls command then executed.restart driver fromString build boot else executed

def serial (value : UInt8) (calls : ProvisioningCalls) (stored : StoredFields)
    (boot : BootInput) : NodeProgram Device :=
  let pushed := program.serialLine.push value
  let read : NodeProgram Device := { program with serialLine := pushed.2 }
  match pushed.1 with
  | none => read
  | some raw =>
      read.processProvisioningLine driver fromString build calls stored boot (.ofLine raw)

theorem serial_of_none {value : UInt8} (silent : (program.serialLine.push value).1 = none)
    (calls : ProvisioningCalls) (stored : StoredFields) (boot : BootInput) :
    program.serial driver fromString build value calls stored boot =
      { program with serialLine := (program.serialLine.push value).2 } := by
  simp only [serial, silent]

theorem serial_of_line {value : UInt8} {raw : List UInt8}
    (line : (program.serialLine.push value).1 = some raw)
    (calls : ProvisioningCalls) (stored : StoredFields) (boot : BootInput) :
    program.serial driver fromString build value calls stored boot =
      processProvisioningLine driver fromString build
        { program with serialLine := (program.serialLine.push value).2 }
        calls stored boot (.ofLine raw) := by
  simp only [serial, line]

/-- At most one attempt in thirty seconds of the wrapping clock. -/
def recoversBus (nowMs : UInt32) : Bool :=
  program.requiresDeviceBus driver && !(program.driverReady && program.healthy driver) &&
    decide (30000 ≤ nowMs - program.lastBusRecoveryMs)

def superviseDeviceBus (nowMs : UInt32) (busInitialized : Bool) : NodeProgram Device :=
  if !program.recoversBus driver nowMs then program
  else
    let readied := { program with lastBusRecoveryMs := nowMs }.readyDriver driver busInitialized
    { readied with
      busRecoveries := readied.busRecoveries + 1
      lastError := if readied.driverReady then 0 else 2 }

def polls (nowMs : UInt32) : Bool := decide (500 ≤ nowMs - program.lastPollMs)

/-- The sample and the health of one pass, published together. -/
def pollDriver (nowMs laterMs : UInt32) (mqttConnected : Bool) : NodeProgram Device :=
  if !program.polls nowMs then program
  else
    let polled := program.pollSample driver
    let sampled : NodeProgram Device :=
      { polled.2 with
        lastPollMs := laterMs
        lastSample := polled.1
        firmware := polled.2.firmware.step driver.toIDeviceDriver
          (.publishDriverSample polled.1) }
    let published := sampled.publishHealthRegisters driver
    { published with
      firmware := published.firmware.step driver.toIDeviceDriver
        (.publishCounters (laterMs / 1000) (program.cloudActive && mqttConnected)) }

def step : NodeEvent → NodeProgram Device
  | .serial value calls stored boot =>
      program.serial driver fromString build value calls stored boot
  | .controlLoop input =>
      { program with
        firmware := program.firmware.step driver.toIDeviceDriver (.controlLoop input) }
  | .restartControl =>
      if program.restartControlRequested then
        { program with
          restartControlRequested := false
          firmware := program.firmware.step driver.toIDeviceDriver .restartControl }
      else program
  | .applyCommand nowMs =>
      { program with
        firmware := program.firmware.step driver.toIDeviceDriver (.applyCommand nowMs) }
  | .persistNodeConfig stored => program.persistNodeConfig stored
  | .superviseDeviceBus nowMs busInitialized =>
      program.superviseDeviceBus driver nowMs busInitialized
  | .pollDriver nowMs laterMs mqttConnected => program.pollDriver driver nowMs laterMs mqttConnected
  | .publishCloud nowMs laterMs =>
      if 2000 ≤ nowMs - program.lastCloudPublishMs then
        { program with lastCloudPublishMs := laterMs }
      else program
  | .ethernet event => program.onEthernet event
  | .restart boot => program.restart driver fromString build boot

end Operations

end NodeProgram

end GridexEdge.Node
