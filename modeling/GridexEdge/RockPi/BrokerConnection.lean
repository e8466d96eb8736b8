import GridexEdge.RockPi.Configuration
import GridexEdge.RockPi.Publications

/-!
How the publisher comes to its connection, from its configuration and the answers of the MQTT
library.

The constructor gives up at the first thing that is missing or refused. Only a publisher that
has gone through all of it hands anything to the library.
-/

namespace GridexEdge.RockPi

open GridexEdge.Core Foundation

/-! ### The broker -/

structure BrokerEndpoint where
  host : List UInt8
  port : Int

def urlPrefix : List UInt8 := asciiBytes "mqtts://".toList

def parseBrokerUrl (url : List UInt8) : Option BrokerEndpoint :=
  if !urlPrefix.isPrefixOf url then none
  else
    (cutAtLast 0x3A (url.drop urlPrefix.length)).bind fun (host, text) =>
      if host.isEmpty || text.isEmpty then none
      else
        (stoi text).bind fun port =>
          if port < 1 ∨ 65535 < port then none else some { host, port }

/-- A URL that is accepted has the scheme of TLS, a host and a port. -/
theorem eq_of_parseBrokerUrl {url : List UInt8} {endpoint : BrokerEndpoint}
    (parsed : parseBrokerUrl url = some endpoint) :
    ∃ text, url = urlPrefix ++ (endpoint.host ++ 0x3A :: text) ∧ endpoint.host ≠ [] ∧
      stoi text = some endpoint.port ∧ 1 ≤ endpoint.port ∧ endpoint.port ≤ 65535 := by
  rw [parseBrokerUrl] at parsed
  split at parsed
  · cases parsed
  · next scheme =>
      rw [Bool.not_eq_true', Bool.not_eq_false, List.isPrefixOf_iff_prefix] at scheme
      obtain ⟨rest, rfl⟩ := scheme
      rw [List.drop_left] at parsed
      obtain ⟨⟨host, text⟩, cut, given⟩ := Option.bind_eq_some_iff.mp parsed
      dsimp only at given
      split at given
      · cases given
      · next named =>
          obtain ⟨port, number, opened⟩ := Option.bind_eq_some_iff.mp given
          split at opened
          · cases opened
          · next inRange =>
              cases opened
              rw [Bool.or_eq_true, not_or, List.isEmpty_iff, List.isEmpty_iff] at named
              refine ⟨text, by rw [eq_of_cutAtLast cut], named.1, number, ?_, ?_⟩
              · exact Int.not_lt.mp fun low => inRange (.inl low)
              · exact Int.not_lt.mp fun high => inRange (.inr high)

/-! ### The constructor -/

structure MqttHealthPublisherConfig where
  brokerUrl : List UInt8
  topicPrefix : List UInt8 := asciiBytes "gridex/v1".toList
  clientId : List UInt8
  username : List UInt8 := []
  passwordFile : List UInt8 := []
  caFile : List UInt8 := []
  clientCertificateFile : List UInt8 := []
  clientKeyFile : List UInt8 := []

def MqttHealthPublisherConfig.configured (config : MqttHealthPublisherConfig) : Bool :=
  !config.brokerUrl.isEmpty && !config.topicPrefix.isEmpty && !config.clientId.isEmpty

/-- A null pointer is none. -/
inductive LibraryCall where
  | init
  | new (clientId : List UInt8)
  | tlsSet (caFile : List UInt8) (certificateFile keyFile : Option (List UInt8))
  | usernamePwSet (username password : Option (List UInt8))
  | tlsInsecureSet (insecure : Bool)
  | connectAsync (host : List UInt8) (port : Int) (keepalive : Nat)
  | loopStart
  | destroy

/-- Which calls succeed, and the first line of the password file. -/
structure LibraryAnswers where
  init : Bool
  new : Bool
  tlsSet : Bool
  usernamePwSet : Bool
  tlsInsecureSet : Bool
  connectAsync : Bool
  loopStart : Bool
  secret : List UInt8 := []

section Constructor

variable (config : MqttHealthPublisherConfig) (answers : LibraryAnswers)

def password : List UInt8 := if config.passwordFile.isEmpty then [] else answers.secret

def nonEmpty? (text : List UInt8) : Option (List UInt8) := if text.isEmpty then none else some text

def anonymous : Bool := config.username.isEmpty && (password config answers).isEmpty

/-- The calls before the client may connect. -/
def preparation : List LibraryCall :=
  [ .init, .new config.clientId,
    .tlsSet config.caFile (nonEmpty? config.clientCertificateFile)
      (nonEmpty? config.clientKeyFile) ] ++
    (if anonymous config answers then []
    else [.usernamePwSet (nonEmpty? config.username) (nonEmpty? (password config answers))]) ++
    [.tlsInsecureSet false]

def prepared : Bool :=
  answers.tlsSet && (anonymous config answers || answers.usernamePwSet) && answers.tlsInsecureSet

/-- Whether there is a client in the end, and the calls of the library. -/
def construct : Bool × List LibraryCall :=
  match parseBrokerUrl config.brokerUrl with
  | none => (false, [])
  | some endpoint =>
      if !config.configured || config.caFile.isEmpty then (false, [])
      else if config.clientCertificateFile.isEmpty != config.clientKeyFile.isEmpty then (false, [])
      else if !answers.init then (false, [.init])
      else if !answers.new then (false, [.init, .new config.clientId])
      else
        let before := preparation config answers
        let connect : LibraryCall := .connectAsync endpoint.host endpoint.port 30
        if !prepared config answers then (false, before ++ [.destroy])
        else if !answers.connectAsync then (false, before ++ [connect, .destroy])
        else if !answers.loopStart then (false, before ++ [connect, .loopStart, .destroy])
        else (true, before ++ [connect, .loopStart])

/-- The client connects to the broker of the URL, after it was told to trust one authority only,
not to skip the verification and, unless there is nothing to tell, who it is. -/
structure SecuredConnection : Prop where
  broker : ∃ host text port, config.brokerUrl = urlPrefix ++ (host ++ 0x3A :: text) ∧ host ≠ [] ∧
    stoi text = some port ∧ 1 ≤ port ∧ port ≤ 65535 ∧
    (construct config answers).2 =
      preparation config answers ++ [.connectAsync host port 30, .loopStart]
  authority : config.caFile ≠ []
  pair : config.clientCertificateFile = [] ↔ config.clientKeyFile = []
  trusted : answers.tlsSet = true
  verified : answers.tlsInsecureSet = true
  identified : anonymous config answers = true ∨ answers.usernamePwSet = true
  connects : answers.connectAsync = true

variable {config answers}

theorem securedConnection_of_client (client : (construct config answers).1 = true) :
    SecuredConnection config answers := by
  unfold construct at client
  cases parsed : parseBrokerUrl config.brokerUrl with
  | none =>
      rw [parsed] at client
      cases client
  | some endpoint =>
      rw [parsed] at client
      dsimp only at client
      split at client
      · cases client
      next configured =>
      split at client
      · cases client
      next pair =>
      split at client
      · cases client
      next initialized =>
      split at client
      · cases client
      next created =>
      split at client
      · cases client
      next ready =>
      split at client
      · cases client
      next connects =>
      split at client
      · cases client
      next starts =>
      obtain ⟨text, url, host, number, low, high⟩ := eq_of_parseBrokerUrl parsed
      have secured : (answers.tlsSet = true ∧
          (anonymous config answers = true ∨ answers.usernamePwSet = true)) ∧
            answers.tlsInsecureSet = true := by
        rw [Bool.not_eq_true', Bool.not_eq_false, prepared] at ready
        rw [← Bool.or_eq_true, ← Bool.and_eq_true, ← Bool.and_eq_true]
        exact ready
      refine
        { broker := ⟨endpoint.host, text, endpoint.port, url, host, number, low, high, ?_⟩
          authority := ?_
          pair := ?_
          trusted := secured.1.1
          verified := secured.2
          identified := secured.1.2
          connects := by simpa using connects }
      · unfold construct
        rw [parsed]
        dsimp only
        rw [if_neg configured, if_neg pair, if_neg initialized, if_neg created, if_neg ready,
          if_neg connects, if_neg starts]
      · rintro empty
        exact configured (by simp [empty])
      · rw [Bool.not_eq_true, bne_eq_false_iff_eq] at pair
        rw [← List.isEmpty_iff, ← List.isEmpty_iff, pair]

end Constructor

/-! ### Publications -/

namespace PublishLoop

variable {settings : PublishSettings}

theorem step_client (loop : PublishLoop) (event : PublishEvent) :
    (loop.step settings event).publisher.client = loop.publisher.client := by
  cases event with
  | onConnect | onDisconnect | nodeTelemetry | systemTelemetry => rfl
  | health | endNodeTelemetry | beginSystemTelemetry =>
      rw [step]
      split
      · rfl
      · rfl

/-- Without a client nothing is handed over. -/
theorem publications_of_no_client {loop : PublishLoop} (missing : loop.publisher.client = false)
    (events : List PublishEvent) : loop.publications settings events = [] := by
  induction events generalizing loop with
  | nil => rfl
  | cons event rest inductionHypothesis =>
      have later := inductionHypothesis ((@step_client settings loop event).trans missing)
      have silent : loop.handed settings event = none := by
        cases handed : loop.handed settings event with
        | none => rfl
        | some publication =>
            have connected := (handed_eq_some handed).1
            rw [MqttHealthPublisher.connected, missing, Bool.false_and] at connected
            cases connected
      rw [publications, outputs, silent]
      exact later

/-- Whatever the configuration is, however the library answers and the callbacks come: if
anything is handed to the library, then over a connection to the broker of an `mqtts` URL that
was secured before it was opened. -/
theorem publications_secured {config : MqttHealthPublisherConfig} {answers : LibraryAnswers}
    {now : SteadyTime} {events : List PublishEvent}
    (published : (start config.topicPrefix (construct config answers).1 now).publications settings
      events ≠ []) : SecuredConnection config answers := by
  apply securedConnection_of_client
  by_contra missing
  exact published (publications_of_no_client (Bool.not_eq_true _ ▸ missing) events)

/-- A gateway with a certificate of its own and no password. -/
def pilotBroker : MqttHealthPublisherConfig where
  brokerUrl := asciiBytes "mqtts://broker.local:8883".toList
  clientId := asciiBytes "edge-1".toList
  caFile := asciiBytes "ca.pem".toList
  clientCertificateFile := asciiBytes "edge.pem".toList
  clientKeyFile := asciiBytes "edge.key".toList

def pilotAnswers : LibraryAnswers where
  init := true
  new := true
  tlsSet := true
  usernamePwSet := false
  tlsInsecureSet := true
  connectAsync := true
  loopStart := true

theorem publications_secured_pilot : SecuredConnection pilotBroker pilotAnswers := by
  have published : ((start pilotBroker.topicPrefix (construct pilotBroker pilotAnswers).1
      0).publications pilotSettings (.onConnect 0 :: pilotPass.events)).length ≠ 0 := by
    decide +kernel
  exact publications_secured (ne_of_apply_ne List.length published)

end PublishLoop

end GridexEdge.RockPi
