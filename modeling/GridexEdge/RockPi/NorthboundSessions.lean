import GridexEdge.RockPi.NorthboundModbusTcpServer
import GridexEdge.RockPi.SilentEms

/-!
The gateway behind its northbound server.

The server serves one client at a time and one request after the other, between any two steps
of the main loop. What the holding registers hold, and with it every power that the cabinet is
ever ordered to take, goes back to requests that lie whole on the clients' connections.
-/

namespace GridexEdge.RockPi

open GridexEdge.Core Foundation NorthboundModbusTcpServer

/-! ### Requests -/

/-- A write that the server carries out. -/
def Writes (pdu : List UInt8) : Prop :=
  (pdu.head? = some 0x06 ∨ pdu.head? = some 0x10) ∧ WellFormed pdu ∧ InRange pdu

instance decidableWellFormed (pdu : List UInt8) : Decidable (WellFormed pdu) :=
  inferInstanceAs (Decidable (_ ∨ _))

instance decidableInRange (pdu : List UInt8) : Decidable (InRange pdu) :=
  inferInstanceAs (Decidable (_ ∨ _))

instance decidableWrites (pdu : List UInt8) : Decidable (Writes pdu) :=
  inferInstanceAs (Decidable (_ ∧ _))

/-- The word that a request brings to a register. -/
def writtenWord? (index : Fin 17) (pdu : List UInt8) : Option UInt16 :=
  if Writes pdu ∧ start pdu ≤ index then (payload pdu)[index - start pdu]? else none

/-- The word that the newest of the requests over a register brought there. -/
def lastWord (index : Fin 17) : List (List UInt8) → UInt16
  | [] => 0
  | pdu :: earlier => (writtenWord? index pdu).getD (lastWord index earlier)

theorem exists_writtenWord {index : Fin 17} {requests : List (List UInt8)}
    (nonzero : lastWord index requests ≠ 0) :
    ∃ pdu ∈ requests, writtenWord? index pdu = some (lastWord index requests) := by
  induction requests with
  | nil => exact absurd rfl nonzero
  | cons pdu earlier inductionHypothesis =>
      cases written : writtenWord? index pdu with
      | some word =>
          refine ⟨pdu, List.mem_cons_self, ?_⟩
          rw [lastWord, written, Option.getD_some]
      | none =>
          have same : lastWord index (pdu :: earlier) = lastWord index earlier := by
            rw [lastWord, written, Option.getD_none]
          rw [same] at nonzero ⊢
          obtain ⟨other, member, brought⟩ := inductionHypothesis nonzero
          exact ⟨other, List.mem_cons_of_mem _ member, brought⟩

section Server

variable (unitId : UInt8) (bank : NorthboundRegisterBank) {pdu : List UInt8}

/-- To the bank a request is the write it asks for, or nothing. -/
theorem handlePdu_bank (nonempty : pdu ≠ []) :
    (handlePdu bank pdu).2 =
      if Writes pdu then (bank.writeHolding (readU16 pdu 1) (payload pdu)).2 else bank := by
  by_cases writes : Writes pdu
  · obtain ⟨write, formed, inside⟩ := writes
    have bounds := payload_length_bounds write formed
    have some_ : payload pdu ≠ [] := List.ne_nil_of_length_pos bounds.1
    have fits : (readU16 pdu 1).toNat + (payload pdu).length ≤ 17 := by
      rcases write with head | head
      · simpa [InRange, head, start] using inside
      · simpa [InRange, head, start] using inside
    rw [if_pos ⟨write, formed, inside⟩, handlePdu_stored bank write formed inside,
      bank.writeHolding_of_fits some_ fits]
    rfl
  · rw [if_neg writes]
    obtain ⟨function, body, rfl⟩ := List.exists_cons_of_ne_nil nonempty
    have head : (function :: body).head? = some function := rfl
    rcases handlePdu_cases bank head with ⟨formed, inside, accepted⟩ | ⟨code, answer⟩
    · generalize handlePdu bank (function :: body) = answer at accepted ⊢
      cases accepted with
      | readHolding | readInput => rfl
      | writeSingle write => exact absurd ⟨.inl write, formed, inside⟩ writes
      | writeMultiple write => exact absurd ⟨.inr write, formed, inside⟩ writes
    · rw [answer]

theorem handlePdu_register (nonempty : pdu ≠ []) (index : Fin 17) :
    (handlePdu bank pdu).2.holdingRegister index =
      (writtenWord? index pdu).getD (bank.holdingRegister index) := by
  by_cases writes : Writes pdu
  · have after : (handlePdu bank pdu).2.holding =
        writeRange bank.holding (start pdu) (payload pdu) :=
      congrArg NorthboundRegisterBank.holding
        (handlePdu_stored bank writes.1 writes.2.1 writes.2.2)
    rw [NorthboundRegisterBank.holdingRegister, after, writtenWord?]
    refine (getElem_writeRange bank.holding (start pdu) (payload pdu) index index.isLt).trans ?_
    by_cases reached : start pdu ≤ index
    · rw [if_pos ⟨writes, reached⟩]
      by_cases covered : index - start pdu < (payload pdu).length
      · rw [dif_pos ⟨reached, covered⟩, List.getElem?_eq_getElem covered, Option.getD_some]
      · rw [dif_neg (fun both => covered both.2),
          List.getElem?_eq_none (Nat.le_of_not_lt covered), Option.getD_none]
        rfl
    · rw [dif_neg (fun both => reached both.1), if_neg (fun both => reached both.2),
        Option.getD_none]
      rfl
  · rw [handlePdu_bank bank nonempty, if_neg writes, writtenWord?,
      if_neg (fun both => writes both.1), Option.getD_none]

/-- What is handled has a whole frame in front. -/
theorem handleFrame_eq_some {received response unread : List UInt8}
    {after : NorthboundRegisterBank}
    (handled : handleFrame unitId bank received = some (response, unread, after)) :
    ∃ transaction unit pdu, pdu ≠ [] ∧ pdu.length ≤ 253 ∧
      received = Mbap.adu transaction unit pdu ++ unread ∧
      after = (unitAnswer unitId bank unit pdu).2 := by
  have long : 7 ≤ received.length := by
    by_contra short
    rw [handleFrame, if_pos (Nat.lt_of_not_le short)] at handled
    cases handled
  obtain ⟨a, b, c, d, e, f, unit, tail, rfl⟩ : ∃ a b c d e f unit tail,
      received = a :: b :: c :: d :: e :: f :: unit :: tail := by
    rcases received with _ | ⟨a, _ | ⟨b, _ | ⟨c, _ | ⟨d, _ | ⟨e, _ | ⟨f, _ | ⟨unit, tail⟩⟩⟩⟩⟩⟩⟩
    all_goals first
      | exact ⟨a, b, c, d, e, f, unit, tail, rfl⟩
      | exact absurd long (by simp)
  unfold handleFrame at handled
  dsimp only at handled
  rw [if_neg (Nat.not_lt_of_le long)] at handled
  split at handled
  · cases handled
  · next accepted =>
      split at handled
      · cases handled
      · next enough =>
          have open_ : ¬(word c d ≠ 0 ∨ word e f < 2 ∨ 254 < word e f) := accepted
          have there : ¬tail.length < (word e f).toNat - 1 := enough
          rw [not_or, not_or, not_not, UInt16.lt_iff_toNat_lt, UInt16.lt_iff_toNat_lt] at open_
          obtain ⟨protocol, atLeast, atMost⟩ := open_
          change ¬(word e f).toNat < 2 at atLeast
          change ¬254 < (word e f).toNat at atMost
          have high : c = 0 := (highByte_word c d).symm.trans (congrArg highByte protocol)
          have low : d = 0 := (lowByte_word c d).symm.trans (congrArg lowByte protocol)
          have length : (tail.take ((word e f).toNat - 1)).length + 1 = (word e f).toNat := by
            rw [List.length_take]
            omega
          cases handled
          refine ⟨word a b, unit, tail.take ((word e f).toNat - 1), ?_, by omega, ?_, rfl⟩
          · intro empty
            rw [empty, List.length_nil] at length
            omega
          · rw [Mbap.adu_eq, length, UInt16.ofNat_toNat, highByte_word, lowByte_word,
              highByte_word, lowByte_word, high, low, List.append_assoc]
            exact congrArg ([a, b, 0, 0, e, f, unit] ++ ·) (List.take_append_drop _ tail).symm

theorem observed_unitAnswer (observed : bank.Observed) (unit : UInt8) (pdu : List UInt8) :
    (unitAnswer unitId bank unit pdu).2.Observed := by
  rw [unitAnswer]
  split
  · exact observed
  · rw [handlePdu_othersKept bank pdu]
    exact ⟨observed.command, observed.operator, observed.node⟩

theorem unitAnswer_register (unit : UInt8) (nonempty : pdu ≠ []) (index : Fin 17) :
    (unitAnswer unitId bank unit pdu).2.holdingRegister index =
      if unit = unitId then (writtenWord? index pdu).getD (bank.holdingRegister index)
      else bank.holdingRegister index := by
  rw [unitAnswer]
  by_cases own : unit = unitId
  · rw [if_neg (not_not.mpr own), if_pos own]
    exact handlePdu_register bank nonempty index
  · rw [if_pos own, if_neg own]

end Server

/-! ### The station -/

def LoopEvent.isOwn : LoopEvent → Bool
  | .northboundWrite .. => false
  | _ => true

/-- Only the network writes to the holding registers. -/
theorem Gateway.step_holding {Device : Type} (client : IModbusClient Device)
    (gateway : Gateway Device) {event : LoopEvent} (own : event.isOwn = true)
    (observed : gateway.bank.Observed) :
    (gateway.step client event).bank.holding = gateway.bank.holding := by
  obtain ⟨operations, same, fromNetwork⟩ := gateway.step_bank client event
  have elsewhere : ∀ operation ∈ operations, ∀ start values,
      operation ≠ BankOperation.writeHolding start values := by
    rintro operation listed start values rfl
    rw [fromNetwork start values listed] at own
    cases own
  rw [same]
  apply And.right
  refine run_invariant_of_forall NorthboundRegisterBank.perform
    (fun bank => bank.Observed ∧ bank.holding = gateway.bank.holding)
    (fun bank operation elsewhere kept => ?_) ⟨observed, rfl⟩ elsewhere
  have performed := kept.1.performed operation
  refine ⟨performed.observed, ?_⟩
  rcases performed.holding with unchanged | ⟨start, values, write, -⟩
  · exact unchanged.trans kept.2
  · exact absurd write (elsewhere start values)

/-- The gateway with its server: what each client has sent, the newest connection first, what
the server has not read of the one it serves, and the requests for its unit that it has
handled, the newest first. -/
structure Station (Device : Type) where
  gateway : Gateway Device
  streams : List (List UInt8) := []
  unread : Option (List UInt8) := none
  requests : List (List UInt8) := []

/-- What happens at the server, and the steps of the loop. A server that finds less than a whole
frame has met the end of the connection. -/
inductive StationEvent where
  | accept
  | arrive (bytes : List UInt8)
  | serve (sent : Bool)
  | hangUp
  | loop (event : LoopEvent) (own : event.isOwn = true)

/-- A frame as a client sends it. -/
structure ClientFrame where
  transaction : UInt16
  unit : UInt8
  pdu : List UInt8

namespace ClientFrame

variable (frame : ClientFrame)

def bytes : List UInt8 := Mbap.adu frame.transaction frame.unit frame.pdu

def own? (unitId : UInt8) : Option (List UInt8) :=
  if frame.unit = unitId then some frame.pdu else none

end ClientFrame

/-- The request in front, if it is for this unit. -/
def ownRequest? (unitId : UInt8) (received : List UInt8) : Option (List UInt8) :=
  if received.getD 6 0 = unitId then
    some ((received.drop 7).take ((readU16 received 4).toNat - 1))
  else none

theorem ownRequest?_frame (unitId : UInt8) (transaction : UInt16) (unit : UInt8)
    {pdu : List UInt8} (short : pdu.length ≤ 253) (unread : List UInt8) :
    ownRequest? unitId (Mbap.adu transaction unit pdu ++ unread) =
      ClientFrame.own? ⟨transaction, unit, pdu⟩ unitId := by
  have announced : readU16 (Mbap.adu transaction unit pdu ++ unread) 4 =
      UInt16.ofNat (pdu.length + 1) := word_highByte_lowByte _
  have body : (Mbap.adu transaction unit pdu ++ unread).drop 7 = pdu ++ unread := rfl
  have size : (UInt16.ofNat (pdu.length + 1)).toNat - 1 = pdu.length := by
    rw [UInt16.toNat_ofNat']
    omega
  rw [ownRequest?, announced, body, size, List.take_left]
  rfl

namespace Station

section Steps

variable {Device : Type} (client : IModbusClient Device) (unitId : UInt8)
  (station : Station Device)

/-- A second client waits until the first has gone. -/
def accept : Station Device :=
  if station.unread.isSome then station
  else { station with streams := [] :: station.streams, unread := some [] }

def arrive (bytes : List UInt8) : Station Device :=
  match station.unread, station.streams with
  | some unread, stream :: earlier =>
      { station with streams := (stream ++ bytes) :: earlier, unread := some (unread ++ bytes) }
  | _, _ => station

def serve (sent : Bool) : Station Device :=
  match station.unread with
  | none => station
  | some received =>
      match handleFrame unitId station.gateway.bank received with
      | none => { station with unread := none }
      | some (_, unread, bank) =>
          { station with
            gateway.bank := bank
            unread := if sent then some unread else none
            requests := (ownRequest? unitId received).toList ++ station.requests }

def step : StationEvent → Station Device
  | .accept => station.accept
  | .arrive bytes => station.arrive bytes
  | .serve sent => station.serve unitId sent
  | .hangUp => { station with unread := none }
  | .loop event _ => { station with gateway := station.gateway.step client event }

/-- A served request changes the bank as the server answers it, and is logged if it is for
this unit. -/
theorem serve_cases (delivered : Bool) :
    station.serve unitId delivered = station ∨
      station.serve unitId delivered = { station with unread := none } ∨
      ∃ received unread, ∃ frame : ClientFrame, station.unread = some received ∧
        frame.pdu ≠ [] ∧ received = frame.bytes ++ unread ∧
        station.serve unitId delivered =
          { station with
            gateway.bank := (unitAnswer unitId station.gateway.bank frame.unit frame.pdu).2
            unread := if delivered then some unread else none
            requests := (frame.own? unitId).toList ++ station.requests } := by
  unfold serve
  split
  · exact .inl rfl
  · next received waiting =>
      split
      · exact .inr (.inl rfl)
      · next response unread bank handled =>
          obtain ⟨transaction, unit, pdu, nonempty, short, front, rfl⟩ :=
            handleFrame_eq_some unitId _ handled
          refine .inr (.inr ⟨received, unread, ⟨transaction, unit, pdu⟩, waiting, nonempty,
            front, ?_⟩)
          rw [front, ownRequest?_frame unitId transaction unit short]

end Steps

/-! ### The gateway of the station -/

/-- What a request is to the gateway. -/
def requestEvents (pdu : List UInt8) : List LoopEvent :=
  if Writes pdu then [.northboundWrite (readU16 pdu 1) (payload pdu)] else []

/-- The gateway has gone through a run of its own, with the requests as its network writes. -/
def Replays {Device : Type} (client : IModbusClient Device) (started : Gateway Device)
    (station : Station Device) : Prop :=
  ∃ events, station.gateway = run (Gateway.step client) started events ∧
    events.filter (!·.isOwn) = station.requests.reverse.flatMap requestEvents

section Replay

variable {Device : Type} {client : IModbusClient Device} {started : Gateway Device}
  {station : Station Device} {unitId : UInt8}

theorem run_requestEvents (gateway : Gateway Device) {pdu : List UInt8} (nonempty : pdu ≠ []) :
    run (Gateway.step client) gateway (requestEvents pdu) =
      { gateway with bank := (handlePdu gateway.bank pdu).2 } := by
  rw [handlePdu_bank gateway.bank nonempty, requestEvents]
  split
  · rfl
  · rfl

theorem filter_requestEvents (pdu : List UInt8) :
    (requestEvents pdu).filter (!·.isOwn) = requestEvents pdu := by
  rw [requestEvents]
  split
  · rfl
  · rfl

theorem Replays.serve (replays : Replays client started station) (delivered : Bool) :
    Replays client started (station.serve unitId delivered) := by
  rcases station.serve_cases unitId delivered with
    same | same | ⟨received, unread, frame, -, nonempty, -, served⟩
  · rwa [same]
  · rw [same]
    exact replays
  · rw [served]
    obtain ⟨events, reached, network⟩ := replays
    by_cases own : frame.unit = unitId
    · refine ⟨events ++ requestEvents frame.pdu, ?_, ?_⟩
      · rw [run_append, ← reached, run_requestEvents _ nonempty, unitAnswer,
          if_neg (not_not.mpr own)]
      · rw [List.filter_append, network, filter_requestEvents, ClientFrame.own?, if_pos own,
          Option.toList_some, List.singleton_append, List.reverse_cons, List.flatMap_append,
          List.flatMap_singleton]
    · refine ⟨events, ?_, ?_⟩
      · rw [unitAnswer, if_pos own]
        exact reached
      · rw [ClientFrame.own?, if_neg own]
        exact network

theorem Replays.loop (replays : Replays client started station) {event : LoopEvent}
    (own : event.isOwn = true) :
    Replays client started { station with gateway := station.gateway.step client event } := by
  obtain ⟨events, reached, network⟩ := replays
  refine ⟨events ++ [event], ?_, ?_⟩
  · rw [run_append, ← reached]
    rfl
  · rw [List.filter_append, network, List.filter_cons, own]
    exact List.append_nil _

theorem Replays.step (replays : Replays client started station) (event : StationEvent) :
    Replays client started (station.step client unitId event) := by
  cases event with
  | accept =>
      rw [Station.step, accept]
      split
      · exact replays
      · exact replays
  | arrive bytes =>
      rw [Station.step, arrive]
      split
      · exact replays
      · exact replays
  | serve delivered => exact replays.serve delivered
  | hangUp => exact replays
  | loop event own => exact replays.loop own

end Replay

/-! ### The sources of the words -/

/-- The frames that the server has handled on each connection, in their order: they are what it
has read there, and its requests are those among them that are for its unit. -/
structure Handled {Device : Type} (unitId : UInt8) (station : Station Device)
    (frames : List (List ClientFrame)) : Prop where
  carried : List.Forall₂ (fun stream sent => sent.flatMap ClientFrame.bytes <+: stream)
    station.streams frames
  requests : station.requests.reverse = frames.reverse.flatten.filterMap (·.own? unitId)
  reading : ∀ unread, station.unread = some unread → ∃ stream earlier sent others,
    station.streams = stream :: earlier ∧ frames = sent :: others ∧
      stream = sent.flatMap ClientFrame.bytes ++ unread

/-- Where the words of the bank and of the commands come from. -/
structure Sourced {Device : Type} (limit : ConfiguredPowerLimit) (unitId : UInt8)
    (station : Station Device) : Prop where
  observed : station.gateway.bank.Observed
  fresh : Fresh limit station.gateway.controller station.gateway.bus.history
  registers : ∀ index, station.gateway.bank.holdingRegister index =
    lastWord index station.requests
  commands : ∀ receivedAt power enable,
    .command receivedAt power enable ∈ station.gateway.bus.history →
      ∃ earlier, earlier <:+ station.requests ∧
        power = lastWord Holding.requestedPowerKwX10 earlier ∧
        enable = lastWord Holding.commandEnable earlier
  handled : ∃ frames, Handled unitId station frames

namespace Sourced

variable {Device : Type} {client : IModbusClient Device} {limit : ConfiguredPowerLimit}
  {unitId : UInt8} {station : Station Device}

theorem initial (limit : ConfiguredPowerLimit) (approval : CommissioningApproval)
    (device : Device) : Sourced limit unitId
      { gateway := Gateway.initial { configuredLimit := limit } approval device } where
  observed := NorthboundRegisterBank.observed_fresh
  fresh := Fresh.initial limit
  registers index := Vector.getElem_replicate index.isLt
  commands _ _ _ listed := absurd listed List.not_mem_nil
  handled := ⟨[], .nil, rfl, fun _ waiting => absurd waiting (Option.some_ne_none _).symm⟩

theorem hangUp (sourced : Sourced limit unitId station) :
    Sourced limit unitId { station with unread := none } := by
  obtain ⟨frames, handled⟩ := sourced.handled
  exact
    { sourced with
      handled := ⟨frames, handled.carried, handled.requests,
        fun _ waiting => absurd waiting (Option.some_ne_none _).symm⟩ }

theorem accept (sourced : Sourced limit unitId station) :
    Sourced limit unitId station.accept := by
  unfold Station.accept
  split
  · exact sourced
  · obtain ⟨frames, handled⟩ := sourced.handled
    refine { sourced with handled := ⟨[] :: frames, ?_, ?_, fun unread waiting => ?_⟩ }
    · exact .cons List.nil_prefix handled.carried
    · rw [List.reverse_cons, List.flatten_append]
      exact handled.requests.trans (congrArg _ (List.append_nil _).symm)
    · cases waiting
      exact ⟨[], station.streams, [], frames, rfl, rfl, rfl⟩

theorem arrive (sourced : Sourced limit unitId station) (bytes : List UInt8) :
    Sourced limit unitId (station.arrive bytes) := by
  unfold Station.arrive
  split
  · next unread stream earlier waiting opened =>
      obtain ⟨frames, handled⟩ := sourced.handled
      obtain ⟨other, others, sent, before, same, rfl, read⟩ := handled.reading unread waiting
      cases opened.symm.trans same
      have carried := handled.carried
      rw [opened] at carried
      cases carried with
      | cons newest older =>
          refine
            { sourced with handled := ⟨sent :: before, ?_, handled.requests, fun more later => ?_⟩ }
          · exact .cons (newest.trans (List.prefix_append _ _)) older
          · cases later
            refine ⟨stream ++ bytes, earlier, sent, before, rfl, rfl, ?_⟩
            rw [read, List.append_assoc]
  · exact sourced

theorem serve (sourced : Sourced limit unitId station) (delivered : Bool) :
    Sourced limit unitId (station.serve unitId delivered) := by
  rcases station.serve_cases unitId delivered with
    same | same | ⟨received, unread, frame, waiting, nonempty, front, served⟩
  · rwa [same]
  · rw [same]
    exact sourced.hangUp
  · rw [served]
    obtain ⟨frames, handled⟩ := sourced.handled
    obtain ⟨stream, earlier, sent, others, streams, rfl, read⟩ := handled.reading received waiting
    have further : stream = (sent ++ [frame]).flatMap ClientFrame.bytes ++ unread := by
      rw [read, front, List.flatMap_append, List.flatMap_singleton, List.append_assoc]
    have carried := handled.carried
    rw [streams] at carried
    refine
      { observed := observed_unitAnswer unitId _ sourced.observed frame.unit frame.pdu
        fresh := sourced.fresh
        registers := fun index => ?_
        commands := fun receivedAt power enable listed => ?_
        handled := ⟨(sent ++ [frame]) :: others, ?_, ?_, fun rest later => ?_⟩ }
    · rw [unitAnswer_register unitId _ frame.unit nonempty, ClientFrame.own?,
        sourced.registers index]
      split
      · rfl
      · rfl
    · obtain ⟨older, within, said⟩ := sourced.commands receivedAt power enable listed
      exact ⟨older, within.trans (List.suffix_append _ _), said⟩
    · change List.Forall₂ _ station.streams _
      rw [streams]
      cases carried with
      | cons newest older => exact .cons ⟨unread, further.symm⟩ older
    · have before := handled.requests
      rw [List.reverse_cons, List.flatten_append, List.flatten_singleton] at before ⊢
      rw [List.reverse_append, before, ← List.append_assoc,
        @List.filterMap_append _ _ (others.reverse.flatten ++ sent)]
      apply congrArg
      rw [List.filterMap_cons, List.filterMap_nil]
      cases frame.own? unitId with
      | none => rfl
      | some request => rfl
    · change (if delivered then some unread else none) = some rest at later
      split at later
      · cases later
        exact ⟨stream, earlier, sent ++ [frame], others, streams, rfl, further⟩
      · cases later

theorem loop (sourced : Sourced limit unitId station) {event : LoopEvent}
    (own : event.isOwn = true) :
    Sourced limit unitId { station with gateway := station.gateway.step client event } where
  observed := station.gateway.step_observed event sourced.observed
  fresh := station.gateway.fresh_step client event sourced.fresh
  registers index := by
    have same := station.gateway.step_holding client own sourced.observed
    exact (congrArg (·.get index) same).trans (sourced.registers index)
  commands := by
    apply station.gateway.step_commands client _ event _ sourced.commands
    intro now _
    exact ⟨station.requests, List.suffix_rfl, sourced.registers _, sourced.registers _⟩
  handled := by
    obtain ⟨frames, handled⟩ := sourced.handled
    exact ⟨frames, handled.carried, handled.requests, handled.reading⟩

theorem step (sourced : Sourced limit unitId station) (event : StationEvent) :
    Sourced limit unitId (station.step client unitId event) := by
  cases event with
  | accept => exact sourced.accept
  | arrive bytes => exact sourced.arrive bytes
  | serve sent => exact sourced.serve sent
  | hangUp => exact sourced.hangUp
  | loop event own => exact sourced.loop own

/-- Behind a setpoint other than zero is a power that was asked for and enabled. -/
theorem setpoint (sourced : Sourced limit unitId station) {value : UInt16} {acknowledged : Bool}
    {before : List Occurrence}
    (logged : (.write Registers.pcsPowerCommand value acknowledged :: before)
      <:+ station.gateway.bus.history) (nonzero : signed value ≠ 0) :
    ∃ earlier power, earlier <:+ station.requests ∧ lastWord Holding.commandEnable earlier = 1 ∧
      lastWord Holding.requestedPowerKwX10 earlier = power ∧
      (signed value).sign = (signed power).sign ∧ |signed value| ≤ |signed power| ∧
      ∃ pdu ∈ earlier, writtenWord? Holding.requestedPowerKwX10 pdu = some power := by
  obtain ⟨now, receivedAt, power, enable, heartbeatAt, -, latest, -, enabled, -, -, sign, bound⟩ :=
    sourced.fresh.justified _ before logged rfl nonzero
  have member := ((List.suffix_cons _ _).trans logged).subset (Gateway.mem_of_latestCommand latest)
  obtain ⟨earlier, within, powerSaid, enableSaid⟩ := sourced.commands _ _ _ member
  have asked : lastWord Holding.requestedPowerKwX10 earlier ≠ 0 := by
    intro silent
    rw [powerSaid, silent, signed_zero, Int.sign_zero, Int.sign_eq_zero_iff_zero] at sign
    exact nonzero sign
  obtain ⟨pdu, listed, brought⟩ := exists_writtenWord asked
  exact ⟨earlier, power, within, enableSaid.symm.trans enabled, powerSaid.symm, sign, bound,
    pdu, listed, brought.trans (congrArg some powerSaid.symm)⟩

end Sourced

/-- However clients come, send and go between the steps of the loop: each connection begins with
frames, and the requests handled are those among them that are for this unit, each of them once
and in their order. The gateway goes through a run of its own that has the writes of these
requests for its network writes, and its holding registers hold what they brought there last.
Behind every setpoint but zero there is a moment at which the power they had asked for last was
enabled, had its sign and was at least as far from zero. -/
theorem setpoints_requested {Device : Type} (client : IModbusClient Device) (unitId : UInt8)
    (limit : ConfiguredPowerLimit) (approval : CommissioningApproval) (device : Device)
    (events : List StationEvent) :
    let started := Gateway.initial { configuredLimit := limit } approval device
    let station := run (step client unitId) { gateway := started } events
    (∃ frames, List.Forall₂ (fun stream sent => sent.flatMap ClientFrame.bytes <+: stream)
        station.streams frames ∧
        station.requests.reverse = frames.reverse.flatten.filterMap (·.own? unitId)) ∧
      Replays client started station ∧
      (∀ index, station.gateway.bank.holdingRegister index = lastWord index station.requests) ∧
      ∀ value acknowledged before, (.write Registers.pcsPowerCommand value acknowledged :: before)
          <:+ station.gateway.bus.history → signed value ≠ 0 →
        ∃ earlier power, earlier <:+ station.requests ∧
          lastWord Holding.commandEnable earlier = 1 ∧
          lastWord Holding.requestedPowerKwX10 earlier = power ∧
          (signed value).sign = (signed power).sign ∧ |signed value| ≤ |signed power| ∧
          ∃ pdu ∈ earlier, writtenWord? Holding.requestedPowerKwX10 pdu = some power := by
  intro started station
  have replays : Replays client started station :=
    run_invariant (step client unitId) (Replays client started)
      (fun _ event replays => replays.step event) ⟨[], rfl, rfl⟩ events
  have sourced : Sourced limit unitId station :=
    run_invariant (step client unitId) (Sourced limit unitId)
      (fun _ event sourced => sourced.step event) (Sourced.initial limit approval device) events
  obtain ⟨frames, handled⟩ := sourced.handled
  exact ⟨⟨frames, handled.carried, handled.requests⟩, replays, sourced.registers,
    fun _ _ _ logged nonzero => sourced.setpoint logged nonzero⟩

/-- A client orders 10 kW in one request that arrives in two parts. -/
def orderingEvents : List StationEvent :=
  let order := Mbap.adu 7 1 [0x10, 0, 0, 0, 3, 6, 0, 1, 0, 100, 0, 1]
  [.accept, .arrive (order.take 9), .loop (.tick 0) rfl, .arrive (order.drop 9), .serve true,
    .loop (.takeCommand (seconds 1)) rfl, .loop (.tick (seconds 2)) rfl]

theorem setpoints_requested_ordering :
    let station := run (step (cabinetInOrder 1000) 1)
      { gateway := Gateway.initial {} ControlLoop.fullApproval () } orderingEvents
    setpointWrites station.gateway.bus.history = [(100, true), (0, true)] ∧
      ∀ index, station.gateway.bank.holdingRegister index = lastWord index station.requests :=
  ⟨by decide +kernel, (setpoints_requested (cabinetInOrder 1000) 1 {} ControlLoop.fullApproval ()
    orderingEvents).2.2.1⟩

end Station

end GridexEdge.RockPi
