import GridexEdge.Foundation.Framing
import GridexEdge.Foundation.Runs
import GridexEdge.Node.EthernetControlServer

/-!
The endpoint's client sends a stream; the main loop reads it in pieces.

What the endpoint answers, what it does to the node and whether it drops the client
is one parse of the stream from front to back. The buffer never fills up: what it
keeps is less than a frame, and the next pass has room for more.
-/

namespace GridexEdge.Node

open Foundation

namespace EthernetControlServer

/-- The rule of `processFrames`. -/
def cutFrame (bytes : List UInt8) : Cut :=
  if bytes.length < 7 then .wait
  else
    let protocolLength := readU16 bytes 4
    let total := 6 + protocolLength.toNat
    if protocolLength < 2 ∨ 260 < total then .stop
    else if bytes.length < total then .wait
    else .frame total

/-- Between eight bytes and two hundred and sixty, all of them there. -/
theorem size_of_cutFrame {bytes : List UInt8} {size : Nat} (sized : cutFrame bytes = .frame size) :
    8 ≤ size ∧ size ≤ 260 ∧ size ≤ bytes.length := by
  unfold cutFrame at sized
  dsimp only at sized
  split_ifs at sized with short outside incomplete
  have two : (2 : UInt16).toNat = 2 := rfl
  rw [Cut.frame.injEq] at sized
  rw [UInt16.lt_iff_toNat_lt, two] at outside
  omega

theorem cutFrame_append {bytes : List UInt8} (more : List UInt8)
    (decided : cutFrame bytes ≠ .wait) : cutFrame (bytes ++ more) = cutFrame bytes := by
  unfold cutFrame at decided ⊢
  split_ifs at decided with short
  · exact absurd rfl decided
  · rw [readU16_append_left _ _ _ (by omega), List.length_append, if_neg (by omega), if_neg short]
    dsimp only at decided ⊢
    split_ifs at decided ⊢
    all_goals first | rfl | exact absurd rfl decided | omega

/-- What waits for more is less than a frame. -/
theorem length_of_waits {bytes : List UInt8} (waits : cutFrame bytes = .wait) :
    bytes.length < 260 := by
  unfold cutFrame at waits
  dsimp only at waits
  split_ifs at waits <;> omega

def framing : Framing UInt8 where
  cut := cutFrame
  size_pos sized := by
    have := size_of_cutFrame sized
    omega
  size_le sized := (size_of_cutFrame sized).2.2
  cut_append more decided := cutFrame_append more decided

/-- The answers to frames in their order, and the node after them. -/
def answers (unitId : UInt8) : MbusNode → List (List UInt8) → List (List UInt8) × MbusNode
  | node, [] => ([], node)
  | node, frame :: rest =>
      let handled := handle unitId node frame
      let later := answers unitId handled.2 rest
      (if handled.1 = [] then later.1 else handled.1 :: later.1, later.2)

theorem answers_append (unitId : UInt8) (node : MbusNode) (first second : List (List UInt8)) :
    answers unitId node (first ++ second) =
      ((answers unitId node first).1 ++ (answers unitId (answers unitId node first).2 second).1,
        (answers unitId (answers unitId node first).2 second).2) := by
  induction first generalizing node with
  | nil => rfl
  | cons frame rest inductionHypothesis =>
      rw [List.cons_append, answers, answers, inductionHypothesis]
      dsimp only
      split <;> simp

/-- One call takes the buffer apart as it stands. -/
theorem processFrames_eq_scan (server : EthernetControlServer) (node : MbusNode) :
    server.processFrames node =
      ((answers server.unitId node (framing.scan server.rx).frames).1,
        (if (framing.scan server.rx).stopped then { server with client := none, rx := [] }
          else { server with rx := (framing.scan server.rx).rest }),
        (answers server.unitId node (framing.scan server.rx).frames).2) := by
  induction server, node using processFrames.induct with
  | case1 server node short =>
      have waits : framing.cut server.rx = .wait := if_pos short
      rw [processFrames, if_pos short, Framing.scan_of_wait waits]
      rfl
  | case2 server node long protocolLength total outside =>
      have stops : framing.cut server.rx = .stop := (if_neg long).trans (if_pos outside)
      rw [processFrames, if_neg long, Framing.scan_of_stop stops]
      dsimp only
      rw [if_pos outside]
      rfl
  | case3 server node long protocolLength total inside incomplete =>
      have waits : framing.cut server.rx = .wait :=
        (if_neg long).trans ((if_neg inside).trans (if_pos incomplete))
      rw [processFrames, if_neg long, Framing.scan_of_wait waits]
      dsimp only
      rw [if_neg inside, if_pos incomplete]
      rfl
  | case4 server node long protocolLength total inside complete handled inductionHypothesis =>
      have sized : framing.cut server.rx = .frame total :=
        (if_neg long).trans ((if_neg inside).trans (if_neg complete))
      rw [processFrames, if_neg long]
      dsimp only
      rw [if_neg inside, if_neg complete, inductionHypothesis, Framing.scan_of_frame sized]
      rfl

/-- A buffer that was taken apart has room left. -/
theorem length_rx_processFrames (server : EthernetControlServer) (node : MbusNode) :
    (server.processFrames node).2.1.rx.length < 260 := by
  rw [processFrames_eq_scan]
  dsimp only
  split
  · simp
  · next running =>
      have waits := framing.cut_rest server.rx
      rw [if_neg running] at waits
      exact length_of_waits waits

theorem length_rx_loop {server : EthernetControlServer} (short : server.rx.length < 260)
    (node : MbusNode) (input : ControlInput) : (server.loop node input).2.1.rx.length < 260 := by
  unfold EthernetControlServer.loop
  dsimp only
  split
  · unfold acceptClient
    split
    · exact short
    · split
      · exact short
      · split
        · exact short
        · simp
  · split
    · simp
    · exact length_rx_processFrames _ node

/-- The client's bytes are in time when a begun frame is not left alone for more than a
second. -/
def InTime (server : EthernetControlServer) (input : ControlInput) : Prop :=
  server.rx = [] ∨ input.available ≠ [] ∨ input.nowMs - server.lastByteMs ≤ 1000

instance decidableInTime (server : EthernetControlServer) (input : ControlInput) :
    Decidable (server.InTime input) := inferInstanceAs (Decidable (_ ∨ _))

theorem loop_of_inTime {server : EthernetControlServer} (node : MbusNode) {input : ControlInput}
    (attached : server.client.isSome = true) (connected : input.connected = true)
    (short : server.rx.length < 260) (inTime : server.InTime input) :
    server.loop node input = (server.readAvailable input).processFrames node := by
  have kept : server.acceptClient input = server := by
    rw [acceptClient, attached, connected]
    rfl
  have present : server.client ≠ none := Option.isSome_iff_ne_none.mp attached
  have lastByte : ((server.readAvailable input).processFrames node).2.1.lastByteMs =
      (server.readAvailable input).lastByteMs := by
    rw [processFrames_eq_scan]
    dsimp only
    split <;> rfl
  unfold EthernetControlServer.loop
  rw [kept]
  dsimp only
  rw [if_neg present, lastByte, if_neg]
  rintro ⟨begun, idle⟩
  by_cases silent : input.available = []
  · have unchanged : server.readAvailable input = server := by
      rw [readAvailable, silent]
      simp
    rw [unchanged] at idle begun
    rcases inTime with empty | arrived | recent
    · refine begun ?_
      rw [processFrames_eq_scan, empty, Framing.scan_of_wait rfl]
      rfl
    · exact arrived silent
    · exact absurd idle (UInt32.not_lt.mpr recent)
  · have read : input.available.take (300 - server.rx.length) ≠ [] := by
      rw [Ne, List.take_eq_nil_iff, not_or]
      exact ⟨by omega, silent⟩
    have now : (server.readAvailable input).lastByteMs = input.nowMs := if_neg read
    rw [now] at idle
    simp at idle

/-! ### One connection -/

/-- What a pass of the main loop finds: more bytes from the client, whoever else wants
to connect, and the time. -/
structure Arrival where
  bytes : List UInt8
  candidate : Option UInt32
  nowMs : UInt32

/-- The endpoint and its node, what the client has sent and was not read yet, and all
answers so far. -/
structure Connection where
  server : EthernetControlServer
  node : MbusNode
  unread : List UInt8 := []
  responses : List (List UInt8) := []

namespace Connection

/-- A client has just been accepted. -/
def accepted (server : EthernetControlServer) (remoteIP : UInt32) (node : MbusNode) :
    Connection :=
  { server := { server with client := some remoteIP, rx := [] }, node := node }

variable (connection : Connection)

/-- After the client was dropped nobody else connects: that would be another stream. -/
def input (arrival : Arrival) : ControlInput :=
  { connected := true
    candidate := if connection.server.client.isSome then arrival.candidate else none
    available := connection.unread ++ arrival.bytes
    nowMs := arrival.nowMs }

def pass (arrival : Arrival) : Connection :=
  let looped := connection.server.loop connection.node (connection.input arrival)
  { server := looped.2.1
    node := looped.2.2
    unread := (connection.input arrival).available.drop (300 - connection.server.rx.length)
    responses := connection.responses ++ looped.1 }

def InTime (arrival : Arrival) : Prop := connection.server.InTime (connection.input arrival)

instance decidableInTime (arrival : Arrival) : Decidable (connection.InTime arrival) :=
  inferInstanceAs (Decidable (_ ∨ _))

/-- The endpoint has read this much of the stream, and stands where the parse of it
stands. -/
structure Stands (unitId : UInt8) (start : MbusNode) (read : List UInt8) : Prop where
  unit : connection.server.unitId = unitId
  responses : connection.responses = (answers unitId start (framing.scan read).frames).1
  node : connection.node = (answers unitId start (framing.scan read).frames).2
  dropped : (framing.scan read).stopped = true →
    connection.server.client = none ∧ connection.server.rx = []
  running : (framing.scan read).stopped = false →
    connection.server.client.isSome = true ∧
      connection.server.rx = (framing.scan read).rest

variable {connection} {unitId : UInt8} {start : MbusNode} {read : List UInt8}

theorem stands_accepted (server : EthernetControlServer) (remoteIP : UInt32) (node : MbusNode) :
    (accepted server remoteIP node).Stands server.unitId node [] := by
  have nothing : framing.scan [] = { frames := [], stopped := false, rest := [] } :=
    Framing.scan_of_wait rfl
  constructor
  · rfl
  · rw [nothing]
    rfl
  · rw [nothing]
    rfl
  · intro stopped
    rw [nothing] at stopped
    exact absurd stopped (by simp)
  · intro _
    rw [nothing]
    exact ⟨rfl, rfl⟩

/-- One pass reads on by what fits in the buffer. -/
theorem stands_pass (stands : connection.Stands unitId start read) {arrival : Arrival}
    (inTime : connection.InTime arrival) :
    (connection.pass arrival).Stands unitId start
      (read ++ (connection.input arrival).available.take (300 - connection.server.rx.length)) := by
  cases stopped : (framing.scan read).stopped with
  | true =>
      obtain ⟨dropped, empty⟩ := stands.dropped stopped
      have unasked : (connection.input arrival).candidate = none := by
        rw [input, dropped]
        rfl
      have idle := loop_of_dropped connection.node dropped unasked
      rw [pass, idle]
      constructor
      · exact stands.unit
      · rw [framing.scan_append, if_pos stopped, List.append_nil]
        exact stands.responses
      · rw [framing.scan_append, if_pos stopped]
        exact stands.node
      · exact fun _ => ⟨rfl, empty⟩
      · intro running
        rw [framing.scan_append, if_pos stopped] at running
        exact absurd (stopped.symm.trans running) (by simp)
  | false =>
      obtain ⟨attached, buffered⟩ := stands.running stopped
      have short : connection.server.rx.length < 260 := by
        have waits := framing.cut_rest read
        rw [if_neg (by simp [stopped]), ← buffered] at waits
        exact length_of_waits waits
      have looped := (loop_of_inTime connection.node attached rfl short inTime).trans
        (processFrames_eq_scan _ connection.node)
      have later : (connection.server.readAvailable (connection.input arrival)).rx =
          (framing.scan read).rest ++
            (connection.input arrival).available.take (300 - connection.server.rx.length) := by
        rw [← buffered]
        rfl
      have unit : (connection.server.readAvailable (connection.input arrival)).unitId = unitId :=
        stands.unit
      have scanned := framing.scan_append read
        ((connection.input arrival).available.take (300 - connection.server.rx.length))
      rw [if_neg (by simp [stopped]), ← later] at scanned
      have answered := answers_append unitId start (framing.scan read).frames
        (framing.scan (connection.server.readAvailable (connection.input arrival)).rx).frames
      rw [← stands.responses, ← stands.node] at answered
      rw [pass, looped, unit]
      constructor
      · dsimp only
        split <;> rfl
      · rw [scanned, answered]
      · rw [scanned, answered]
      · intro dropped
        rw [scanned] at dropped
        dsimp only at dropped ⊢
        rw [if_pos dropped]
        exact ⟨rfl, rfl⟩
      · intro running
        rw [scanned] at running ⊢
        dsimp only at running ⊢
        rw [if_neg (by simp [running])]
        exact ⟨attached, rfl⟩

/-- Whatever the pieces, the bytes that were read and those that were not are the
stream. -/
theorem stands_run (stands : connection.Stands unitId start read) {arrivals : List Arrival}
    (inTime : Along pass InTime connection arrivals) :
    ∃ later, (run pass connection arrivals).Stands unitId start (read ++ later) ∧
      later ++ (run pass connection arrivals).unread =
        connection.unread ++ arrivals.flatMap Arrival.bytes := by
  induction arrivals generalizing connection read with
  | nil =>
      refine ⟨[], ?_, by simp⟩
      rw [List.append_nil]
      exact stands
  | cons arrival rest inductionHypothesis =>
      obtain ⟨later, reached, read_on⟩ :=
        inductionHypothesis (stands_pass stands inTime.1) inTime.2
      refine ⟨_, by rw [← List.append_assoc]; exact reached, ?_⟩
      rw [run_cons, List.append_assoc, read_on, pass, ← List.append_assoc,
        List.take_append_drop, List.flatMap_cons, ← List.append_assoc]
      rfl

/-- The parse of a stream from front to back: what was answered, the node, and whether
the client was dropped. -/
structure OnePass (connection : Connection) (unitId : UInt8) (start : MbusNode)
    (stream : List UInt8) : Prop where
  responses : connection.responses = (answers unitId start (framing.scan stream).frames).1
  node : connection.node = (answers unitId start (framing.scan stream).frames).2
  dropped : connection.server.client = none ↔ (framing.scan stream).stopped = true

/-- A client that was dropped has sent what it was dropped for. -/
theorem onePass_of_stands (stands : connection.Stands unitId start read) {behind : List UInt8}
    (finished : connection.server.client = none ∨ behind = []) :
    connection.OnePass unitId start (read ++ behind) := by
  cases stopped : (framing.scan read).stopped with
  | true =>
      have scanned := framing.scan_append read behind
      rw [if_pos stopped] at scanned
      constructor
      · rw [scanned]
        exact stands.responses
      · rw [scanned]
        exact stands.node
      · rw [scanned]
        exact iff_of_true (stands.dropped stopped).1 stopped
  | false =>
      have attached := Option.isSome_iff_ne_none.mp (stands.running stopped).1
      rw [finished.resolve_left attached, List.append_nil]
      exact ⟨stands.responses, stands.node, iff_of_false attached (by simp [stopped])⟩

/-- The buffer has room for more than it waits for, and everything sent is read. -/
structure NeverJams (connection : Connection) : Prop where
  buffered : connection.server.rx.length < 260
  drains : ∀ silent : List Arrival, (∀ arrival ∈ silent, arrival.bytes = []) →
    connection.unread.length ≤ 41 * silent.length → (run pass connection silent).unread = []

theorem neverJams_of_short (short : connection.server.rx.length < 260) :
    connection.NeverJams := by
  refine ⟨short, fun silent => ?_⟩
  induction silent generalizing connection with
  | nil =>
      intro _ few
      exact List.length_eq_zero_iff.mp (Nat.le_zero.mp few)
  | cons arrival rest inductionHypothesis =>
      intro allSilent few
      have left : (connection.pass arrival).unread.length =
          connection.unread.length - (300 - connection.server.rx.length) := by
        rw [pass, List.length_drop, input, allSilent arrival List.mem_cons_self,
          List.append_nil]
      refine inductionHypothesis (length_rx_loop short _ _)
        (fun later member => allSilent later (List.mem_cons_of_mem _ member)) ?_
      rw [left]
      rw [List.length_cons] at few
      omega

/-- However a stream is split over the passes, as long as it is in time: once it is
read, or the client was dropped, everything is as after one parse of it. At every moment
the buffer has room, and no call is given a frame of less than eight bytes. -/
theorem reassembly_is_one_pass (server : EthernetControlServer) (remoteIP : UInt32)
    (node : MbusNode) (arrivals : List Arrival)
    (inTime : Along pass InTime (accepted server remoteIP node) arrivals) :
    let reached := run pass (accepted server remoteIP node) arrivals
    (reached.server.client = none ∨ reached.unread = [] →
        reached.OnePass server.unitId node (arrivals.flatMap Arrival.bytes)) ∧
      reached.NeverJams ∧
      ∀ buffer, ∀ frame ∈ (framing.scan buffer).frames, 8 ≤ frame.length ∧ frame.length ≤ 260 := by
  intro reached
  refine ⟨fun finished => ?_, ?_, fun buffer frame member => ?_⟩
  · obtain ⟨read, stands, stream⟩ := stands_run (stands_accepted server remoteIP node) inTime
    have whole : read ++ reached.unread = arrivals.flatMap Arrival.bytes := stream
    rw [← whole]
    exact onePass_of_stands stands finished
  · apply neverJams_of_short
    apply run_invariant pass (fun connection => connection.server.rx.length < 260)
    · exact fun connection arrival short => length_rx_loop short _ _
    · show ([] : List UInt8).length < 260
      simp
  · obtain ⟨behind, sized⟩ := framing.cut_of_mem_frames member
    have bounds := size_of_cutFrame sized
    exact ⟨bounds.1, bounds.2.1⟩

/-- A read request in three pieces, the last of them with the start of a header that is
none; the rest of it comes half a second later. -/
def threePieces : List Arrival :=
  [ { bytes := [0, 1, 0, 0, 0], candidate := some 9, nowMs := 10 },
    { bytes := [6, 1, 3, 0], candidate := none, nowMs := 20 },
    { bytes := [0, 0, 1, 0, 2, 0], candidate := none, nowMs := 900 },
    { bytes := [0, 0, 1, 1, 3, 0], candidate := none, nowMs := 1400 } ]

theorem reassembly_is_one_pass_threePieces :
    let reached := run pass (accepted {} 7 (.ofConfig {})) threePieces
    reached.OnePass 1 (.ofConfig {})
        [0, 1, 0, 0, 0, 6, 1, 3, 0, 0, 0, 1, 0, 2, 0, 0, 0, 1, 1, 3, 0] ∧
      reached.responses = [[0, 1, 0, 0, 0, 5, 1, 3, 2, 0x47, 0x58]] ∧
      reached.server.client = none :=
  have dropped : (run pass (accepted {} 7 (.ofConfig {})) threePieces).server.client = none := by
    decide +kernel
  ⟨(reassembly_is_one_pass {} 7 (.ofConfig {}) threePieces (by decide +kernel)).1 (.inl dropped),
    by decide +kernel, dropped⟩

end Connection

end EthernetControlServer

end GridexEdge.Node
