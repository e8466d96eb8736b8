import GridexEdge.Foundation.HttpMessage
import GridexEdge.RockPi.OtaApply
import GridexEdge.RockPi.OtaHash

/-!
The update client as a whole program: what it reads, the bytes it sends, and how it ends.

The firmware file is read twice, once for its digest and once to be sent, and its size is
asked for on its own; only for a file that stays the same do the three agree.
-/

namespace GridexEdge.RockPi.OtaApply

open Foundation

/-! ### The program -/

/-- A connection: how much each call of `send` will take, nothing once it is broken, and
what it has taken so far. -/
structure Connection where
  willTake : List Nat
  wire : List UInt8 := []

def sendAll (data : List UInt8) (connection : Connection) : Bool × Connection :=
  if data = [] then (true, connection)
  else
    match _calls : connection.willTake with
    | [] => (false, connection)
    | sent :: later =>
        if sent = 0 then (false, { connection with willTake := later })
        else
          sendAll (data.drop sent)
            { willTake := later, wire := connection.wire ++ data.take sent }
termination_by connection.willTake.length
decreasing_by
  rw [_calls]
  exact Nat.lt_succ_self _

/-- The file goes out in pieces of the buffer. -/
def sendFile (contents : List UInt8) (connection : Connection) : Bool × Connection :=
  if contents = [] then (true, connection)
  else
    let sent := sendAll (contents.take 8192) connection
    if sent.1 then sendFile (contents.drop 8192) sent.2 else sent
termination_by contents.length
decreasing_by
  have nonempty := List.length_pos_iff.mpr ‹contents ≠ []›
  rw [List.length_drop]
  omega

def boundary : List UInt8 := asciiBytes "gridex-ota-v1-boundary".toList

def multipartStart : List UInt8 :=
  asciiBytes "--".toList ++ boundary ++
    asciiBytes ("\r\nContent-Disposition: form-data; name=\"firmware\"; " ++
      "filename=\"firmware.bin\"").toList ++
    asciiBytes "\r\nContent-Type: application/octet-stream\r\n\r\n".toList

def multipartEnd : List UInt8 :=
  asciiBytes "\r\n--".toList ++ boundary ++ asciiBytes "--\r\n".toList

def contentLength (size : Nat) : Nat := multipartStart.length + size + multipartEnd.length

def requestHeader (host : List UInt8) (size : Nat) (digest token : List UInt8) : List UInt8 :=
  asciiBytes "POST /gridex/ota HTTP/1.1\r\nHost: ".toList ++ host ++
    asciiBytes "\r\nContent-Type: multipart/form-data; boundary=".toList ++ boundary ++
    asciiBytes "\r\nContent-Length: ".toList ++ asciiBytes (decimal (contentLength size)) ++
    asciiBytes "\r\nX-GrideX-SHA256: ".toList ++ digest ++
    asciiBytes "\r\nX-GrideX-Token: ".toList ++ token ++
    asciiBytes "\r\nConnection: close\r\n\r\n".toList

/-- What the program finds: the size of the file, the token file, the file when it is
hashed, the connection, the file when it is sent, and what one `recv` gives. -/
structure Surroundings where
  host : List UInt8
  fileSize : Option Nat
  ownerOnly : Bool
  tokenFile : List UInt8
  opened : Bool
  toEnd : Bool
  hashed : List UInt8
  connects : Bool
  willTake : List Nat
  firmware : List UInt8
  reply : List UInt8

def statusLine (reply : List UInt8) : List UInt8 :=
  ((Http.cutAt Http.crlf (reply.take 255)).map (·.1)).getD (reply.take 255)

def accepts (reply : List UInt8) : Bool :=
  (Http.cutAt (asciiBytes " 200 ".toList) (statusLine reply)).isSome

def sendRequest (header firmware : List UInt8) (connection : Connection) : Bool × Connection :=
  let headed := sendAll header connection
  let started := if headed.1 then sendAll multipartStart headed.2 else headed
  let filed := if started.1 then sendFile firmware started.2 else started
  if filed.1 then sendAll multipartEnd filed.2 else filed

/-- The exit status, and the bytes that have left. -/
def main (found : Surroundings) : Nat × List UInt8 :=
  match found.fileSize with
  | none => (65, [])
  | some size =>
      if size = 0 ∨ 3 * 1024 * 1024 < size then (65, [])
      else
        match readToken found.ownerOnly found.tokenFile,
            hashFile found.opened found.toEnd found.hashed with
        | some token, some digest =>
            if !found.connects then (67, [])
            else
              let sent := sendRequest (requestHeader found.host size digest token) found.firmware
                { willTake := found.willTake }
              if !sent.1 || found.reply.isEmpty || !accepts found.reply then (68, sent.2.wire)
              else (0, sent.2.wire)
        | _, _ => (66, [])

/-! ### What is sent -/

/-- A beginning of the data has been taken, and success means all of it. -/
structure Sent (data wire : List UInt8) (result : Bool × Connection) : Prop where
  begun : result.2.wire <+: wire ++ data
  whole : result.1 = true ↔ result.2.wire = wire ++ data

theorem sent_nothing (connection : Connection) :
    Sent [] connection.wire (true, connection) where
  begun := by rw [List.append_nil]
  whole := by simp

theorem sent_broken {data : List UInt8} {connection : Connection} (nonempty : data ≠ [])
    (willTake : List Nat) :
    Sent data connection.wire (false, { connection with willTake := willTake }) where
  begun := List.prefix_append _ _
  whole := by simpa using nonempty

/-- What is sent in two steps, the second only behind a success. -/
theorem Sent.andThen {first second wire : List UInt8} {result : Bool × Connection}
    (sent : Sent first wire result) {next : Bool × Connection}
    (behind : result.1 = true → Sent second result.2.wire next) :
    Sent (first ++ second) wire (if result.1 then next else result) := by
  cases success : result.1 with
  | true =>
      have later := behind success
      rw [sent.whole.mp success] at later
      rw [if_pos rfl]
      exact ⟨by simpa using later.begun, by simpa using later.whole⟩
  | false =>
      rw [if_neg Bool.false_ne_true]
      refine ⟨sent.begun.trans (by simp), ?_⟩
      rw [success]
      refine ⟨fun wrong => absurd wrong Bool.false_ne_true, fun taken => ?_⟩
      have shorter := sent.begun.length_le
      have length := congrArg List.length taken
      simp only [List.length_append] at shorter length
      have nothing : second = [] := List.length_eq_zero_iff.mp (by omega)
      rw [nothing, List.append_nil, ← sent.whole, success] at taken
      exact absurd taken Bool.false_ne_true

theorem sendAll_of_call {data : List UInt8} {connection : Connection} {sent : Nat}
    {later : List Nat} (nonempty : data ≠ []) (call : connection.willTake = sent :: later) :
    sendAll data connection =
      if sent = 0 then (false, { connection with willTake := later })
      else
        sendAll (data.drop sent)
          { willTake := later, wire := connection.wire ++ data.take sent } := by
  rw [sendAll, if_neg nonempty]
  split
  · next broken => exact absurd (broken.symm.trans call) (by simp)
  · next taken =>
      cases taken.symm.trans call
      rfl

theorem sent_sendAll (data : List UInt8) (connection : Connection) :
    Sent data connection.wire (sendAll data connection) := by
  induction data, connection using sendAll.induct with
  | case1 connection =>
      rw [sendAll, if_pos rfl]
      exact sent_nothing connection
  | case2 data connection nonempty broken =>
      rw [sendAll, if_neg nonempty]
      split
      · exact sent_broken nonempty connection.willTake
      · next taken => exact absurd (broken.symm.trans taken) (by simp)
  | case3 data connection nonempty later taken =>
      rw [sendAll_of_call nonempty taken, if_pos rfl]
      exact sent_broken nonempty later
  | case4 data connection nonempty sent later taken progress inductionHypothesis =>
      rw [sendAll_of_call nonempty taken, if_neg progress]
      have split :
          connection.wire ++ data.take sent ++ data.drop sent = connection.wire ++ data := by
        rw [List.append_assoc, List.take_append_drop]
      exact ⟨split ▸ inductionHypothesis.begun, split ▸ inductionHypothesis.whole⟩

theorem sent_sendFile (contents : List UInt8) (connection : Connection) :
    Sent contents connection.wire (sendFile contents connection) := by
  induction contents, connection using sendFile.induct with
  | case1 connection =>
      rw [sendFile, if_pos rfl]
      exact sent_nothing connection
  | case2 contents connection nonempty sent success inductionHypothesis =>
      rw [sendFile, if_neg nonempty]
      have pieces := (sent_sendAll (contents.take 8192) connection).andThen
        fun _ => inductionHypothesis
      rwa [List.take_append_drop] at pieces
  | case3 contents connection nonempty sent failure =>
      rw [sendFile, if_neg nonempty]
      have pieces := @Sent.andThen _ (contents.drop 8192) _ _
        (sent_sendAll (contents.take 8192) connection)
        (sendFile (contents.drop 8192) sent.2) fun success => absurd success failure
      rwa [List.take_append_drop] at pieces

theorem sent_sendRequest (header firmware : List UInt8) (connection : Connection) :
    Sent (header ++ multipartStart ++ firmware ++ multipartEnd) connection.wire
      (sendRequest header firmware connection) :=
  (((sent_sendAll header connection).andThen fun _ => sent_sendAll multipartStart _).andThen
    fun _ => sent_sendFile firmware _).andThen fun _ => sent_sendAll multipartEnd _

/-! ### The request as a message -/

def route : List UInt8 := asciiBytes "POST /gridex/ota HTTP/1.1".toList

def shaHeader : List UInt8 := asciiBytes "X-GrideX-SHA256".toList

def tokenHeader : List UInt8 := asciiBytes "X-GrideX-Token".toList

def contentTypeName : List UInt8 := asciiBytes "Content-Type".toList

def partLines : List (List UInt8) :=
  [asciiBytes ("Content-Disposition: form-data; name=\"firmware\"; " ++
      "filename=\"firmware.bin\"").toList,
    asciiBytes "Content-Type: application/octet-stream".toList]

/-- The one part of the body. -/
def firmwarePart (firmware : List UInt8) : Http.Part where
  lines := partLines
  content := firmware

def otaMessage (host digest token firmware : List UInt8) : Http.Message where
  requestLine := route
  fields :=
    [(asciiBytes "Host".toList, host),
      (contentTypeName, asciiBytes "multipart/form-data; boundary=".toList ++ boundary),
      (Http.contentLengthName, asciiBytes (decimal (contentLength firmware.length))),
      (shaHeader, digest),
      (tokenHeader, token),
      (asciiBytes "Connection".toList, asciiBytes "close".toList)]
  body := multipartStart ++ firmware ++ multipartEnd

theorem multipartBytes_firmware (firmware : List UInt8) :
    Http.multipartBytes boundary [firmwarePart firmware] =
      multipartStart ++ firmware ++ multipartEnd := by
  have start : Http.dashes ++ boundary ++ (Http.crlf ++ Http.headBytes partLines) =
      multipartStart := by decide +kernel
  have ending : Http.delimiter boundary ++ Http.dashes ++ Http.crlf = multipartEnd := by
    decide +kernel
  rw [← start, ← ending]
  simp only [Http.multipartBytes, Http.Part.bytes, List.flatMap_cons, List.flatMap_nil,
    List.append_nil, List.append_assoc]
  rfl

theorem bytes_otaMessage (host digest token firmware : List UInt8) :
    (otaMessage host digest token firmware).bytes =
      requestHeader host firmware.length digest token ++ multipartStart ++ firmware ++
        multipartEnd := by
  have first : asciiBytes "POST /gridex/ota HTTP/1.1\r\nHost: ".toList =
      route ++ Http.crlf ++ (asciiBytes "Host".toList ++ [0x3A, 0x20]) := by decide +kernel
  have type : asciiBytes "\r\nContent-Type: multipart/form-data; boundary=".toList =
      Http.crlf ++ (contentTypeName ++ [0x3A, 0x20] ++
        asciiBytes "multipart/form-data; boundary=".toList) := by decide +kernel
  have length : asciiBytes "\r\nContent-Length: ".toList =
      Http.crlf ++ (Http.contentLengthName ++ [0x3A, 0x20]) := by decide +kernel
  have sha : asciiBytes "\r\nX-GrideX-SHA256: ".toList =
      Http.crlf ++ (shaHeader ++ [0x3A, 0x20]) := by decide +kernel
  have secret : asciiBytes "\r\nX-GrideX-Token: ".toList =
      Http.crlf ++ (tokenHeader ++ [0x3A, 0x20]) := by decide +kernel
  have last : asciiBytes "\r\nConnection: close\r\n\r\n".toList =
      Http.crlf ++ (asciiBytes "Connection".toList ++ [0x3A, 0x20] ++ asciiBytes "close".toList) ++
        Http.crlf ++ Http.crlf := by decide +kernel
  rw [requestHeader, first, type, length, sha, secret, last]
  simp only [Http.Message.bytes, Http.Message.lines, Http.headBytes, Http.fieldLine, otaMessage,
    List.map_cons, List.map_nil, List.flatMap_cons, List.flatMap_nil, List.nil_append,
    List.append_assoc]

/-- Text without blanks and control characters. -/
def Solid (text : List UInt8) : Prop := ∀ byte ∈ text, 0x21 ≤ byte

theorem plain_of_solid {name value : List UInt8}
    (named : ∀ byte ∈ name, byte ≠ 0x3A ∧ byte ≠ 0x0D) (solid : Solid value) :
    Http.Plain (name, value) where
  name := named
  value member := absurd (solid _ member) (by decide)
  trimmed := by
    have inked : ∀ byte ∈ value, Http.blank byte = false := by
      intro byte member
      have high := solid byte member
      rw [Http.blank, Bool.or_eq_false_iff, beq_eq_false_iff_ne, beq_eq_false_iff_ne]
      constructor
      · rintro rfl
        exact absurd high (by decide)
      · rintro rfl
        exact absurd high (by decide)
    cases value with
    | nil => rfl
    | cons first rest =>
        have nonempty := List.cons_ne_nil first rest
        have alone := @trim_append Http.blank (first :: rest) [] nonempty
          (inked _ (List.head_mem nonempty)) (inked _ (List.getLast_mem nonempty))
          fun _ member => absurd member List.not_mem_nil
        rwa [List.append_nil] at alone

theorem solid_decimal (value : Nat) : Solid (asciiBytes (decimal value)) := by
  intro byte member
  obtain ⟨character, digit, rfl⟩ := List.mem_map.mp member
  have bounds := Json.isDigit_of_isDigit
    (List.all_eq_true.mp (Json.all_isDigit_decimal value) character digit)
  rw [Json.isDigit, Bool.and_eq_true, decide_eq_true_eq] at bounds
  exact UInt8.le_trans (by decide) bounds.1

theorem solid_hexDigest (digest : List UInt8) : Solid (hexDigest digest) := by
  intro byte member
  rcases mem_hexDigest member with ⟨low, -⟩ | ⟨low, -⟩
  · exact UInt8.le_trans (by decide) low
  · exact UInt8.le_trans (by decide) low

section Requests

variable {host digest token : List UInt8} (firmware : List UInt8)

theorem length_body (firmware : List UInt8) :
    (multipartStart ++ firmware ++ multipartEnd).length = contentLength firmware.length := by
  rw [List.length_append, List.length_append, contentLength]

/-- What the fields that the node looks at say. -/
theorem fieldValue_otaMessage :
    Http.fieldValue contentTypeName (otaMessage host digest token firmware).fields =
        some (asciiBytes "multipart/form-data; boundary=".toList ++ boundary) ∧
      Http.fieldValue Http.contentLengthName (otaMessage host digest token firmware).fields =
        some (asciiBytes (decimal (contentLength firmware.length))) ∧
      Http.fieldValue shaHeader (otaMessage host digest token firmware).fields = some digest ∧
      Http.fieldValue tokenHeader (otaMessage host digest token firmware).fields = some token := by
  refine ⟨?_, ?_, ?_, ?_⟩
  · rw [otaMessage, Http.fieldValue_of_other (by decide +kernel),
      Http.fieldValue_of_same (by decide +kernel)]
  · rw [otaMessage, Http.fieldValue_of_other (by decide +kernel),
      Http.fieldValue_of_other (by decide +kernel), Http.fieldValue_of_same (by decide +kernel)]
  · rw [otaMessage, Http.fieldValue_of_other (by decide +kernel),
      Http.fieldValue_of_other (by decide +kernel), Http.fieldValue_of_other (by decide +kernel),
      Http.fieldValue_of_same (by decide +kernel)]
  · rw [otaMessage, Http.fieldValue_of_other (by decide +kernel),
      Http.fieldValue_of_other (by decide +kernel), Http.fieldValue_of_other (by decide +kernel),
      Http.fieldValue_of_other (by decide +kernel), Http.fieldValue_of_same (by decide +kernel)]

theorem wellFormed_otaMessage (hostSolid : Solid host) (digestSolid : Solid digest)
    (tokenSolid : Solid token) : (otaMessage host digest token firmware).WellFormed where
  requestLine := (by decide +kernel : route ≠ [] ∧ 0x0D ∉ route)
  fields := by
    rw [otaMessage]
    simp only [List.forall_mem_cons]
    refine ⟨?_, ?_, ?_, ?_, ?_, ?_, fun _ member => absurd member List.not_mem_nil⟩
    · exact plain_of_solid (by decide +kernel) hostSolid
    · exact ⟨by decide +kernel, by decide +kernel, by decide +kernel⟩
    · exact plain_of_solid (by decide +kernel) (solid_decimal _)
    · exact plain_of_solid (by decide +kernel) digestSolid
    · exact plain_of_solid (by decide +kernel) tokenSolid
    · exact plain_of_solid (by decide +kernel)
        (by decide +kernel : ∀ byte ∈ asciiBytes "close".toList, 0x21 ≤ byte)
  length := by
    rw [Http.contentLength, (fieldValue_otaMessage firmware).2.1, Option.bind_some,
      Json.natural?_decimal]
    exact congrArg some (length_body firmware).symm

/-- The firmware does not have the delimiter of the parts in it. -/
def Delimitable (firmware : List UInt8) : Prop := ¬Http.delimiter boundary <:+: firmware

theorem readMultipart_otaMessage (delimitable : Delimitable firmware) :
    Http.readMultipart boundary (multipartStart ++ firmware ++ multipartEnd) =
      some [firmwarePart firmware] := by
  rw [← multipartBytes_firmware]
  apply Http.readMultipart_multipartBytes
  · decide +kernel
  · intro part member
    cases List.mem_singleton.mp member
    exact ⟨(by decide +kernel : ∀ line ∈ partLines, line ≠ [] ∧ 0x0D ∉ line), delimitable⟩

end Requests

/-! ### Runs of the program -/

/-- The file is there, can be read, and stays the same while the program runs. -/
structure Stable (found : Surroundings) (firmware : List UInt8) : Prop where
  size : found.fileSize = some firmware.length
  opened : found.opened = true
  toEnd : found.toEnd = true
  hashed : found.hashed = firmware
  sent : found.firmware = firmware

/-- What a run for this firmware is to send. -/
def Surroundings.request (found : Surroundings) (firmware token : List UInt8) : Http.Message :=
  otaMessage found.host (hexDigest (sha256 firmware)) token firmware

variable {found : Surroundings} {firmware token : List UInt8}

theorem bytes_request_ne_nil : (found.request firmware token).bytes ≠ [] := by
  rw [Surroundings.request, bytes_otaMessage, ne_eq, List.append_eq_nil_iff, not_and]
  intro _
  decide

/-- A run sends a beginning of the request, and it succeeds if this is all of it and the
answer accepts it. -/
theorem main_of_stable (stable : Stable found firmware)
    (secret : readToken found.ownerOnly found.tokenFile = some token) :
    (main found).2 <+: (found.request firmware token).bytes ∧
      ((main found).1 = 0 ↔ (main found).2 = (found.request firmware token).bytes ∧
        found.reply ≠ [] ∧ accepts found.reply = true) := by
  have digest : hashFile found.opened found.toEnd found.hashed =
      some (hexDigest (sha256 firmware)) := by
    rw [hashFile_eq, stable.opened, stable.toEnd, stable.hashed]
    rfl
  have idle : ∀ status : Nat, status ≠ 0 →
      [] <+: (found.request firmware token).bytes ∧
        (status = 0 ↔ [] = (found.request firmware token).bytes ∧
          found.reply ≠ [] ∧ accepts found.reply = true) := fun status failed =>
    ⟨List.nil_prefix, fun zero => absurd zero failed,
      fun all => absurd all.1.symm bytes_request_ne_nil⟩
  rw [main, stable.size]
  dsimp only
  split
  · exact idle 65 (by decide)
  · rw [secret, digest, stable.sent]
    dsimp only
    split
    · exact idle 67 (by decide)
    · have sent := sent_sendRequest
        (requestHeader found.host firmware.length (hexDigest (sha256 firmware)) token) firmware
        { willTake := found.willTake }
      rw [← bytes_otaMessage] at sent
      generalize sendRequest _ firmware { willTake := found.willTake } = result at sent ⊢
      obtain ⟨begun, whole⟩ := sent
      rw [List.nil_append] at begun whole
      rw [Surroundings.request]
      split
      · next failed =>
          dsimp only
          rw [← whole]
          refine ⟨begun, fun zero => absurd zero (by decide), fun all => ?_⟩
          rw [all.1, all.2.2] at failed
          simp [all.2.1] at failed
      · next succeeded =>
          dsimp only
          rw [← whole]
          refine ⟨begun, fun _ => ?_, fun _ => rfl⟩
          simpa [and_assoc] using succeeded

/-- The boundary that a content type names. -/
def boundaryOf (contentType : List UInt8) : Option (List UInt8) :=
  (Http.cutAt (asciiBytes "boundary=".toList) contentType).map (·.2)

/-- A message that carries a firmware under a secret. -/
structure Carries (message : Http.Message) (firmware token : List UInt8) : Prop where
  route : message.requestLine = route
  sha : Http.fieldValue shaHeader message.fields = some (hexDigest (sha256 firmware))
  token : Http.fieldValue tokenHeader message.fields = some token
  parts : Delimitable firmware →
    ((Http.fieldValue contentTypeName message.fields).bind boundaryOf).bind
      (Http.readMultipart · message.body) = some [firmwarePart firmware]

theorem carries_request (found : Surroundings) (firmware token : List UInt8) :
    Carries (found.request firmware token) firmware token := by
  obtain ⟨type, -, sha, secret⟩ := @fieldValue_otaMessage found.host
    (hexDigest (sha256 firmware)) token firmware
  refine ⟨rfl, sha, secret, fun delimitable => ?_⟩
  have named : boundaryOf (asciiBytes "multipart/form-data; boundary=".toList ++ boundary) =
      some boundary := by decide +kernel
  rw [Surroundings.request, type, Option.bind_some, named]
  exact readMultipart_otaMessage firmware delimitable

/-- Whatever part of the request has left when a run ends: it reads as a message only if it
is all of it. -/
theorem readMessage_main (stable : Stable found firmware)
    (secret : readToken found.ownerOnly found.tokenFile = some token)
    (hostSolid : Solid found.host) (tokenSolid : Solid token) :
    Http.readMessage (main found).2 =
      if (main found).2 = (found.request firmware token).bytes then
        some (found.request firmware token)
      else none := by
  have wellFormed : (found.request firmware token).WellFormed :=
    wellFormed_otaMessage firmware hostSolid (solid_hexDigest _) tokenSolid
  split
  · next whole =>
      rw [whole]
      exact Http.Message.readMessage_bytes wellFormed
  · next broken =>
      exact Http.Message.readMessage_of_prefix wellFormed (main_of_stable stable secret).1 broken

/-- For a firmware file that stays as it is, however the connection takes the bytes: there is
one request, which carries the file under the secret. The bytes that leave are a beginning of
it, and they read as a message only if they are all of it. The run succeeds exactly if they
are and the answer accepts it. -/
theorem request_carries_firmware (stable : Stable found firmware)
    (secret : readToken found.ownerOnly found.tokenFile = some token)
    (hostSolid : Solid found.host) (tokenSolid : Solid token) :
    let request := found.request firmware token
    Carries request firmware token ∧
      (main found).2 <+: request.bytes ∧
      Http.readMessage (main found).2 =
        (if (main found).2 = request.bytes then some request else none) ∧
      ((main found).1 = 0 ↔ (main found).2 = request.bytes ∧
        found.reply ≠ [] ∧ accepts found.reply = true) := by
  intro request
  obtain ⟨begun, succeeds⟩ := main_of_stable stable secret
  refine ⟨carries_request found firmware token, begun, ?_, succeeds⟩
  exact readMessage_main stable secret hostSolid tokenSolid

/-- An image of one byte, sent in two calls. -/
def pilotFound : Surroundings where
  host := asciiBytes "192.168.60.20".toList
  fileSize := some 1
  ownerOnly := true
  tokenFile := List.replicate 32 0x61 ++ [0x0A]
  opened := true
  toEnd := true
  hashed := [0xE9]
  connects := true
  willTake := [100, 300, 4096, 4096, 4096]
  firmware := [0xE9]
  reply := asciiBytes "HTTP/1.1 200 OK\r\n".toList

theorem pilot_stable : Stable pilotFound [0xE9] := ⟨rfl, rfl, rfl, rfl, rfl⟩

theorem request_carries_firmware_pilot :
    (main pilotFound).1 = 0 ∧
      ∃ message, Http.readMessage (main pilotFound).2 = some message ∧
        Carries message [0xE9] (List.replicate 32 0x61) := by
  obtain ⟨carries, -, read, succeeds⟩ := request_carries_firmware pilot_stable
    (by decide +kernel : readToken true pilotFound.tokenFile = some (List.replicate 32 0x61))
    (by decide +kernel : ∀ byte ∈ pilotFound.host, 0x21 ≤ byte)
    (by decide +kernel : ∀ byte ∈ List.replicate 32 (0x61 : UInt8), 0x21 ≤ byte)
  have succeeded : (main pilotFound).1 = 0 := by decide +kernel
  rw [if_pos (succeeds.mp succeeded).1] at read
  exact ⟨succeeded, _, read, carries⟩

end GridexEdge.RockPi.OtaApply
