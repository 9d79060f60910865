import LittleCore.Library.CString
import LittleCore.Library.Fallible
import LittleCore.Rtsp.State

/-!
# The RTSP server

`rtsp.c` and the accept loop of `RTSP_Create.c`: requests are taken apart with the C library's
string functions, answered, and acted on in the critical sections of `RtspStep`.

A connection is its peer and the chunks that `recv` returns on it, until it returns no more. What
the server does is kept as a trace, so that the shared state can be looked at between any two of
its steps. Whether a response reaches the client is not part of the model: `send_all` reports a
failure to nobody.
-/

namespace LittleCore

open Library

/-- What one successful `recv` into `req_buf` returns. -/
structure Chunk where
  text : List Char
  pos : 0 < text.length
  le : text.length ≤ 2047
deriving DecidableEq

structure Connection where
  peer : SockAddrIn
  chunks : List Chunk
deriving DecidableEq

inductive ServerEvent where
  | connected (peer : SockAddrIn)
  /-- A critical section, with the shared state it leaves. -/
  | critical (step : RtspStep) (after : RtspState)
  /-- A response was handed to `send_all`. -/
  | response (text : List Char)
deriving DecidableEq

structure ServerWorld where
  rtsp : RtspState := {}
  trace : List ServerEvent := []
deriving DecidableEq

namespace ServerWorld

def emit (w : ServerWorld) (e : ServerEvent) : ServerWorld := { w with trace := w.trace ++ [e] }

def critical (w : ServerWorld) (s : RtspStep) : ServerWorld :=
  { rtsp := w.rtsp.apply s, trace := w.trace ++ [.critical s (w.rtsp.apply s)] }

end ServerWorld

/-! ### Requests -/

/-- `rtsp_request_t`. -/
structure RtspRequest where
  method : List Char := []
  url : List Char := []
  cseq : ℤ := 0
deriving DecidableEq

/-- The number behind `CSeq:`, or `Cseq:` if there is none, or `0`. -/
def parseCseq (req : List Char) : ℤ :=
  match (strstr "CSeq:".toList req).or (strstr "Cseq:".toList req) with
  | some cseqPos => atoi (cseqPos.drop 5)
  | none => 0

/-- `parse_rtsp_request`: `none` where it returns `-1`. -/
def parseRtspRequest (req : List Char) : Option RtspRequest :=
  match scanWord 31 req with
  | none => none
  | some (method, rest) =>
    match scanWord 255 rest with
    | none => none
    | some (url, _) => some { method := method, url := url, cseq := parseCseq req }

theorem parseCseq_bounds (req : List Char) : -2 ^ 31 ≤ parseCseq req ∧ parseCseq req < 2 ^ 31 := by
  rw [parseCseq]
  split
  · exact atoi_bounds _
  · exact ⟨by decide, by decide⟩

/-- The number fits an `int`, and the URL is a word that fits its array. -/
theorem parseRtspRequest_spec {req : List Char} {r : RtspRequest}
    (h : parseRtspRequest req = some r) :
    (-2 ^ 31 ≤ r.cseq ∧ r.cseq < 2 ^ 31) ∧
      r.url.length ≤ 255 ∧ ∀ c ∈ r.url, isSpace c = false := by
  rw [parseRtspRequest] at h
  split at h
  · cases h
  · split at h
    · cases h
    · rename_i hurl
      rw [← Option.some.inj h]
      exact ⟨parseCseq_bounds req, scanWord_spec hurl⟩

/-- `parse_client_port`: `0` where there is no port to send to. -/
def parseClientPort (req : List Char) : ℕ :=
  match strstr "client_port=".toList req with
  | none => 0
  | some p =>
    let port := atoi (p.drop "client_port=".length)
    if port ≤ 0 ∨ port > 65535 then 0 else port.toNat

/-! ### Responses -/

def rtpServerPort : ℤ := 5004

def rtcpServerPort : ℤ := 5005

def rtspSessionId : List Char := "12345678".toList

def sdpPayloadType : ℤ := 96

def makeSdp (controlUrl : List Char) : List Char :=
  snprintf 1024 ("v=0\r\no=- 0 0 IN IP4 0.0.0.0\r\ns=H265 Stream\r\nc=IN IP4 0.0.0.0\r\n".toList ++
    "t=0 0\r\na=control:*\r\nm=video 0 RTP/AVP ".toList ++ decimal sdpPayloadType ++
    "\r\na=rtpmap:".toList ++ decimal sdpPayloadType ++ " H265/90000\r\na=control:".toList ++
    controlUrl ++ "/trackID=0\r\n".toList)

/-- What all responses have in common: the status line, the `CSeq` header and the rest, printed
into a buffer of `size` characters. -/
def rtspResponse (size : ℕ) (status : List Char) (cseq : ℤ) (rest : List Char) : List Char :=
  snprintf size ("RTSP/1.0 ".toList ++ status ++ "\r\nCSeq: ".toList ++ decimal cseq ++
    "\r\n".toList ++ rest)

/-- `send_options_response`, like the following ones without the sending. -/
def optionsResponse (cseq : ℤ) : List Char :=
  rtspResponse 512 "200 OK".toList cseq
    "Public: OPTIONS, DESCRIBE, SETUP, PLAY, TEARDOWN\r\n\r\n".toList

def describeResponse (req : RtspRequest) : List Char :=
  rtspResponse 2048 "200 OK".toList req.cseq
    ("Content-Type: application/sdp\r\nContent-Length: ".toList ++
      decimal (makeSdp req.url).length ++ "\r\n\r\n".toList ++ makeSdp req.url)

def setupResponse (cseq : ℤ) (clientRtpPort : ℕ) : List Char :=
  rtspResponse 512 "200 OK".toList cseq
    ("Transport: RTP/AVP/UDP;unicast;client_port=".toList ++ decimal clientRtpPort ++
      "-".toList ++ decimal (clientRtpPort + 1) ++ ";server_port=".toList ++
      decimal rtpServerPort ++ "-".toList ++ decimal rtcpServerPort ++ "\r\nSession: ".toList ++
      rtspSessionId ++ "\r\n\r\n".toList)

def playResponse (cseq : ℤ) : List Char :=
  rtspResponse 512 "200 OK".toList cseq
    ("Session: ".toList ++ rtspSessionId ++ "\r\nRange: npt=0.000-\r\n\r\n".toList)

def teardownResponse (cseq : ℤ) : List Char :=
  rtspResponse 256 "200 OK".toList cseq
    ("Session: ".toList ++ rtspSessionId ++ "\r\n\r\n".toList)

def errorResponse (cseq code : ℤ) (reason : List Char) : List Char :=
  rtspResponse 256 (decimal code ++ " ".toList ++ reason) cseq "\r\n".toList

/-! ### Connections -/

namespace ServerWorld

def respond (w : ServerWorld) (text : List Char) : ServerWorld := w.emit (.response text)

end ServerWorld

/-- One round of the loop of `handle_rtsp_client`, behind a successful `recv`; `false` where it is
left. -/
def serveChunk (peer : SockAddrIn) (chunk : Chunk) (w : ServerWorld) : Bool × ServerWorld :=
  let req := cstr chunk.text
  match parseRtspRequest req with
  | none => (true, w.respond (errorResponse 0 400 "Bad Request".toList))
  | some r =>
    if r.method = "OPTIONS".toList then (true, w.respond (optionsResponse r.cseq))
    else if r.method = "DESCRIBE".toList then (true, w.respond (describeResponse r))
    else if r.method = "SETUP".toList then
      let clientPort := parseClientPort req
      if clientPort = 0 then
        (true, w.respond (errorResponse r.cseq 461 "Unsupported Transport".toList))
      else
        (true, (w.critical (.setup { peer with sinPort := .ofNat clientPort })).respond
          (setupResponse r.cseq clientPort))
    else if r.method = "PLAY".toList then
      (true, (w.critical .play).respond (playResponse r.cseq))
    else if r.method = "TEARDOWN".toList then
      (false, (w.critical .teardown).respond (teardownResponse r.cseq))
    else (true, w.respond (errorResponse r.cseq 405 "Method Not Allowed".toList))

/-- `handle_rtsp_client` on what `recv` returns. -/
def handleRtspClient (peer : SockAddrIn) (chunks : List Chunk) (w : ServerWorld) : ServerWorld :=
  (forEach (serveChunk peer) chunks w).2.critical .disconnect

/-- One round of the accept loop in `main`. -/
def serveConnection (w : ServerWorld) (c : Connection) : ServerWorld :=
  handleRtspClient c.peer c.chunks (w.emit (.connected c.peer))

def acceptLoop (connections : List Connection) (w : ServerWorld) : ServerWorld :=
  connections.foldl serveConnection w

/-! ### One chunk

What a chunk does, apart from the loop: the critical section it leads to, the response to it, and
whether it is the last one. -/

def chunkStep (peer : SockAddrIn) (text : List Char) : Option RtspStep :=
  (parseRtspRequest (cstr text)).bind fun r =>
    if r.method = "SETUP".toList then
      if parseClientPort (cstr text) = 0 then none
      else some (.setup { peer with sinPort := .ofNat (parseClientPort (cstr text)) })
    else if r.method = "PLAY".toList then some .play
    else if r.method = "TEARDOWN".toList then some .teardown
    else none

def chunkResponse (text : List Char) : List Char :=
  match parseRtspRequest (cstr text) with
  | none => errorResponse 0 400 "Bad Request".toList
  | some r =>
    if r.method = "OPTIONS".toList then optionsResponse r.cseq
    else if r.method = "DESCRIBE".toList then describeResponse r
    else if r.method = "SETUP".toList then
      if parseClientPort (cstr text) = 0 then
        errorResponse r.cseq 461 "Unsupported Transport".toList
      else setupResponse r.cseq (parseClientPort (cstr text))
    else if r.method = "PLAY".toList then playResponse r.cseq
    else if r.method = "TEARDOWN".toList then teardownResponse r.cseq
    else errorResponse r.cseq 405 "Method Not Allowed".toList

def isTeardown (text : List Char) : Bool :=
  (parseRtspRequest (cstr text)).any (·.method == "TEARDOWN".toList)

theorem serveChunk_eq (peer : SockAddrIn) (chunk : Chunk) (w : ServerWorld) :
    serveChunk peer chunk w = (!isTeardown chunk.text,
      ((chunkStep peer chunk.text).elim w w.critical).respond (chunkResponse chunk.text)) := by
  rw [serveChunk, isTeardown, chunkStep, chunkResponse]
  cases parseRtspRequest (cstr chunk.text) with
  | none => rfl
  | some r =>
    simp only [Option.any_some, Option.bind_some]
    split_ifs with h₁ h₂ h₃ h₄ h₅ h₆ <;> simp_all

/-! ### Requests to try -/

def setupRequest : Chunk where
  text := "SETUP /s RTSP/1.0\r\nCSeq: 2\r\nTransport: RTP;client_port=5000-5001\r\n\r\n".toList
  pos := by decide
  le := by decide

def playRequest : Chunk where
  text := "PLAY /s RTSP/1.0\r\nCSeq: 3\r\n\r\n".toList
  pos := by decide
  le := by decide

/-- A client that sets up and plays, and then goes away. -/
example : (acceptLoop [⟨⟨7, 40000⟩, [setupRequest, playRequest]⟩] {}).rtsp
    = ⟨false, true, true, ⟨7, 5000⟩⟩ := by decide

end LittleCore
