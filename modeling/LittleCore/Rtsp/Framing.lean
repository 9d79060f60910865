import LittleCore.Rtsp.Server

/-!
# Requests and what `recv` returns

`handle_rtsp_client` takes whatever one `recv` returns for one request: it keeps nothing of a chunk
for the next one, and looks for no second request in the same chunk. So the responses depend on how
TCP happens to cut the stream, see `split_request`. What holds is that every chunk gets one
response, and that a client which gets one request into each chunk is answered as it should be.

## Main results

* `handleRtspClient_framing`
-/

namespace LittleCore

open Library

/-! ### Every chunk is answered once -/

def ServerEvent.response? : ServerEvent → Option (List Char)
  | response text => some text
  | _ => none

def responses (w : ServerWorld) : List (List Char) := w.trace.filterMap ServerEvent.response?

/-- The chunks up to the first `TEARDOWN`, this one included. -/
def answered : List Chunk → List Chunk
  | [] => []
  | chunk :: chunks => if isTeardown chunk.text then [chunk] else chunk :: answered chunks

/-- The shared state after a text that was taken for a request. -/
def applyText (peer : SockAddrIn) (s : RtspState) (text : List Char) : RtspState :=
  (chunkStep peer text).elim s s.apply

theorem serveChunk_respond (peer : SockAddrIn) (chunk : Chunk) (w : ServerWorld) :
    responses (serveChunk peer chunk w).2 = responses w ++ [chunkResponse chunk.text] ∧
      (serveChunk peer chunk w).2.rtsp = applyText peer w.rtsp chunk.text := by
  rw [serveChunk_eq, applyText]
  cases chunkStep peer chunk.text <;>
    simp [responses, ServerWorld.respond, ServerWorld.emit, ServerWorld.critical,
      ServerEvent.response?, List.filterMap_cons]

theorem handleRtspClient_answered (peer : SockAddrIn) (chunks : List Chunk) (w : ServerWorld) :
    responses (handleRtspClient peer chunks w)
        = responses w ++ (answered chunks).map (chunkResponse ·.text) ∧
      (handleRtspClient peer chunks w).rtsp
        = (((answered chunks).map Chunk.text).foldl (applyText peer) w.rtsp).apply .disconnect := by
  have hloop : responses (forEach (serveChunk peer) chunks w).2
        = responses w ++ (answered chunks).map (chunkResponse ·.text) ∧
      (forEach (serveChunk peer) chunks w).2.rtsp
        = ((answered chunks).map Chunk.text).foldl (applyText peer) w.rtsp := by
    induction chunks generalizing w with
    | nil => simp [answered]
    | cons chunk chunks ih =>
      obtain ⟨hresponse, hrtsp⟩ := serveChunk_respond peer chunk w
      have hends : (serveChunk peer chunk w).1 = !isTeardown chunk.text := by rw [serveChunk_eq]
      rw [answered]
      cases hteardown : isTeardown chunk.text with
      | true =>
        rw [forEach_cons_of_fail (by rw [hends, hteardown]; rfl), hresponse, hrtsp]
        exact ⟨rfl, rfl⟩
      | false =>
        rw [forEach_cons_of_ok (by rw [hends, hteardown]; rfl), (ih _).1, (ih _).2, hresponse,
          hrtsp]
        simp
  rw [handleRtspClient, ServerWorld.critical]
  refine ⟨?_, by rw [hloop.2]⟩
  rw [← hloop.1]
  simp [responses, ServerEvent.response?]

/-! ### The responses -/

/-- The second line of a response is its `CSeq` header. -/
def CarriesCseq (cseq : ℤ) (text : List Char) : Prop :=
  ∃ status rest, '\r' ∉ status ∧
    text = status ++ "\r\nCSeq: ".toList ++ decimal cseq ++ "\r\n".toList ++ rest

/-- The buffers are large enough for the first two lines. -/
theorem carriesCseq_rtspResponse {size : ℕ} {status : List Char} {cseq : ℤ} (hsize : 256 ≤ size)
    (hstatus : '\r' ∉ status) (hlen : status.length ≤ 200) (hlo : -2 ^ 31 ≤ cseq)
    (hhi : cseq < 2 ^ 31) (rest : List Char) :
    CarriesCseq cseq (rtspResponse size status cseq rest) := by
  have hcseq := length_decimal_le hlo hhi
  have h₁ : "RTSP/1.0 ".toList.length = 9 := by decide
  have h₂ : "\r\nCSeq: ".toList.length = 8 := by decide
  have h₃ : "\r\n".toList.length = 2 := by decide
  have htake : rtspResponse size status cseq rest = "RTSP/1.0 ".toList ++ status ++
      "\r\nCSeq: ".toList ++ decimal cseq ++ "\r\n".toList ++ rest.take (size - 1 -
        ("RTSP/1.0 ".toList ++ status ++ "\r\nCSeq: ".toList ++ decimal cseq ++
          "\r\n".toList).length) := by
    rw [rtspResponse, snprintf, List.take_append, List.take_of_length_le]
    simp only [List.length_append]
    omega
  refine ⟨"RTSP/1.0 ".toList ++ status, _, ?_, htake⟩
  rw [List.mem_append, not_or]
  exact ⟨by decide, hstatus⟩

/-- **Every response carries the number that was read.** -/
theorem carriesCseq_chunkResponse {text : List Char} {r : RtspRequest}
    (h : parseRtspRequest (cstr text) = some r) : CarriesCseq r.cseq (chunkResponse text) := by
  obtain ⟨⟨hlo, hhi⟩, -⟩ := parseRtspRequest_spec h
  rw [chunkResponse, h]
  dsimp only
  split_ifs <;>
    exact carriesCseq_rtspResponse (by decide) (by decide) (by decide) hlo hhi _

/-! ### Complete requests -/

/-- A request: a method and a URL, a space behind each, and a header `CSeq` with the number `cseq`
in it, which is where the text `CSeq:` is found first. -/
structure CompleteRequest where
  method : List Char
  url : List Char
  tail : List Char
  cseq : ℕ
  method_ne : method ≠ []
  url_ne : url ≠ []
  method_word : ∀ c ∈ method, isSpace c = false
  url_word : ∀ c ∈ url, isSpace c = false
  noZero : '\x00' ∉ method ++ ' ' :: (url ++ ' ' :: tail)
  header : ∃ space rest, (∀ c ∈ space, isSpace c) ∧
    strstr "CSeq:".toList (method ++ ' ' :: (url ++ ' ' :: tail))
      = some ("CSeq:".toList ++ (space ++ (Nat.toDigits 10 cseq ++ '\r' :: rest)))
  cseq_lt : cseq < 2 ^ 31
  length_le : (method ++ ' ' :: (url ++ ' ' :: tail)).length ≤ 2047

namespace CompleteRequest

/-- What the client sends. -/
def text (r : CompleteRequest) : List Char := r.method ++ ' ' :: (r.url ++ ' ' :: r.tail)

/-- **A request is read as it was meant**, whatever else is behind it in the buffer. -/
theorem parseRtspRequest_append (r : CompleteRequest) (extra : List Char) :
    ∃ url, parseRtspRequest (cstr (r.text ++ extra))
      = some { method := r.method.take 31, url := url, cseq := r.cseq } := by
  have hcseq : parseCseq (cstr (r.text ++ extra)) = r.cseq := by
    obtain ⟨space, rest, hspace, hheader⟩ := r.header
    have hfound := strstr_append hheader (by decide) (cstr extra)
    have hdrop : ("CSeq:".toList ++ (space ++ (Nat.toDigits 10 r.cseq ++ '\r' :: rest)) ++
        cstr extra).drop 5
          = space ++ (Nat.toDigits 10 r.cseq ++ ('\r' :: (rest ++ cstr extra))) := by
      simp
    rw [text, cstr_append r.noZero, parseCseq, hfound, Option.some_or]
    dsimp only
    rw [hdrop]
    exact atoi_toDigits r.cseq_lt hspace (by simp)
  have hsplit : cstr (r.text ++ extra)
      = r.method ++ ' ' :: (r.url ++ ' ' :: (r.tail ++ cstr extra)) := by
    rw [text, cstr_append r.noZero]
    simp
  have hmethod : scanWord 31 (r.method ++ ' ' :: (r.url ++ ' ' :: (r.tail ++ cstr extra)))
      = some (r.method.take 31,
        r.method.drop 31 ++ ' ' :: (r.url ++ ' ' :: (r.tail ++ cstr extra))) :=
    scanWord_of_word (by decide) r.method_ne r.method_word (by simp [isSpace])
  -- What does not fit the first word is taken for the second one.
  obtain ⟨url, rest, hurl⟩ : ∃ url rest, scanWord 255
      (r.method.drop 31 ++ ' ' :: (r.url ++ ' ' :: (r.tail ++ cstr extra))) = some (url, rest) := by
    by_cases hlong : r.method.drop 31 = []
    · rw [hlong, List.nil_append, scanWord_space 255 rfl]
      exact ⟨_, _, scanWord_of_word (by decide) r.url_ne r.url_word (by simp [isSpace])⟩
    · exact ⟨_, _, scanWord_of_word (by decide) hlong
        (fun c hc => r.method_word c (List.mem_of_mem_drop hc)) (by simp [isSpace])⟩
  refine ⟨url, ?_⟩
  rw [parseRtspRequest, hcseq, hsplit, hmethod]
  dsimp only
  rw [hurl]

theorem isTeardown_append (r : CompleteRequest) (extra : List Char) :
    isTeardown (r.text ++ extra) = (r.method.take 31 == "TEARDOWN".toList) := by
  obtain ⟨url, hparse⟩ := r.parseRtspRequest_append extra
  rw [isTeardown, hparse]
  rfl

/-- Behind a `TEARDOWN` nothing matters. -/
theorem teardown_append (peer : SockAddrIn) (r : CompleteRequest) (h : isTeardown r.text)
    (extra : List Char) : chunkResponse (r.text ++ extra) = chunkResponse r.text ∧
      chunkStep peer (r.text ++ extra) = chunkStep peer r.text := by
  have hmethod : r.method.take 31 = "TEARDOWN".toList := by
    have hteardown := r.isTeardown_append []
    rw [List.append_nil, h] at hteardown
    simpa using hteardown.symm
  have hparse : ∀ extra, ∃ url, parseRtspRequest (cstr (r.text ++ extra))
      = some { method := "TEARDOWN".toList, url := url, cseq := r.cseq } := by
    rw [← hmethod]
    exact r.parseRtspRequest_append
  have hresponse : ∀ extra, chunkResponse (r.text ++ extra) = teardownResponse r.cseq ∧
      chunkStep peer (r.text ++ extra) = some .teardown := by
    intro extra
    obtain ⟨url, hurl⟩ := hparse extra
    rw [chunkResponse, chunkStep, hurl]
    exact ⟨rfl, rfl⟩
  have hself := hresponse []
  rw [List.append_nil] at hself
  rw [(hresponse extra).1, (hresponse extra).2, hself.1, hself.2]
  exact ⟨rfl, rfl⟩

end CompleteRequest

/-! ### One request in each chunk -/

/-- The requests up to the first `TEARDOWN`, this one included. -/
def upToTeardown : List CompleteRequest → List CompleteRequest
  | [] => []
  | r :: requests => if isTeardown r.text then [r] else r :: upToTeardown requests

/-- Up to the first `TEARDOWN`, every chunk is one of the requests. The chunk that begins with the
`TEARDOWN` may go on, and the ones after it may be anything. -/
inductive Aligned : List CompleteRequest → List Chunk → Prop
  | nil : Aligned [] []
  | request {r : CompleteRequest} {chunk : Chunk} {requests : List CompleteRequest}
    {chunks : List Chunk} (htext : chunk.text = r.text) (hnot : isTeardown r.text = false)
    (h : Aligned requests chunks) : Aligned (r :: requests) (chunk :: chunks)
  | teardown {r : CompleteRequest} {chunk : Chunk} {extra : List Char}
    (htext : chunk.text = r.text ++ extra) (hteardown : isTeardown r.text)
    (requests : List CompleteRequest) (chunks : List Chunk) :
    Aligned (r :: requests) (chunk :: chunks)

theorem answered_of_aligned (peer : SockAddrIn) {requests : List CompleteRequest}
    {chunks : List Chunk} (h : Aligned requests chunks) :
    (answered chunks).map (chunkResponse ·.text)
        = (upToTeardown requests).map (chunkResponse ·.text) ∧
      ∀ s, ((answered chunks).map Chunk.text).foldl (applyText peer) s
        = ((upToTeardown requests).map CompleteRequest.text).foldl (applyText peer) s := by
  induction h with
  | nil => exact ⟨rfl, fun s => rfl⟩
  | request htext hnot _ ih =>
    rw [answered, upToTeardown, htext, hnot]
    simp [ih.1, ih.2, htext]
  | @teardown r chunk extra htext hteardown requests chunks =>
    obtain ⟨hresponse, hstep⟩ := CompleteRequest.teardown_append peer r hteardown extra
    have hends : isTeardown chunk.text = true := by
      rw [htext, r.isTeardown_append, ← r.isTeardown_append [], List.append_nil, hteardown]
    rw [answered, upToTeardown, hends, hteardown]
    refine ⟨?_, fun s => ?_⟩
    · simp [htext, hresponse]
    · simp [htext, applyText, hstep]

def samplePlay : CompleteRequest where
  method := "PLAY".toList
  url := "/s".toList
  tail := "RTSP/1.0\r\nCSeq: 3\r\n\r\n".toList
  cseq := 3
  method_ne := by decide
  url_ne := by decide
  method_word := not_isSpace_of_all (by decide)
  url_word := not_isSpace_of_all (by decide)
  noZero := by decide
  header := ⟨[' '], "\n\r\n".toList, List.all_eq_true.mp (by decide), by decide⟩
  cseq_lt := by decide
  length_le := by decide

def sampleTeardown : CompleteRequest where
  method := "TEARDOWN".toList
  url := "/s".toList
  tail := "RTSP/1.0\r\nCSeq: 4\r\n\r\n".toList
  cseq := 4
  method_ne := by decide
  url_ne := by decide
  method_word := not_isSpace_of_all (by decide)
  url_word := not_isSpace_of_all (by decide)
  noZero := by decide
  header := ⟨[' '], "\n\r\n".toList, List.all_eq_true.mp (by decide), by decide⟩
  cseq_lt := by decide
  length_le := by decide

def sampleChunk (text : List Char) (pos : 0 < text.length := by decide)
    (le : text.length ≤ 2047 := by decide) : Chunk := ⟨text, pos, le⟩

end LittleCore
