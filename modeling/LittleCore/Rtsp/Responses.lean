import LittleCore.Rtsp.Framing

/-!
# The responses as a client reads them

Every response is printed into an array of fixed size, and the one to `DESCRIBE` into two of them,
with the URL of the request inside. Neither array is ever too small: `sscanf` reads at most 255
characters of a URL. Nor can a URL break a line, since `sscanf` reads no space into it, and the
characters that end a line are spaces.

A response is described by the lines that a client reads, which are what stands between the
`\r\n`s of the text.

## Main results

* `responses_complete`
-/

namespace LittleCore

open Library

/-! ### Lines -/

def crlf : List Char := "\r\n".toList

theorem unbordered_crlf : Unbordered crlf := unbordered_of_take (by decide) (by decide)

/-- Nothing in it ends a line. -/
def IsLine (l : List Char) : Prop := '\r' ∉ l ∧ '\n' ∉ l

instance (l : List Char) : Decidable (IsLine l) := inferInstanceAs (Decidable (_ ∧ _))

/-- The text of lines. -/
def linesText (ls : List (List Char)) : List Char := ls.flatMap (· ++ crlf)

theorem linesText_append (ls ls' : List (List Char)) :
    linesText (ls ++ ls') = linesText ls ++ linesText ls' := List.flatMap_append

/-- The lines of a text as they are read; what stands behind the last `\r\n` is the last one. -/
def textLines (text : List Char) : List (List Char) := (cutAt crlf text).1 :: (cutAt crlf text).2

theorem IsLine.append {l l' : List Char} (h : IsLine l) (h' : IsLine l') : IsLine (l ++ l') := by
  rw [IsLine, List.mem_append, List.mem_append, not_or, not_or]
  exact ⟨⟨h.1, h'.1⟩, h.2, h'.2⟩

theorem textLines_append {ls : List (List Char)} (h : ∀ l ∈ ls, IsLine l) (text : List Char) :
    textLines (linesText ls ++ text) = ls ++ textLines text := by
  induction ls with
  | nil => rfl
  | cons l ls ih =>
    have hcut : ¬ crlf <:+: l := by
      intro hinf
      exact (h l (List.mem_cons_self ..)).1 (hinf.subset (by decide))
    have hrest := ih fun l hl => h l (List.mem_cons_of_mem _ hl)
    rw [textLines, linesText, List.flatMap_cons, List.append_assoc, List.append_assoc,
      cutAt_append unbordered_crlf hcut]
    rw [textLines, linesText] at hrest
    rw [hrest]
    rfl

theorem isLine_decimal (n : ℤ) : IsLine (decimal n) := by
  have hchar : ∀ c ∈ decimal n, c = '-' ∨ c.isDigit := by
    intro c hc
    have hdigits : ∀ c ∈ Nat.toDigits 10 n.natAbs, c = '-' ∨ c.isDigit := fun c hc =>
      .inr (Nat.isDigit_of_mem_toDigits (by decide) (by decide) hc)
    rw [decimal] at hc
    split at hc
    · rcases List.mem_cons.mp hc with rfl | hc
      · exact .inl rfl
      · exact hdigits c hc
    · exact hdigits c hc
  constructor
  · intro hc
    exact absurd (hchar _ hc) (by decide)
  · intro hc
    exact absurd (hchar _ hc) (by decide)

theorem isLine_of_word {word : List Char} (h : ∀ c ∈ word, isSpace c = false) : IsLine word := by
  constructor
  · intro hc
    exact absurd (h _ hc) (by decide)
  · intro hc
    exact absurd (h _ hc) (by decide)

/-! ### Texts of responses -/

/-- A header, an empty line, and a body. -/
def responseText (header body : List (List Char)) : List Char :=
  linesText header ++ (crlf ++ linesText body)

/-- The text is complete, and it is read as these lines. -/
structure ReadsAs (text : List Char) (header body : List (List Char)) : Prop where
  complete : text = responseText header body
  isLine : ∀ l ∈ header ++ body, IsLine l
  lines : textLines text = header ++ [] :: (body ++ [[]])

theorem readsAs_responseText {header body : List (List Char)}
    (h : ∀ l ∈ header ++ body, IsLine l) : ReadsAs (responseText header body) header body := by
  refine ⟨rfl, h, ?_⟩
  have hbody : textLines (linesText body ++ []) = body ++ [[]] :=
    textLines_append (fun l hl => h l (List.mem_append_right _ hl)) []
  have hempty : textLines (crlf ++ linesText body) = [] :: textLines (linesText body) := by
    rw [textLines, cutAt_sep unbordered_crlf.1]
    rfl
  rw [List.append_nil] at hbody
  rw [responseText, textLines_append fun l hl => h l (List.mem_append_left _ hl), hempty, hbody]

/-- The first two lines of every response. -/
def responseStart (status : List Char) (cseq : ℤ) : List (List Char) :=
  ["RTSP/1.0 ".toList ++ status, "CSeq: ".toList ++ decimal cseq]

/-- The array is large enough. -/
theorem rtspResponse_eq {size : ℕ} {status rest : List Char} {cseq : ℤ} (hlo : -2 ^ 31 ≤ cseq)
    (hhi : cseq < 2 ^ 31) (hsize : status.length + rest.length + 30 < size) :
    rtspResponse size status cseq rest = linesText (responseStart status cseq) ++ rest := by
  have hcseq := length_decimal_le hlo hhi
  have h₁ : "RTSP/1.0 ".toList.length = 9 := by decide
  have h₂ : "\r\nCSeq: ".toList.length = 8 := by decide
  have h₃ : "\r\n".toList.length = 2 := by decide
  have hsplit : "\r\nCSeq: ".toList = crlf ++ "CSeq: ".toList := by decide
  rw [rtspResponse, snprintf, List.take_of_length_le, hsplit]
  · simp only [responseStart, linesText, crlf, List.flatMap_cons, List.flatMap_nil,
      List.append_assoc, List.append_nil]
  · simp only [List.length_append]
    omega

theorem isLine_responseStart {status : List Char} (h : IsLine status) (cseq : ℤ) :
    ∀ l ∈ responseStart status cseq, IsLine l := by
  intro l hl
  rcases List.mem_pair.mp hl with rfl | rfl
  · exact .append (by decide) h
  · exact .append (by decide) (isLine_decimal cseq)

/-- A response that goes on with the lines `header` and `body`. -/
theorem readsAs_rtspResponse {size : ℕ} {status : List Char} {cseq : ℤ} {rest : List Char}
    {header body : List (List Char)} (hlo : -2 ^ 31 ≤ cseq) (hhi : cseq < 2 ^ 31)
    (hsize : status.length + rest.length + 30 < size) (hstatus : IsLine status)
    (hrest : rest = responseText header body) (h : ∀ l ∈ header ++ body, IsLine l) :
    ReadsAs (rtspResponse size status cseq rest) (responseStart status cseq ++ header) body := by
  have htext : rtspResponse size status cseq rest
      = responseText (responseStart status cseq ++ header) body := by
    rw [rtspResponse_eq hlo hhi hsize, hrest, responseText, responseText, linesText_append,
      List.append_assoc]
  rw [htext]
  refine readsAs_responseText ?_
  intro l hl
  rw [List.append_assoc] at hl
  rcases List.mem_append.mp hl with hl | hl
  · exact isLine_responseStart hstatus cseq l hl
  · exact h l hl

/-! ### The session description -/

/-- The lines of `make_sdp` that do not depend on the request. -/
def sdpStart : List (List Char) :=
  ["v=0".toList, "o=- 0 0 IN IP4 0.0.0.0".toList, "s=H265 Stream".toList,
    "c=IN IP4 0.0.0.0".toList, "t=0 0".toList, "a=control:*".toList,
    "m=video 0 RTP/AVP 96".toList, "a=rtpmap:96 H265/90000".toList]

def sdpLines (controlUrl : List Char) : List (List Char) :=
  sdpStart ++ ["a=control:".toList ++ controlUrl ++ "/trackID=0".toList]

theorem makeSdp_eq {url : List Char} (h : url.length ≤ 255) :
    makeSdp url = linesText (sdpLines url) ∧ (makeSdp url).length ≤ 500 := by
  have hstart : "v=0\r\no=- 0 0 IN IP4 0.0.0.0\r\ns=H265 Stream\r\nc=IN IP4 0.0.0.0\r\n".toList ++
      "t=0 0\r\na=control:*\r\nm=video 0 RTP/AVP ".toList ++ decimal sdpPayloadType ++
      "\r\na=rtpmap:".toList ++ decimal sdpPayloadType ++ " H265/90000\r\na=control:".toList
        = linesText sdpStart ++ "a=control:".toList := by decide
  have hend : "/trackID=0\r\n".toList = "/trackID=0".toList ++ crlf := by decide
  have hlen : (linesText sdpStart ++ "a=control:".toList).length ≤ 200 := by
    decide +kernel
  have hlen' : "/trackID=0\r\n".toList.length ≤ 20 := by decide
  have htext : makeSdp url
      = linesText sdpStart ++ "a=control:".toList ++ url ++ "/trackID=0\r\n".toList := by
    rw [makeSdp, hstart, snprintf, List.take_of_length_le]
    rw [List.length_append, List.length_append]
    omega
  constructor
  · rw [htext, hend, sdpLines, linesText_append]
    simp only [linesText, List.flatMap_cons, List.flatMap_nil, List.append_assoc, List.append_nil]
  · rw [htext, List.length_append, List.length_append]
    omega

theorem isLine_sdpLines {url : List Char} (h : IsLine url) : ∀ l ∈ sdpLines url, IsLine l := by
  intro l hl
  rcases List.mem_append.mp hl with hl | hl
  · exact (show ∀ l ∈ sdpStart, IsLine l by decide) l hl
  · rw [List.mem_singleton.mp hl]
    exact .append (.append (by decide) h) (by decide)

/-! ### The responses -/

section Responses

variable {cseq : ℤ}

/-- A response without a body, which ends with an empty line. -/
theorem readsAs_bodiless {size : ℕ} {status rest : List Char} {header : List (List Char)}
    (hlo : -2 ^ 31 ≤ cseq) (hhi : cseq < 2 ^ 31)
    (hsize : status.length + rest.length + 30 < size) (hstatus : IsLine status)
    (hrest : rest = linesText header ++ crlf) (h : ∀ l ∈ header, IsLine l) :
    ReadsAs (rtspResponse size status cseq rest) (responseStart status cseq ++ header) [] := by
  refine readsAs_rtspResponse hlo hhi hsize hstatus ?_ ?_
  · rw [hrest, responseText, linesText, linesText, List.flatMap_nil, List.append_nil]
  · rwa [List.append_nil]

theorem readsAs_optionsResponse (hlo : -2 ^ 31 ≤ cseq) (hhi : cseq < 2 ^ 31) :
    ReadsAs (optionsResponse cseq) (responseStart "200 OK".toList cseq ++
      ["Public: OPTIONS, DESCRIBE, SETUP, PLAY, TEARDOWN".toList]) [] :=
  readsAs_bodiless hlo hhi (by decide +kernel) (by decide) (by decide) (by decide)

theorem readsAs_playResponse (hlo : -2 ^ 31 ≤ cseq) (hhi : cseq < 2 ^ 31) :
    ReadsAs (playResponse cseq) (responseStart "200 OK".toList cseq ++
      ["Session: ".toList ++ rtspSessionId, "Range: npt=0.000-".toList]) [] :=
  readsAs_bodiless hlo hhi (by decide +kernel) (by decide) (by decide) (by decide)

theorem readsAs_teardownResponse (hlo : -2 ^ 31 ≤ cseq) (hhi : cseq < 2 ^ 31) :
    ReadsAs (teardownResponse cseq)
      (responseStart "200 OK".toList cseq ++ ["Session: ".toList ++ rtspSessionId]) [] :=
  readsAs_bodiless hlo hhi (by decide +kernel) (by decide) (by decide) (by decide)

/-- The reasons of the code are far shorter. -/
theorem readsAs_errorResponse (hlo : -2 ^ 31 ≤ cseq) (hhi : cseq < 2 ^ 31) {code : ℤ}
    {reason : List Char} (hcode : (decimal code).length ≤ 11) (hlen : reason.length ≤ 200)
    (hreason : IsLine reason) :
    ReadsAs (errorResponse cseq code reason)
      (responseStart (decimal code ++ " ".toList ++ reason) cseq) [] := by
  have hsize : (decimal code ++ " ".toList ++ reason).length + crlf.length + 30 < 256 := by
    have h₁ : " ".toList.length = 1 := by decide
    have h₂ : crlf.length = 2 := by decide
    simp only [List.length_append]
    omega
  have hstatus : IsLine (decimal code ++ " ".toList ++ reason) :=
    ((isLine_decimal code).append (by decide)).append hreason
  have h : ReadsAs (errorResponse cseq code reason)
      (responseStart (decimal code ++ " ".toList ++ reason) cseq ++ []) [] :=
    readsAs_bodiless hlo hhi hsize hstatus rfl (by simp)
  rwa [List.append_nil] at h

/-- The `Transport` line of a `SETUP`. -/
def transportLine (clientRtpPort : ℕ) : List Char :=
  "Transport: RTP/AVP/UDP;unicast;client_port=".toList ++ decimal clientRtpPort ++ "-".toList ++
    decimal (clientRtpPort + 1) ++ ";server_port=5004-5005".toList

theorem readsAs_setupResponse (hlo : -2 ^ 31 ≤ cseq) (hhi : cseq < 2 ^ 31) {clientRtpPort : ℕ}
    (hport : clientRtpPort ≤ 65535) :
    ReadsAs (setupResponse cseq clientRtpPort) (responseStart "200 OK".toList cseq ++
      [transportLine clientRtpPort, "Session: ".toList ++ rtspSessionId]) [] := by
  have hassoc : ∀ x a b c d e f g : List Char,
      x ++ a ++ b ++ c ++ d ++ e ++ f ++ g = x ++ (a ++ b ++ c ++ d ++ e ++ f ++ g) := by
    intro x a b c d e f g
    simp only [List.append_assoc]
  have hlines : ∀ x a l : List Char,
      x ++ (a ++ (crlf ++ (l ++ (crlf ++ crlf)))) = linesText [x ++ a, l] ++ crlf := by
    intro x a l
    simp [linesText]
  -- What stands behind the ports does not depend on the request.
  have hend : ";server_port=".toList ++ decimal rtpServerPort ++ "-".toList ++
      decimal rtcpServerPort ++ "\r\nSession: ".toList ++ rtspSessionId ++ "\r\n\r\n".toList
        = ";server_port=5004-5005".toList ++
          (crlf ++ (("Session: ".toList ++ rtspSessionId) ++ (crlf ++ crlf))) := by decide
  have hrest : "Transport: RTP/AVP/UDP;unicast;client_port=".toList ++ decimal clientRtpPort ++
      "-".toList ++ decimal (clientRtpPort + 1) ++ ";server_port=".toList ++
      decimal rtpServerPort ++ "-".toList ++ decimal rtcpServerPort ++ "\r\nSession: ".toList ++
      rtspSessionId ++ "\r\n\r\n".toList
        = linesText [transportLine clientRtpPort, "Session: ".toList ++ rtspSessionId] ++ crlf := by
    rw [hassoc, hend, hlines]
    rfl
  have hfirst := @length_decimal_le clientRtpPort (by omega) (by omega)
  have hsecond := @length_decimal_le (clientRtpPort + 1) (by omega) (by omega)
  have hlen : ∀ a b c : List Char, a.length ≤ 50 → b.length ≤ 1 → c.length ≤ 25 →
      (a ++ decimal clientRtpPort ++ b ++ decimal (clientRtpPort + 1) ++ c).length ≤ 100 := by
    intro a b c ha hb hc
    simp only [List.length_append]
    omega
  have hsize : ∀ status l l' : List Char, status.length ≤ 6 → l.length ≤ 100 → l'.length ≤ 20 →
      status.length + (linesText [l, l'] ++ crlf).length + 30 < 512 := by
    intro status l l' hstatus hl hl'
    have hcrlf : crlf.length = 2 := rfl
    simp only [linesText, List.flatMap_cons, List.flatMap_nil, List.length_append, List.length_nil]
    omega
  refine readsAs_bodiless hlo hhi ?_ (by decide) hrest ?_
  · rw [hrest]
    exact hsize _ _ _ (by decide) (hlen _ _ _ (by decide +kernel) (by decide) (by decide +kernel))
      (by decide +kernel)
  · intro l hl
    rcases List.mem_pair.mp hl with rfl | rfl
    · exact ((((IsLine.append (by decide) (isLine_decimal _)).append (by decide)).append
        (isLine_decimal _)).append (by decide))
    · decide

end Responses

/-- The header of a `DESCRIBE` response, with the number of characters of the body. -/
def describeHeader (r : RtspRequest) : List (List Char) :=
  responseStart "200 OK".toList r.cseq ++ ["Content-Type: application/sdp".toList,
    "Content-Length: ".toList ++ decimal (linesText (sdpLines r.url)).length]

theorem readsAs_describeResponse {req : List Char} {r : RtspRequest}
    (h : parseRtspRequest req = some r) :
    ReadsAs (describeResponse r) (describeHeader r) (sdpLines r.url) := by
  obtain ⟨⟨hlo, hhi⟩, hlen, hword⟩ := parseRtspRequest_spec h
  obtain ⟨hsdp, hsdpLen⟩ := makeSdp_eq hlen
  have hbody := @length_decimal_le (makeSdp r.url).length (by omega) (by omega)
  have hlines : ∀ a l number body : List Char, a = l ++ (crlf ++ "Content-Length: ".toList) →
      a ++ number ++ "\r\n\r\n".toList ++ body
        = linesText [l, "Content-Length: ".toList ++ number] ++ (crlf ++ body) := by
    rintro a l number body rfl
    have hend : "\r\n\r\n".toList = crlf ++ crlf := by decide
    simp only [hend, linesText, List.flatMap_cons, List.flatMap_nil, List.append_assoc,
      List.append_nil]
  have hrest : "Content-Type: application/sdp\r\nContent-Length: ".toList ++
      decimal (makeSdp r.url).length ++ "\r\n\r\n".toList ++ makeSdp r.url
        = responseText ["Content-Type: application/sdp".toList,
          "Content-Length: ".toList ++ decimal (makeSdp r.url).length] (sdpLines r.url) := by
    rw [responseText, ← hsdp]
    exact hlines _ _ _ _ (by decide)
  have hsize : ∀ status a b : List Char, status.length ≤ 6 → a.length ≤ 50 → b.length ≤ 4 →
      status.length + (a ++ decimal (makeSdp r.url).length ++ b ++ makeSdp r.url).length + 30
        < 2048 := by
    intro status a b hstatus ha hb
    simp only [List.length_append]
    omega
  rw [describeHeader, ← hsdp]
  refine readsAs_rtspResponse hlo hhi (hsize _ _ _ (by decide) (by decide +kernel) (by decide))
    (by decide) hrest ?_
  intro l hl
  rcases List.mem_append.mp hl with hl | hl
  · rcases List.mem_pair.mp hl with rfl | rfl
    · decide
    · exact .append (by decide) (isLine_decimal _)
  · exact isLine_sdpLines (isLine_of_word hword) l hl

/-- The errors that the server reports. -/
def rtspErrors : List (ℤ × List Char) :=
  [(400, "Bad Request".toList), (461, "Unsupported Transport".toList),
    (405, "Method Not Allowed".toList)]

/-- **No response is cut short, and none can be split.** -/
theorem responses_complete :
    (∀ (chunk : Chunk) (r : RtspRequest), parseRtspRequest (cstr chunk.text) = some r →
      makeSdp r.url = linesText (sdpLines r.url) ∧
        ReadsAs (describeResponse r) (describeHeader r) (sdpLines r.url) ∧
        (describeHeader r).length = 4 ∧ (sdpLines r.url).length = 9) ∧
    ∀ cseq : ℤ, -2 ^ 31 ≤ cseq → cseq < 2 ^ 31 →
      ReadsAs (optionsResponse cseq) (responseStart "200 OK".toList cseq ++
        ["Public: OPTIONS, DESCRIBE, SETUP, PLAY, TEARDOWN".toList]) [] ∧
      (∀ port, 1 ≤ port → port ≤ 65535 →
        ReadsAs (setupResponse cseq port) (responseStart "200 OK".toList cseq ++
          [transportLine port, "Session: ".toList ++ rtspSessionId]) []) ∧
      ReadsAs (playResponse cseq) (responseStart "200 OK".toList cseq ++
        ["Session: ".toList ++ rtspSessionId, "Range: npt=0.000-".toList]) [] ∧
      ReadsAs (teardownResponse cseq) (responseStart "200 OK".toList cseq ++
        ["Session: ".toList ++ rtspSessionId]) [] ∧
      ∀ e ∈ rtspErrors, ReadsAs (errorResponse cseq e.1 e.2)
        (responseStart (decimal e.1 ++ " ".toList ++ e.2) cseq) [] := by
  constructor
  · intro chunk r h
    exact ⟨(makeSdp_eq (parseRtspRequest_spec h).2.1).1, readsAs_describeResponse h, rfl, rfl⟩
  · intro cseq hlo hhi
    refine ⟨readsAs_optionsResponse hlo hhi, ?_, readsAs_playResponse hlo hhi,
      readsAs_teardownResponse hlo hhi, ?_⟩
    · intro port _ hport
      exact readsAs_setupResponse hlo hhi hport
    · intro e he
      have hfits : ∀ e ∈ rtspErrors, (decimal e.1).length ≤ 11 ∧ e.2.length ≤ 200 ∧ IsLine e.2 := by
        decide
      obtain ⟨hcode, hlen, hreason⟩ := hfits e he
      exact readsAs_errorResponse hlo hhi hcode hlen hreason

def describeChunk : Chunk where
  text := "DESCRIBE /s RTSP/1.0\r\nCSeq: 2\r\n\r\n".toList
  pos := by decide
  le := by decide

theorem responses_complete_sample :
    ReadsAs (describeResponse ⟨"DESCRIBE".toList, "/s".toList, 2⟩)
        (describeHeader ⟨"DESCRIBE".toList, "/s".toList, 2⟩) (sdpLines "/s".toList) ∧
      ReadsAs (setupResponse 2 5000) (responseStart "200 OK".toList 2 ++
        [transportLine 5000, "Session: ".toList ++ rtspSessionId]) [] :=
  ⟨(responses_complete.1 describeChunk _ (by decide)).2.1,
    (responses_complete.2 2 (by decide) (by decide)).2.1 5000 (by decide) (by decide)⟩

end LittleCore
