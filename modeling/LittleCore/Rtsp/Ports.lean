import LittleCore.Rtsp.Requests

/-!
# The ports of `SETUP`

`parse_client_port` looks for the text `client_port=` anywhere in the request, reads what is behind
it with `atoi`, and refuses the result unless it is a port. The test comes too late: `atoi` has cut
the number to 32 bits by then, so numbers from 2 ^ 32 on can come out as ports. Nor does the search
know about headers, so that a `client_port=` in the URL or in another header is taken if it stands
first.

Nothing is claimed of a request that does not fit one `recv`, see `split_request`.

## Main results

* `answersSetup_iff` — exactly which requests get the answer that their number asks for
-/

namespace LittleCore

open Library

/-! ### Requests with a port -/

def clientPortKey : List Char := "client_port=".toList

theorem unbordered_clientPortKey : Unbordered clientPortKey :=
  unbordered_of_take (by decide) (by decide)

/-- The name of the header, which is the same in upper and lower case. -/
def isTransport (name : List Char) : Bool := name.map Char.toLower == "transport".toList

/-- The parts of a `SETUP` whose `Transport` header has a number behind `client_port=`. -/
structure SetupParts where
  url : List Char
  version : List Char
  before : List Header
  name : List Char
  gap : List Char
  /-- What stands in front of `client_port=` in the header. -/
  pre : List Char
  digits : List Char
  /-- What stands behind the number in the header. -/
  post : List Char
  after : List Header
  body : List Char

namespace SetupParts

/-- What stands in front of `client_port=`. -/
def front (r : SetupParts) : List Char :=
  "SETUP".toList ++ ' ' :: (r.url ++ ' ' :: (r.version ++ ("\r\n".toList ++
    (r.before.flatMap Header.text ++ (r.name ++ (r.gap ++ ':' :: r.pre))))))

/-- What stands behind the number. -/
def back (r : SetupParts) : List Char :=
  r.post ++ ("\r\n".toList ++ (r.after.flatMap Header.text ++ ("\r\n".toList ++ r.body)))

def text (r : SetupParts) : List Char := r.front ++ (clientPortKey ++ (r.digits ++ r.back))

/-- The number, however long it is. -/
def value (r : SetupParts) : ℕ := Nat.ofDigitChars 10 r.digits 0

end SetupParts

/-- A `SETUP` with a `Transport` header, as a C string. The URL and the number may be of any
length. -/
structure SetupRequest extends SetupParts where
  url_ne : url ≠ []
  url_word : ∀ c ∈ url, isSpace c = false
  version_word : ∀ c ∈ version, isSpace c = false
  name_transport : isTransport name
  gap_blank : ∀ c ∈ gap, IsBlank c
  value_folded : Folded (pre ++ (clientPortKey ++ (digits ++ post)))
  digits_ne : digits ≠ []
  digits_digit : ∀ c ∈ digits, c.isDigit
  post_other : ∀ c, post.head? = some c → c.isDigit = false
  noZero : '\x00' ∉ toSetupParts.text

/-! ### Numbers and ports -/

/-- The port that a number stands for, and 0 if it stands for none. -/
def portOf (n : ℤ) : ℕ := if n ≤ 0 ∨ n > 65535 then 0 else n.toNat

theorem portOf_le (n : ℤ) : portOf n ≤ 65535 := by
  rw [portOf]
  split <;> omega

/-- A number that `atoi` takes for another one, which is a port. -/
def PassesForPort (n : ℕ) : Prop := 2 ^ 32 ≤ n ∧ n < 2 ^ 63 ∧ n % 2 ^ 32 ≠ 0 ∧ n % 2 ^ 32 ≤ 65535

/-- **What is left of a number** is as good as the number itself, unless it passes for a port. -/
theorem portOf_cut_iff (n : ℕ) :
    portOf ((min (2 ^ 63 - 1) (n : ℤ)).bmod (2 ^ 32)) = portOf n ↔ ¬ PassesForPort n := by
  rw [PassesForPort]
  rcases Nat.lt_or_ge n (2 ^ 63) with hlt | hge
  · rw [Int.min_eq_right (by omega), Int.bmod_def]
    rcases Nat.lt_or_ge n (2 ^ 32) with hshort | hlong
    · -- The number is left as it is, or it becomes negative.
      refine iff_of_true ?_ (by omega)
      rw [portOf, portOf]
      split_ifs <;> omega
    · have hnone : portOf n = 0 := if_pos (by omega)
      rw [hnone, portOf]
      split_ifs <;> omega
  · -- The largest `long` becomes -1.
    refine iff_of_true ?_ (by omega)
    have hcut : (min (2 ^ 63 - 1) (n : ℤ)).bmod (2 ^ 32) = -1 := by
      rw [Int.min_eq_left (by omega)]
      decide
    have hnone : portOf n = 0 := if_pos (by omega)
    rw [hcut, hnone]
    rfl

/-! ### What the search finds -/

theorem parseClientPort_eq (req : List Char) : parseClientPort req
    = match strstr clientPortKey req with
      | none => 0
      | some p => portOf (atoi (p.drop "client_port=".length)) := rfl

theorem drop_clientPortKey (behind : List Char) :
    (clientPortKey ++ behind).drop "client_port=".length = behind := by
  have hlen : clientPortKey.length = "client_port=".length := String.length_toList
  rw [← hlen, List.drop_left]

namespace SetupParts

/-- When the port that is found is the one of the header. -/
inductive ReadsPort (r : SetupParts) : Prop
  /-- The header is found first, and its number does not pass for another one. -/
  | header (hfront : ¬ clientPortKey <:+: r.front) (hvalue : ¬ PassesForPort r.value)
  /-- Something else is found, and the same port happens to stand behind it. -/
  | decoy (l behind : List Char) (hplace : r.text = l ++ (clientPortKey ++ behind))
      (hfirst : ¬ clientPortKey <:+: l) (hother : l ≠ r.front)
      (hport : portOf (atoi behind) = portOf r.value)

/-- The port is the one behind the first `client_port=`. -/
theorem parseClientPort_of_first {r : SetupParts} {l behind : List Char}
    (hplace : r.text = l ++ (clientPortKey ++ behind)) (hfirst : ¬ clientPortKey <:+: l) :
    parseClientPort r.text = portOf (atoi behind) := by
  have hfound := strstr_first unbordered_clientPortKey hfirst behind
  rw [← hplace] at hfound
  rw [parseClientPort_eq, hfound]
  exact congrArg (fun p => portOf (atoi p)) (drop_clientPortKey behind)

end SetupParts

namespace SetupRequest

variable (r : SetupRequest)

/-- What `atoi` makes of the number of the header. -/
theorem atoi_value :
    atoi (r.digits ++ r.back) = (min (2 ^ 63 - 1) (r.value : ℤ)).bmod (2 ^ 32) := by
  have hback : ∀ c, r.back.head? = some c → c.isDigit = false := by
    intro c hc
    rw [SetupParts.back] at hc
    rcases hp : r.post with _ | ⟨c', post⟩
    · rw [hp] at hc
      rw [← Option.some.inj hc]
      rfl
    · rw [hp] at hc
      rw [← Option.some.inj hc]
      exact r.post_other c' (by rw [hp]; rfl)
  have hdigits : strtol ([] ++ (r.digits ++ r.back)) = min (2 ^ 63 - 1) (r.value : ℤ) :=
    strtol_digits r.digits_ne r.digits_digit (by simp) hback
  rw [atoi, ← hdigits, List.nil_append]

/-- **Exactly which ports are read as they were meant.** -/
theorem parseClientPort_eq_iff : parseClientPort r.text = portOf r.value ↔ r.ReadsPort := by
  constructor
  · intro h
    -- The header itself makes sure that something is found.
    obtain ⟨l, behind, hplace, hfirst⟩ := exists_append_of_infix unbordered_clientPortKey.1
      (show clientPortKey <:+: r.text from ⟨r.front, r.digits ++ r.back, by
        rw [SetupParts.text, List.append_assoc]⟩)
    rw [SetupParts.parseClientPort_of_first hplace hfirst] at h
    by_cases hl : l = r.front
    · subst hl
      rw [SetupParts.text, List.append_cancel_left_eq, List.append_cancel_left_eq] at hplace
      rw [← hplace, r.atoi_value] at h
      exact .header hfirst ((portOf_cut_iff r.value).mp h)
    · exact .decoy l behind hplace hfirst hl h
  · rintro (⟨hfront, hvalue⟩ | ⟨l, behind, hplace, hfirst, -, hport⟩)
    · rw [SetupParts.parseClientPort_of_first rfl hfront, r.atoi_value]
      exact (portOf_cut_iff r.value).mpr hvalue
    · rw [SetupParts.parseClientPort_of_first hplace hfirst, hport]

/-- The request is read as a `SETUP`, whatever its headers are. -/
theorem parseRtspRequest_text :
    parseRtspRequest r.text = some ⟨"SETUP".toList, r.url.take 255, parseCseq r.text⟩ := by
  have hblank : ∀ rest c, (' ' :: rest).head? = some c → isSpace c := by
    rintro rest c hc
    rw [← Option.some.inj hc]
    rfl
  have hmethod : ∀ rest,
      scanWord 31 ("SETUP".toList ++ ' ' :: rest) = some ("SETUP".toList, ' ' :: rest) := by
    intro rest
    exact scanWord_of_word (by decide) (by decide) (not_isSpace_of_all rfl) (hblank rest)
  have hurl : ∀ rest, scanWord 255 (' ' :: (r.url ++ ' ' :: rest))
      = some (r.url.take 255, r.url.drop 255 ++ ' ' :: rest) := by
    intro rest
    rw [scanWord_space 255 rfl,
      scanWord_of_word (by decide) r.url_ne r.url_word (hblank rest)]
  obtain ⟨rest, htext⟩ : ∃ rest,
      r.text = "SETUP".toList ++ ' ' :: (r.url ++ ' ' :: rest) := by
    -- Rewriting with the equation of `front` would evaluate its texts.
    delta SetupParts.text SetupParts.front
    rw [List.append_assoc, List.cons_append, List.append_assoc, List.cons_append]
    exact ⟨_, rfl⟩
  rw [parseRtspRequest]
  generalize parseCseq r.text = cseq
  rw [htext, hmethod]
  dsimp only
  rw [hurl]

end SetupRequest

/-! ### The answer -/

/-- The answer to a `SETUP` with the number `n`: if that is a port, it is the port of the target,
otherwise the request is refused and the shared state is as it was. -/
def AnswersSetup (peer : SockAddrIn) (cseq : ℤ) (n : ℕ) (w w' : ServerWorld) : Prop :=
  if 1 ≤ n ∧ n ≤ 65535 then
    w'.rtsp = w.rtsp.apply (.setup { peer with sinPort := .ofNat n }) ∧
      w'.rtsp.gClientAddr.sinPort.toNat = n ∧
      w'.trace = w.trace ++ [.critical (.setup { peer with sinPort := .ofNat n }) w'.rtsp,
        .response (setupResponse cseq n)]
  else
    w'.rtsp = w.rtsp ∧
      w'.trace = w.trace ++ [.response (errorResponse cseq 461 "Unsupported Transport".toList)]

/-- What the server does with a `SETUP`. -/
theorem serveChunk_setup (peer : SockAddrIn) {r : SetupRequest} {chunk : Chunk}
    (h : cstr chunk.text = r.text) (w : ServerWorld) :
    (serveChunk peer chunk w).2 =
      if parseClientPort r.text = 0 then
        w.respond (errorResponse (parseCseq r.text) 461 "Unsupported Transport".toList)
      else
        (w.critical (.setup { peer with sinPort := .ofNat (parseClientPort r.text) })).respond
          (setupResponse (parseCseq r.text) (parseClientPort r.text)) := by
  rw [serveChunk, h, r.parseRtspRequest_text]
  dsimp only
  rw [if_neg (by decide), if_neg (by decide), if_pos rfl]
  split <;> rfl

theorem portOf_pos_iff (n : ℕ) : portOf n ≠ 0 ↔ 1 ≤ n ∧ n ≤ 65535 := by
  rw [portOf]
  split <;> omega

theorem portOf_of_port {n : ℕ} (h : 1 ≤ n ∧ n ≤ 65535) : portOf n = n := by
  rw [portOf, if_neg (by omega), Int.toNat_natCast]

/-- **Exactly which requests get the answer that their number asks for.** -/
theorem answersSetup_iff (peer : SockAddrIn) (r : SetupRequest) {chunk : Chunk}
    (h : cstr chunk.text = r.text) (w : ServerWorld) :
    AnswersSetup peer (parseCseq r.text) r.value w (serveChunk peer chunk w).2 ↔ r.ReadsPort := by
  rw [← r.parseClientPort_eq_iff, serveChunk_setup peer h, AnswersSetup]
  have hle : parseClientPort r.text ≤ 65535 := by
    rw [parseClientPort_eq]
    split
    · exact Nat.zero_le _
    · exact portOf_le _
  generalize parseClientPort r.text = port at hle
  generalize parseCseq r.text = cseq
  by_cases hvalue : 1 ≤ r.value ∧ r.value ≤ 65535
  · rw [if_pos hvalue, portOf_of_port hvalue]
    constructor
    · rintro ⟨-, hport, htrace⟩
      split at htrace
      · -- A refusal leaves one event only.
        have hlen := congrArg List.length htrace
        simp [ServerWorld.respond, ServerWorld.emit] at hlen
      · rename_i hne
        rw [if_neg hne] at hport
        exact (Nat.mod_eq_of_lt (by omega)).symm.trans hport
    · rintro rfl
      rw [if_neg (by omega)]
      refine ⟨rfl, Nat.mod_eq_of_lt (by omega), ?_⟩
      simp [ServerWorld.respond, ServerWorld.emit, ServerWorld.critical]
  · have hnone : portOf r.value = 0 := by
      by_contra hne
      exact hvalue ((portOf_pos_iff _).mp hne)
    rw [if_neg hvalue, hnone]
    constructor
    · rintro ⟨-, htrace⟩
      by_contra hne
      rw [if_neg hne] at htrace
      have hlen := congrArg List.length htrace
      simp [ServerWorld.respond, ServerWorld.emit, ServerWorld.critical] at hlen
    · rintro rfl
      rw [if_pos rfl]
      exact ⟨rfl, rfl⟩

/-! ### Requests to try -/

def transportParts (url digits : List Char) : SetupParts where
  url := url
  version := "RTSP/1.0".toList
  before := []
  name := "Transport".toList
  gap := []
  pre := " RTP/AVP;".toList
  digits := digits
  post := []
  after := []
  body := []

def transportRequest (url digits : List Char) (hurl : url ≠ [])
    (hword : ∀ c ∈ url, isSpace c = false) (hdigits : digits ≠ [])
    (hdigit : ∀ c ∈ digits, c.isDigit) (hline : '\n' ∉ digits)
    (hzero : '\x00' ∉ (transportParts url digits).text) : SetupRequest where
  toSetupParts := transportParts url digits
  url_ne := hurl
  url_word := hword
  version_word := not_isSpace_of_all rfl
  name_transport := rfl
  gap_blank := fun _ hc => absurd hc List.not_mem_nil
  value_folded := by
    refine folded_of_not_mem ?_
    rw [transportParts, List.append_nil, List.mem_append, List.mem_append, not_or, not_or]
    exact ⟨show '\n' ∉ " RTP/AVP;".toList by decide, by decide, hline⟩
  digits_ne := hdigits
  digits_digit := hdigit
  post_other := fun _ hc => absurd hc (by simp [transportParts])
  noZero := hzero

/-- A port, and the number 2 ^ 32 + 1. -/
def sampleDigits : List (List Char) := ["5000".toList, "4294967297".toList]

theorem sampleUrl_ne : "/s".toList ≠ [] := by decide

theorem sampleUrl_word : ∀ c ∈ "/s".toList, isSpace c = false := not_isSpace_of_all rfl

theorem sampleDigits_spec : ∀ digits ∈ sampleDigits, digits ≠ [] ∧ digits.all Char.isDigit ∧
    '\n' ∉ digits ∧ '\x00' ∉ (transportParts "/s".toList digits).text := by
  decide

/-- A request with one of these numbers. -/
def sampleRequest (digits : List Char) (h : digits ∈ sampleDigits) : SetupRequest :=
  transportRequest "/s".toList digits sampleUrl_ne sampleUrl_word (sampleDigits_spec digits h).1
    (List.all_eq_true.mp (sampleDigits_spec digits h).2.1) (sampleDigits_spec digits h).2.2.1
    (sampleDigits_spec digits h).2.2.2

def portRequest : SetupRequest := sampleRequest "5000".toList (by simp [sampleDigits])

def longRequest : SetupRequest := sampleRequest "4294967297".toList (by simp [sampleDigits])

def portChunk : Chunk where
  text := portRequest.text
  pos := by decide
  le := by decide

def longChunk : Chunk where
  text := longRequest.text
  pos := by decide
  le := by decide

theorem answersSetup_iff_sample :
    AnswersSetup ⟨7, 40000⟩ 0 5000 {} (serveChunk ⟨7, 40000⟩ portChunk {}).2 :=
  (answersSetup_iff ⟨7, 40000⟩ portRequest (by decide) {}).mpr
    (.header (by decide) (by unfold PassesForPort; decide))

/-- **A number that is no port is accepted**: of 2 ^ 32 + 1 the port is 1. -/
theorem setup_accepts_long :
    longRequest.text
        = "SETUP /s RTSP/1.0\r\nTransport: RTP/AVP;client_port=4294967297\r\n\r\n".toList ∧
      longRequest.value = 2 ^ 32 + 1 ∧
      (serveChunk ⟨7, 40000⟩ longChunk {}).2.rtsp = ⟨false, true, true, ⟨7, 1⟩⟩ ∧
      ¬ ∀ (peer : SockAddrIn) (r : SetupRequest) (chunk : Chunk) (w : ServerWorld),
        cstr chunk.text = r.text →
        AnswersSetup peer (parseCseq r.text) r.value w (serveChunk peer chunk w).2 := by
  have hvalue : longRequest.value = 2 ^ 32 + 1 := by decide
  have hrtsp : (serveChunk ⟨7, 40000⟩ longChunk {}).2.rtsp = ⟨false, true, true, ⟨7, 1⟩⟩ := by
    decide
  refine ⟨by decide, hvalue, hrtsp, ?_⟩
  intro h
  have hanswer := h ⟨7, 40000⟩ longRequest longChunk {} (by decide)
  rw [AnswersSetup, hvalue, if_neg (by omega), hrtsp] at hanswer
  exact absurd hanswer.1 (by decide)

end LittleCore
