import LittleCore.Rtsp.Server

/-!
# Reading a request

What `parse_rtsp_request` makes of a well-formed request. The request line is read as it is. The
`CSeq` header is looked for as the text `CSeq:`, and as `Cseq:` where there is no `CSeq:`, without
regard to where a header begins; so what is found need not be the header, and the header, whose name
may be written in any case, need not be found.

Requests may have a body, folded headers, and blanks in front of the colon of a header. Nothing is
said of a request with a second `CSeq` header.

## Main results

* `parseRtspRequest_text` — the request line is read whatever comes behind it
* `parseRtspRequest_reads_iff` — exactly which requests are read as they were meant
-/

namespace LittleCore

open Library

/-! ### Well-formed requests -/

def IsBlank (c : Char) : Prop := c = ' ' ∨ c = '\t'

/-- A line goes on only where the next one begins with a blank. -/
def Folded (s : List Char) : Prop :=
  ∀ l r, s = l ++ '\n' :: r → ∃ c, r.head? = some c ∧ IsBlank c

theorem folded_of_not_mem {s : List Char} (h : '\n' ∉ s) : Folded s := by
  rintro l r rfl
  exact absurd (List.mem_append_right l (List.mem_cons_self ..)) h

/-- A header: its name, blanks, a colon, and the rest of its lines. -/
structure Header where
  name : List Char
  gap : List Char
  value : List Char
  name_ne : name ≠ []
  name_token : ∀ c ∈ name, c ≠ ':' ∧ isSpace c = false
  gap_blank : ∀ c ∈ gap, IsBlank c
  value_folded : Folded value

def Header.text (h : Header) : List Char := h.name ++ (h.gap ++ ':' :: (h.value ++ "\r\n".toList))

/-- Header names are the same in upper and lower case. -/
def isCseq (name : List Char) : Bool := name.map Char.toLower == "cseq".toList

/-- The parts of a request with a `CSeq` header, which has a number behind `space`. -/
structure RequestParts where
  method : List Char
  url : List Char
  version : List Char
  before : List Header
  name : List Char
  gap : List Char
  space : List Char
  digits : List Char
  trail : List Char
  after : List Header
  body : List Char

namespace RequestParts

/-- What stands in front of the `CSeq` header. -/
def front (r : RequestParts) : List Char :=
  r.method ++ ' ' :: (r.url ++ ' ' :: (r.version ++ ("\r\n".toList ++
    r.before.flatMap Header.text)))

/-- What stands behind its number. -/
def back (r : RequestParts) : List Char :=
  r.trail ++ ("\r\n".toList ++ (r.after.flatMap Header.text ++ ("\r\n".toList ++ r.body)))

def text (r : RequestParts) : List Char :=
  r.front ++ (r.name ++ (r.gap ++ ':' :: (r.space ++ (r.digits ++ r.back))))

/-- The value of the `CSeq` header. -/
def cseq (r : RequestParts) : ℕ := Nat.ofDigitChars 10 r.digits 0

end RequestParts

/-- A request with exactly one `CSeq` header, as a C string. -/
structure WellFormedRequest extends RequestParts where
  method_ne : method ≠ []
  method_word : ∀ c ∈ method, isSpace c = false
  method_le : method.length ≤ 31
  url_ne : url ≠ []
  url_word : ∀ c ∈ url, isSpace c = false
  url_le : url.length ≤ 255
  version_word : ∀ c ∈ version, isSpace c = false
  before_other : ∀ h ∈ before, isCseq h.name = false
  name_cseq : isCseq name
  gap_blank : ∀ c ∈ gap, IsBlank c
  space_space : ∀ c ∈ space, isSpace c
  space_folded : Folded space
  digits_ne : digits ≠ []
  digits_digit : ∀ c ∈ digits, c.isDigit
  trail_space : ∀ c ∈ trail, isSpace c
  trail_folded : Folded trail
  cseq_lt : toRequestParts.cseq < 2 ^ 31
  after_other : ∀ h ∈ after, isCseq h.name = false
  noZero : '\x00' ∉ toRequestParts.text

/-! ### What the search finds -/

namespace RequestParts

/-- What the number is looked for behind. -/
def searched (r : RequestParts) : List Char :=
  if (strstr "CSeq:".toList r.text).isSome then "CSeq:".toList else "Cseq:".toList

/-- When the number that is found is that of the header. -/
inductive ReadsCseq (r : RequestParts) : Prop
  /-- The header is what is looked for, and it is not found earlier. -/
  | header (hname : r.name ++ (r.gap ++ [':']) = r.searched) (hfront : ¬ r.searched <:+: r.front)
  /-- Something else is found, and the same number happens to stand behind it. -/
  | decoy (l behind : List Char) (hplace : r.text = l ++ (r.searched ++ behind))
      (hfirst : ¬ r.searched <:+: l) (hother : l ≠ r.front) (hnumber : atoi behind = r.cseq)
  /-- Nothing is found, and the number happens to be zero. -/
  | nothing (hnone : ¬ r.searched <:+: r.text) (hzero : r.cseq = 0)

theorem searched_cases (r : RequestParts) :
    r.searched = "CSeq:".toList ∨ r.searched = "Cseq:".toList := by
  rw [searched]
  split
  · exact .inl rfl
  · exact .inr rfl

/-- Only the first character is a `C`, so the text cannot overlap itself. -/
theorem unbordered_searched (r : RequestParts) : Unbordered r.searched := by
  rcases r.searched_cases with h | h <;> rw [h] <;> exact unbordered_of_take (by decide) (by decide)

/-- The number is the one behind the text that is looked for. -/
theorem parseCseq_text (r : RequestParts) :
    parseCseq r.text = (strstr r.searched r.text).elim 0 fun p => atoi (p.drop 5) := by
  rw [parseCseq, searched]
  cases hfirst : strstr "CSeq:".toList r.text with
  | some p =>
    rw [Option.isSome_some, if_pos rfl, hfirst]
    rfl
  | none =>
    simp only [Option.none_or, Option.isSome_none, Bool.false_eq_true, if_false]
    cases strstr "Cseq:".toList r.text <;> rfl

end RequestParts

namespace WellFormedRequest

/-- **The request line is read** whatever comes behind it. -/
theorem parseRtspRequest_text (r : WellFormedRequest) :
    parseRtspRequest r.text = some ⟨r.method, r.url, parseCseq r.text⟩ := by
  have hblank : ∀ rest c, (' ' :: rest).head? = some c → isSpace c := by
    rintro rest c hc
    rw [← Option.some.inj hc]
    rfl
  have hmethod : ∀ rest, scanWord 31 (r.method ++ ' ' :: rest) = some (r.method, ' ' :: rest) := by
    intro rest
    rw [scanWord_of_word (by decide) r.method_ne r.method_word (hblank rest),
      List.take_of_length_le r.method_le, List.drop_of_length_le r.method_le, List.nil_append]
  have hurl : ∀ rest, scanWord 255 (' ' :: (r.url ++ ' ' :: rest)) = some (r.url, ' ' :: rest) := by
    intro rest
    rw [scanWord_space 255 rfl, scanWord_of_word (by decide) r.url_ne r.url_word (hblank rest),
      List.take_of_length_le r.url_le, List.drop_of_length_le r.url_le, List.nil_append]
  obtain ⟨rest, htext⟩ : ∃ rest, r.text = r.method ++ ' ' :: (r.url ++ ' ' :: rest) := by
    rw [RequestParts.text, RequestParts.front, List.append_assoc, List.cons_append,
      List.append_assoc, List.cons_append]
    exact ⟨_, rfl⟩
  rw [parseRtspRequest]
  generalize parseCseq r.text = cseq
  rw [htext, hmethod]
  dsimp only
  rw [hurl]

theorem length_name (r : WellFormedRequest) : r.name.length = 4 := by
  have hlen := congrArg List.length (beq_iff_eq.mp r.name_cseq)
  rwa [List.length_map] at hlen

/-- If something is found at the header, it is the name and the colon. -/
theorem name_of_searched {r : WellFormedRequest} {behind : List Char}
    (h : r.text = r.front ++ (r.searched ++ behind)) : r.name ++ (r.gap ++ [':']) = r.searched := by
  rw [RequestParts.text, List.append_cancel_left_eq] at h
  obtain ⟨word, hword, hlen⟩ : ∃ word, r.searched = word ++ [':'] ∧ word.length = 4 := by
    rcases r.searched_cases with h | h
    · exact ⟨"CSeq".toList, h, rfl⟩
    · exact ⟨"Cseq".toList, h, rfl⟩
  rw [hword, List.append_assoc] at h
  obtain ⟨hname, hcolon⟩ := List.append_inj h (by rw [length_name, hlen])
  have hgap : r.gap = [] := by
    rcases hg : r.gap with _ | ⟨c, gap⟩
    · rfl
    · -- A blank is no colon.
      have hblank := r.gap_blank c (by rw [hg]; exact List.mem_cons_self ..)
      rw [hg, List.cons_append, List.singleton_append, List.cons.injEq] at hcolon
      rcases hblank with hc | hc <;> rw [hc] at hcolon <;> exact absurd hcolon.1 (by decide)
  rw [hword, hname, hgap, List.nil_append]

/-- The number of the header is read where the header is found. -/
theorem atoi_header (r : WellFormedRequest) :
    atoi (r.space ++ (r.digits ++ r.back)) = r.cseq := by
  refine atoi_digits r.digits_ne r.digits_digit r.cseq_lt r.space_space ?_
  intro c hc
  have hspace : isSpace c := by
    rw [RequestParts.back] at hc
    rcases ht : r.trail with _ | ⟨c', trail⟩
    · rw [ht] at hc
      rw [← Option.some.inj hc]
      rfl
    · rw [ht] at hc
      rw [← Option.some.inj hc]
      exact r.trail_space c' (by rw [ht]; exact List.mem_cons_self ..)
  by_contra hdigit
  rw [Bool.not_eq_false] at hdigit
  rw [isSpace_eq_false_of_isDigit hdigit] at hspace
  cases hspace

theorem parseCseq_eq_iff (r : WellFormedRequest) :
    parseCseq r.text = r.cseq ↔ r.ReadsCseq := by
  have hsearched : r.searched.length = 5 := by
    rcases r.searched_cases with h | h <;> rw [h] <;> rfl
  have hdrop : ∀ behind, (r.searched ++ behind).drop 5 = behind := by
    intro behind
    rw [← hsearched, List.drop_left]
  rw [r.parseCseq_text]
  constructor
  · intro h
    cases hfound : strstr r.searched r.text with
    | none =>
      rw [hfound, Option.elim_none] at h
      exact .nothing ((strstr_eq_none r.unbordered_searched.1).mp hfound) (by omega)
    | some p =>
      obtain ⟨l, behind, htext, hl, rfl⟩ := (strstr_eq_some r.unbordered_searched).mp hfound
      rw [hfound, Option.elim_some, hdrop] at h
      by_cases hplace : l = r.front
      · rw [hplace] at htext hl
        exact .header (name_of_searched htext) hl
      · exact .decoy l behind htext hl hplace h
  · rintro (⟨hname, hfront⟩ | ⟨l, behind, hplace, hfirst, -, hnumber⟩ | ⟨hnone, hzero⟩)
    · have htext : r.text = r.front ++ (r.searched ++ (r.space ++ (r.digits ++ r.back))) := by
        rw [RequestParts.text, ← hname, List.append_assoc, List.append_assoc, List.singleton_append]
      rw [htext, strstr_first r.unbordered_searched hfront, Option.elim_some, hdrop]
      exact r.atoi_header
    · rw [hplace, strstr_first r.unbordered_searched hfirst, Option.elim_some, hdrop, hnumber]
    · rw [(strstr_eq_none r.unbordered_searched.1).mpr hnone, hzero]
      rfl

/-- **Exactly which requests are read as they were meant.** -/
theorem parseRtspRequest_reads_iff (r : WellFormedRequest) :
    parseRtspRequest r.text = some ⟨r.method, r.url, r.cseq⟩ ↔ r.ReadsCseq := by
  rw [r.parseRtspRequest_text, ← r.parseCseq_eq_iff, Option.some.injEq, RtspRequest.mk.injEq,
    and_iff_right rfl, and_iff_right rfl]

end WellFormedRequest

/-! ### Two requests with the number 5 -/

/-- An `OPTIONS` request with the number 5, behind the headers `before` and under the name
`name`. -/
def optionsParts (before : List Header) (name : List Char) : RequestParts where
  method := "OPTIONS".toList
  url := "*".toList
  version := "RTSP/1.0".toList
  before := before
  name := name
  gap := []
  space := [' ']
  digits := ['5']
  trail := []
  after := []
  body := []

def optionsRequest (before : List Header) (name : List Char)
    (hbefore : ∀ h ∈ before, isCseq h.name = false) (hname : isCseq name)
    (hzero : '\x00' ∉ (optionsParts before name).text) : WellFormedRequest where
  toRequestParts := optionsParts before name
  method_ne := show "OPTIONS".toList ≠ [] by decide
  method_word := not_isSpace_of_all rfl
  method_le := Nat.le_of_ble_eq_true rfl
  url_ne := show "*".toList ≠ [] by decide
  url_word := not_isSpace_of_all rfl
  url_le := Nat.le_of_ble_eq_true rfl
  version_word := not_isSpace_of_all rfl
  before_other := hbefore
  name_cseq := hname
  gap_blank := fun _ hc => absurd hc List.not_mem_nil
  space_space := List.forall_mem_singleton.mpr rfl
  space_folded := folded_of_not_mem (show '\n' ∉ [' '] by decide)
  digits_ne := List.cons_ne_nil '5' []
  digits_digit := List.forall_mem_singleton.mpr rfl
  trail_space := fun _ hc => absurd hc List.not_mem_nil
  trail_folded := folded_of_not_mem List.not_mem_nil
  cseq_lt := show Nat.ofDigitChars 10 ['5'] 0 < 2 ^ 31 by decide
  after_other := fun _ hh => absurd hh List.not_mem_nil
  noZero := hzero

/-- `X-CSeq: 7`. -/
def decoyHeader : Header where
  name := "X-CSeq".toList
  gap := []
  value := " 7".toList
  name_ne := by decide
  name_token := by simp [isSpace]
  gap_blank := by simp
  value_folded := folded_of_not_mem (by decide)

/-- `cseq: 5`. -/
def lowerRequest : WellFormedRequest :=
  optionsRequest [] "cseq".toList (by simp) rfl (by decide)

/-- `X-CSeq: 7` and then `CSeq: 5`. -/
def decoyRequest : WellFormedRequest :=
  optionsRequest [decoyHeader] "CSeq".toList (by decide) rfl (by decide)

/-- **The number is not always read**: of `cseq: 5` it is 0, and behind `X-CSeq: 7` it is 7. -/
theorem parseRtspRequest_misreads :
    lowerRequest.text = "OPTIONS * RTSP/1.0\r\ncseq: 5\r\n\r\n".toList ∧
      parseRtspRequest lowerRequest.text = some ⟨"OPTIONS".toList, "*".toList, 0⟩ ∧
      decoyRequest.text = "OPTIONS * RTSP/1.0\r\nX-CSeq: 7\r\nCSeq: 5\r\n\r\n".toList ∧
      parseRtspRequest decoyRequest.text = some ⟨"OPTIONS".toList, "*".toList, 7⟩ ∧
      ¬ ∀ r : WellFormedRequest, parseRtspRequest r.text = some ⟨r.method, r.url, r.cseq⟩ := by
  have hlower : parseRtspRequest lowerRequest.text = some ⟨"OPTIONS".toList, "*".toList, 0⟩ := by
    decide
  refine ⟨by decide, hlower, by decide, by decide, fun h => ?_⟩
  have hcseq := congrArg (Option.map RtspRequest.cseq) ((h lowerRequest).symm.trans hlower)
  revert hcseq
  decide

end LittleCore
