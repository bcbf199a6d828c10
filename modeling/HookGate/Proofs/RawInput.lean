import HookGate.Proofs.Decision
import HookGate.Proofs.Decoding
import HookGate.Proofs.Text.Utf8

/-!
# Raw input

Bytes that are the encoding of a text are read as that text, and all others are refused
as they are (`Payload.ofBytes_exact`). Nothing is put in the place of bad bytes, so
neither a forbidden action nor a harmless one can hide behind them.
-/

namespace HookGate

/-! ### The words of a refusal -/

namespace Text.Utf8

def Fault.phrase : Fault → String
  | .invalid n => "invalid utf-8 sequence of " ++ toString n ++ " bytes"
  | .incomplete => "incomplete utf-8 byte sequence"

theorem Failure.message_eq (f : Failure) : f.message = f.fault.phrase ++ (" from index " ++ toString f.index) := by
  obtain ⟨index, fault⟩ := f
  cases fault with
  | invalid n =>
    have hwords : " bytes from index " = " bytes" ++ " from index " := by decide
    have hassoc (a b c d e : String) : a ++ b ++ (c ++ d) ++ e = a ++ b ++ c ++ (d ++ e) := by
      simp only [String.append_assoc]
    exact (congrArg (fun w => "invalid utf-8 sequence of " ++ toString n ++ w ++ toString index) hwords).trans
      (hassoc _ _ _ _ _)
  | incomplete =>
    have hwords : "incomplete utf-8 byte sequence from index " = "incomplete utf-8 byte sequence" ++ " from index " := by
      decide
    exact (congrArg (fun w => w ++ toString index) hwords).trans String.append_assoc

theorem not_isInfix_of_count_lt {s t : List Char} {c : Char} (h : t.count c < s.count c) : ¬ s <:+: t := by
  intro hi
  have := hi.sublist.count_le c
  omega

theorem count_toString (n : Nat) : (toString n).toList.count 'c' = 0 := by
  rw [List.count_eq_zero]
  intro h
  have hdigits : (toString n).toList = Nat.toDigits 10 n := String.toList_ofList
  rw [hdigits] at h
  have := Nat.isDigit_of_mem_toDigits (by decide) (by decide) h
  cases this

theorem count_words (a b c d : String) (n m : Nat) :
    (a ++ (b ++ toString n ++ c ++ (d ++ toString m))).toList.count 'c' =
      a.toList.count 'c' + (b.toList.count 'c' + c.toList.count 'c' + d.toList.count 'c') := by
  simp only [String.toList_append, List.count_append, count_toString, Nat.add_zero]

end Text.Utf8

namespace DecodeError
open Text.Utf8

theorem message_invalidUtf8 (f : Failure) :
    (invalidUtf8 f).message =
      "hook input is not valid UTF-8: " ++ (f.fault.phrase ++ (" from index " ++ toString f.index)) :=
  congrArg ("hook input is not valid UTF-8: " ++ ·) f.message_eq

theorem incomplete_isInfix_iff (f : Failure) :
    "incomplete utf-8 byte sequence".toList <:+: (invalidUtf8 f).message.toList ↔ f.fault = .incomplete := by
  rw [message_invalidUtf8]
  cases f.fault with
  | incomplete =>
    have hinside (a b c : String) : b.toList <:+: (a ++ (b ++ c)).toList :=
      ⟨a.toList, c.toList, by simp only [String.toList_append, List.append_assoc]⟩
    exact iff_of_true (hinside _ _ _) rfl
  | invalid n =>
    refine iff_of_false ?_ (fun h => by cases h)
    -- the words of this fault have one letter too few of a kind
    have hcount := count_words "hook input is not valid UTF-8: " "invalid utf-8 sequence of " " bytes" " from index " n
      f.index
    exact not_isInfix_of_count_lt (Nat.lt_of_le_of_lt (Nat.le_of_eq hcount) (by decide))

end DecodeError

namespace Payload
open Text.Utf8

theorem ofBytes_encode (text : String) : ofBytes (encode text.toList) = ofText text := by
  rw [ofBytes, decode_encode]
  simp only [String.ofList_toList]

theorem valid_iff {bytes : List UInt8} : Valid bytes ↔ ∃ text : String, encode text.toList = bytes := by
  refine ⟨fun h => ?_, fun h => ?_⟩
  · obtain ⟨cs, hcs⟩ := h
    exact ⟨String.ofList cs, by rw [String.toList_ofList, hcs]⟩
  · obtain ⟨text, h⟩ := h
    exact ⟨text.toList, h⟩

/-- What is written in UTF-8 is read as the one text whose encoding it is. All other bytes are refused: the refusal
names the end of their longest valid part, and calls them incomplete just when the rest is the beginning of a
character. An engine that fails closed blocks them and one that does not lets them pass, whatever text they could be
made into. -/
theorem ofBytes_exact (bytes : List UInt8) :
    (∀ text : String, encode text.toList = bytes →
      ofBytes bytes = ofText text ∧ ∀ other : String, encode other.toList = bytes → other = text) ∧
    ((¬ ∃ text : String, encode text.toList = bytes) →
      ∃ f what, ofBytes bytes = .error (.invalidUtf8 f) ∧ Refuses bytes f ∧
        (DecodeError.invalidUtf8 f).message =
          "hook input is not valid UTF-8: " ++ (what ++ (" from index " ++ toString f.index)) ∧
        ("incomplete utf-8 byte sequence".toList <:+: (DecodeError.invalidUtf8 f).message.toList ↔
          CutShort (bytes.drop f.index)) ∧
        ∀ e : Engine,
          (e.switches = { enabled := true, warnOnly := false, failClosed := true } →
            (e.decide (ofBytes bytes)).2 = .block "malformed-input"
              ("[convention-gate] unreadable hook input: " ++ (DecodeError.invalidUtf8 f).message)) ∧
          (e.switches.failClosed = false → (e.decide (ofBytes bytes)).2 = .allow)) := by
  refine ⟨fun text h => ⟨?_, fun other ho => ?_⟩, fun h => ?_⟩
  · rw [← h, ofBytes_encode]
  · exact String.toList_injective (encode_inj (ho.trans h.symm))
  · rw [← valid_iff] at h
    obtain ⟨f, hd, hf⟩ := exists_refuses h
    have hbytes : ofBytes bytes = .error (.invalidUtf8 f) := by rw [ofBytes, hd]
    refine ⟨f, f.fault.phrase, hbytes, hf, DecodeError.message_invalidUtf8 f,
      (DecodeError.incomplete_isInfix_iff f).trans hf.incomplete_iff, fun e => ⟨fun hs => ?_, fun hs => ?_⟩⟩
    · rw [hbytes, Engine.decide_eq_block_iff, hs]
      exact ⟨rfl, rfl, .malformed rfl (by rw [hs])⟩
    · rw [hbytes, Engine.decide_eq_allow_iff]
      rintro ⟨_, _, _, ho⟩
      cases ho with
      | malformed _ hc => rw [hs] at hc; cases hc

/-- A payload that runs a command, of which not all bytes need be text. -/
def commandBytes (command : List UInt8) : List UInt8 :=
  encode "\x7b\"tool_name\":\"Bash\",\"tool_input\":\x7b\"command\":\"".toList ++ command ++
    encode "\"\x7d\x7d".toList

/-- With a replacement character in the place of the bad byte, either command would fare the other way. -/
theorem ofBytes_exact_replaced :
    let closed : Engine := { rules := .builtin, switches := { failClosed := true } }
    let opened : Engine := { rules := .builtin }
    let harmless := commandBytes (encode "ls ".toList ++ [0xFF])
    let forbidden := commandBytes (encode "sudo ".toList ++ [0xFF])
    (¬ ∃ text : String, encode text.toList = harmless) ∧ (¬ ∃ text : String, encode text.toList = forbidden) ∧
      (∃ reason, (closed.decide (ofBytes harmless)).2 = .block "malformed-input" reason) ∧
      (closed.decide (ofBytes (commandBytes (encode "ls \uFFFD".toList)))).2 = .allow ∧
      (opened.decide (ofBytes forbidden)).2 = .allow ∧
      (opened.decide (ofBytes (commandBytes (encode "sudo \uFFFD".toList)))).2 =
        .block "sudo" "[safety rule] sudo is forbidden" := by
  intro closed opened harmless forbidden
  have hbad {bytes : List UInt8} (h : (decode bytes).toBool = false) :
      ¬ ∃ text : String, encode text.toList = bytes := by
    rintro ⟨text, rfl⟩
    rw [decode_encode] at h
    cases h
  have hdecide : (decode harmless).toBool = false ∧ (decode forbidden).toBool = false ∧
      (closed.decide (ofBytes (commandBytes (encode "ls \uFFFD".toList)))).2 = .allow ∧
      (opened.decide (ofBytes (commandBytes (encode "sudo \uFFFD".toList)))).2 =
        .block "sudo" "[safety rule] sudo is forbidden" := by decide +kernel
  obtain ⟨hharmless, hforbidden, hallow, hblock⟩ := hdecide
  obtain ⟨_, _, _, _, _, _, hclosed⟩ := (ofBytes_exact harmless).2 (hbad hharmless)
  obtain ⟨_, _, _, _, _, _, hopened⟩ := (ofBytes_exact forbidden).2 (hbad hforbidden)
  exact ⟨hbad hharmless, hbad hforbidden, ⟨_, (hclosed closed).1 rfl⟩, hallow, (hopened opened).2 rfl, hblock⟩

end Payload

/-!
## Lenient reading

A text that is no payload can be reported or be taken for a request that asks for
nothing. Both ways the request is the same (`Engine.request_decide`), and the verdicts
part only where the gate is on and fails closed (`Engine.check_ofTextLenient_ne_iff`).
Blank text asks for nothing either way.
-/

theorem Request.ofTextLenient_of_ok {text : String} {p : Payload} (h : Payload.ofText text = .ok p) :
    ofTextLenient text = p.request := by
  simp only [ofTextLenient, ofText, h, Except.map]

theorem Request.ofTextLenient_of_error {text : String} {d : DecodeError} (h : Payload.ofText text = .error d) :
    ofTextLenient text = other "" := by
  simp only [ofTextLenient, ofText, h, Except.map]

theorem Payload.ofText_eq_empty_iff {text : String} : ofText text = .error .empty ↔ Blank text := by
  refine ⟨fun h => ?_, fun h => ofText_of_decodes (.empty h)⟩
  have hd := decodes_ofText text
  rw [h] at hd
  cases hd with
  | empty hb => exact hb

namespace Engine
variable (e : Engine) (text : String)

theorem request_decide : (e.decide (Payload.ofText text)).1 = Request.ofTextLenient text := by
  cases h : Payload.ofText text with
  | ok p => rw [Request.ofTextLenient_of_ok h]; rfl
  | error d => rw [Request.ofTextLenient_of_error h]; rfl

variable {e text}

theorem check_ofTextLenient_of_ok {p : Payload} (h : Payload.ofText text = .ok p) :
    e.check (Request.ofTextLenient text) = (e.decide (Payload.ofText text)).2 := by
  rw [Request.ofTextLenient_of_ok h, h]
  rfl

theorem check_ofTextLenient_of_error {d : DecodeError} (h : Payload.ofText text = .error d) :
    e.check (Request.ofTextLenient text) = .allow := by
  rw [Request.ofTextLenient_of_error h]
  exact e.switches.apply_allow

/-- The verdicts part on undecodable text to which the strict way objects. -/
theorem check_ofTextLenient_ne_iff :
    e.check (Request.ofTextLenient text) ≠ (e.decide (Payload.ofText text)).2 ↔
      e.switches.enabled = true ∧ e.switches.failClosed = true ∧ ¬ Payload.Blank text ∧
        ∃ d, Payload.ofText text = .error d := by
  cases h : Payload.ofText text with
  | ok p =>
    have hsame := check_ofTextLenient_of_ok (e := e) h
    rw [h] at hsame
    simp [hsame]
  | error d =>
    rw [check_ofTextLenient_of_error h, ne_comm, Ne, decide_eq_allow_iff, not_not, ← Payload.ofText_eq_empty_iff, h]
    by_cases hd : d = .empty
    · subst hd
      simp [not_objects_empty]
    · rw [objects_error_iff (DecodeError.isEmptyInput_eq_false_iff.2 hd)]
      simp [hd]

theorem decide_of_ne {d : DecodeError} (h : Payload.ofText text = .error d)
    (hne : e.check (Request.ofTextLenient text) ≠ (e.decide (Payload.ofText text)).2) :
    (e.decide (Payload.ofText text)).2 =
      let reason := "[convention-gate] unreadable hook input: " ++ d.message
      if e.switches.warnOnly then .warn malformedInput reason else .block malformedInput reason := by
  obtain ⟨he, hc, hb, -⟩ := check_ofTextLenient_ne_iff.1 hne
  rw [← Payload.ofText_eq_empty_iff, h, Except.error.injEq, ← Ne, ← DecodeError.isEmptyInput_eq_false_iff] at hb
  rw [h]
  have ho := Objects.malformed hb hc
  cases hw : e.switches.warnOnly with
  | true => exact decide_eq_warn_iff.2 ⟨he, hw, ho⟩
  | false => exact decide_eq_block_iff.2 ⟨he, hw, ho⟩

/-- A text is taken for the same request whether it is read leniently or strictly. An engine that does not fail
closed gives it the same verdict both ways, and the log the same entry but for the time. One that does fail closed
parts them just on text that is neither blank nor a payload, if it is on: read leniently such text is allowed, as all
that is no payload always is, and read strictly it is blocked as malformed, or warned of. -/
theorem check_ofTextLenient (e : Engine) (text : String) :
    let lenient := e.check (Request.ofTextLenient text)
    let strict := e.decide (Payload.ofBytes (Text.Utf8.encode text.toList))
    strict.1 = Request.ofTextLenient text ∧
    (e.switches.failClosed = false → lenient = strict.2 ∧ ∀ time time' sessionId disabled,
      { Audit.Entry.make time (Request.ofTextLenient text) lenient sessionId disabled with timestamp := time' } =
        Audit.Entry.make time' strict.1 strict.2 sessionId disabled) ∧
    (e.switches.failClosed = true →
      (lenient ≠ strict.2 ↔
        e.switches.enabled = true ∧ ¬ Payload.Blank text ∧ ∃ d, Payload.ofText text = .error d) ∧
      (lenient ≠ strict.2 → lenient = .allow ∧ ∃ reason,
        strict.2 = if e.switches.warnOnly then .warn "malformed-input" reason else .block "malformed-input" reason)) ∧
    ((∃ d, Payload.ofText text = .error d) → lenient = .allow) := by
  intro lenient strict
  have hstrict : strict = e.decide (Payload.ofText text) := by rw [← Payload.ofBytes_encode]
  have hne := @check_ofTextLenient_ne_iff e text
  rw [← hstrict] at hne
  have hrequest : strict.1 = Request.ofTextLenient text := by rw [hstrict, request_decide]
  refine ⟨hrequest, fun hc => ?lax, fun hc => ⟨?_, fun hd => ?closed⟩, fun ⟨d, hd⟩ => check_ofTextLenient_of_error hd⟩
  case lax =>
    have hsame : lenient = strict.2 := by
      by_contra hd
      obtain ⟨-, hc', -⟩ := hne.1 hd
      rw [hc] at hc'
      cases hc'
    refine ⟨hsame, fun time time' sessionId disabled => ?_⟩
    rw [hrequest, hsame]
    rfl
  · rw [hne, hc]
    simp only [true_and]
  case closed =>
    obtain ⟨-, -, -, d, herror⟩ := hne.1 hd
    rw [hstrict] at hd ⊢
    exact ⟨check_ofTextLenient_of_error herror, _, decide_of_ne herror hd⟩

/-- Of two texts that are no payloads a list is told apart, and a blank one is not. -/
theorem check_ofTextLenient_list :
    let e : Engine := { rules := .builtin, switches := { failClosed := true } }
    e.switches.failClosed = true ∧ e.check (Request.ofTextLenient "[1]") = .allow ∧
      (∃ reason, (e.decide (Payload.ofBytes (Text.Utf8.encode "[1]".toList))).2 = .block "malformed-input" reason) ∧
      e.check (Request.ofTextLenient " \n") = (e.decide (Payload.ofBytes (Text.Utf8.encode " \n".toList))).2 := by
  intro e
  obtain ⟨-, -, hlist, -⟩ := check_ofTextLenient e "[1]"
  obtain ⟨-, -, hblank, -⟩ := check_ofTextLenient e " \n"
  have herror : ∃ d, Payload.ofText "[1]" = .error d := ⟨.notAnObject .array, by decide +kernel⟩
  have hnot : ¬ Payload.Blank "[1]" := by
    rw [← Payload.isBlankText_iff]
    decide
  obtain ⟨hallow, reason, hblock⟩ := (hlist rfl).2 ((hlist rfl).1.2 ⟨rfl, hnot, herror⟩)
  refine ⟨rfl, hallow, ⟨reason, hblock⟩, ?_⟩
  by_contra hne
  have hb : Payload.Blank " \n" := Payload.isBlankText_iff.1 (by decide)
  exact ((hblank rfl).1.1 hne).2.1 hb

end Engine

end HookGate
