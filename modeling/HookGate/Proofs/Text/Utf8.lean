import HookGate.Proofs.Except
import HookGate.Text.Utf8

/-!
# UTF-8

Decoding undoes encoding, and refuses all other bytes where their longest valid part
ends.
-/

/-!
## Decoding undoes encoding

The bytes of a character are read as that character whatever follows them
(`next_utf8EncodeChar`), and so the bytes of a text as that text (`decode_encode`).
-/

namespace HookGate.Text.Utf8

/-! ### One character -/

theorem tail_cons {seen bits n lo hi : Nat} {more : List (Nat × Nat)} {bytes : List UInt8} (hn : n < 256)
    (hlo : lo ≤ n) (hhi : n ≤ hi) :
    tail seen bits ((lo, hi) :: more) (UInt8.ofNat n :: bytes) =
      tail (seen + 1) (bits * 64 + (n - 0x80)) more bytes := by
  have hbyte : (UInt8.ofNat n).toNat = n := by simp; omega
  simp [tail, hbyte, hlo, hhi]

section
variable {n : Nat} (rest : List UInt8)

theorem next_one (h : n ≤ 0x7F) : next (UInt8.ofNat n) rest = .ok (Char.ofNat n, rest) := by
  have hlead : (UInt8.ofNat n).toNat = n := by simp; omega
  have howed : owed n = some [] := if_pos (by omega)
  have hbits : leadBits n = n := if_pos (by omega)
  simp [next, hlead, howed, hbits, tail, Except.map]

theorem next_two (hlo : 0x7F < n) (hhi : n ≤ 0x7FF) :
    next (UInt8.ofNat (n / 64 % 32 + 192)) (UInt8.ofNat (n % 64 + 128) :: rest) = .ok (Char.ofNat n, rest) := by
  have hlead : (UInt8.ofNat (n / 64 % 32 + 192)).toNat = n / 64 % 32 + 192 := by simp; omega
  have howed : owed (n / 64 % 32 + 192) = some [(0x80, 0xBF)] := by
    unfold owed; grind
  have hbits : leadBits (n / 64 % 32 + 192) = n / 64 := by
    unfold leadBits; grind
  have hchar : n / 64 * 64 + (n % 64 + 128 - 128) = n := by omega
  rw [next, hlead, howed]
  simp only
  rw [hbits, tail_cons (by omega) (by omega) (by omega), tail, hchar]
  rfl

/-- The second byte has bounds of its own, which leave out overlong forms and surrogates. -/
theorem next_three (hlo : 0x7FF < n) (hhi : n ≤ 0xFFFF) (hs : n < 0xD800 ∨ 0xDFFF < n) :
    next (UInt8.ofNat (n / 4096 % 16 + 224))
      (UInt8.ofNat (n / 64 % 64 + 128) :: UInt8.ofNat (n % 64 + 128) :: rest) = .ok (Char.ofNat n, rest) := by
  have hlead : (UInt8.ofNat (n / 4096 % 16 + 224)).toNat = n / 4096 % 16 + 224 := by simp; omega
  obtain ⟨lo, hi, howed, hsecond⟩ : ∃ lo hi, owed (n / 4096 % 16 + 224) = some [(lo, hi), (0x80, 0xBF)] ∧
      lo ≤ n / 64 % 64 + 128 ∧ n / 64 % 64 + 128 ≤ hi := by
    unfold owed; grind
  have hbits : leadBits (n / 4096 % 16 + 224) = n / 4096 := by
    unfold leadBits; grind
  have hchar : (n / 4096 * 64 + (n / 64 % 64 + 128 - 128)) * 64 + (n % 64 + 128 - 128) = n := by omega
  rw [next, hlead, howed]
  simp only
  rw [hbits, tail_cons (by omega) hsecond.1 hsecond.2, tail_cons (by omega) (by omega) (by omega), tail, hchar]
  rfl

theorem next_four (hlo : 0xFFFF < n) (hhi : n < 0x110000) :
    next (UInt8.ofNat (n / 262144 % 8 + 240))
      (UInt8.ofNat (n / 4096 % 64 + 128) :: UInt8.ofNat (n / 64 % 64 + 128) ::
        UInt8.ofNat (n % 64 + 128) :: rest) = .ok (Char.ofNat n, rest) := by
  have hlead : (UInt8.ofNat (n / 262144 % 8 + 240)).toNat = n / 262144 % 8 + 240 := by simp; omega
  obtain ⟨lo, hi, howed, hsecond⟩ : ∃ lo hi,
      owed (n / 262144 % 8 + 240) = some [(lo, hi), (0x80, 0xBF), (0x80, 0xBF)] ∧
      lo ≤ n / 4096 % 64 + 128 ∧ n / 4096 % 64 + 128 ≤ hi := by
    unfold owed; grind
  have hbits : leadBits (n / 262144 % 8 + 240) = n / 262144 := by
    unfold leadBits; grind
  have hchar : ((n / 262144 * 64 + (n / 4096 % 64 + 128 - 128)) * 64 + (n / 64 % 64 + 128 - 128)) * 64 +
      (n % 64 + 128 - 128) = n := by omega
  rw [next, hlead, howed]
  simp only
  rw [hbits, tail_cons (by omega) hsecond.1 hsecond.2, tail_cons (by omega) (by omega) (by omega),
    tail_cons (by omega) (by omega) (by omega), tail, hchar]
  rfl

end

theorem next_utf8EncodeChar (c : Char) :
    ∃ lead bytes, String.utf8EncodeChar c = lead :: bytes ∧
      ∀ rest, next lead (bytes ++ rest) = .ok (c, rest) := by
  have hvalid : c.toNat < 0xD800 ∨ (0xDFFF < c.toNat ∧ c.toNat < 0x110000) := c.valid
  have hc : Char.ofNat c.toNat = c := Char.ofNat_toNat c
  have hval : c.val.toNat = c.toNat := rfl
  unfold String.utf8EncodeChar
  dsimp only
  rw [hval]
  split
  · rename_i h
    exact ⟨_, _, rfl, fun rest => (next_one rest h).trans (by rw [hc])⟩
  rename_i h1
  split
  · rename_i h
    exact ⟨_, _, rfl, fun rest => (next_two rest (by omega) h).trans (by rw [hc])⟩
  rename_i h2
  split
  · rename_i h
    exact ⟨_, _, rfl, fun rest => (next_three rest (by omega) h (by omega)).trans (by rw [hc])⟩
  · exact ⟨_, _, rfl, fun rest => (next_four rest (by omega) (by omega)).trans (by rw [hc])⟩

/-- A character that is not below `k` has no byte below `k`, if `k` is ASCII. -/
theorem le_of_mem_utf8EncodeChar {k : Nat} {c : Char} {b : UInt8} (hb : b ∈ String.utf8EncodeChar c)
    (hc : k ≤ c.toNat) (hk : k ≤ 0x80) : k ≤ b.toNat := by
  have hval : c.val.toNat = c.toNat := rfl
  unfold String.utf8EncodeChar at hb
  dsimp only at hb
  rw [hval] at hb
  split at hb
  · obtain rfl := List.mem_singleton.1 hb
    simp; omega
  split at hb
  · simp only [List.mem_cons, List.not_mem_nil, or_false] at hb
    rcases hb with rfl | rfl <;> simp <;> omega
  split at hb
  · simp only [List.mem_cons, List.not_mem_nil, or_false] at hb
    rcases hb with rfl | rfl | rfl <;> simp <;> omega
  · simp only [List.mem_cons, List.not_mem_nil, or_false] at hb
    rcases hb with rfl | rfl | rfl | rfl <;> simp <;> omega

/-! ### Texts -/

theorem decodeFrom_encode (cs before : List Char) (fuel index : Nat) (hf : cs.length ≤ fuel) :
    decodeFrom fuel before index (encode cs) = .ok (before.reverse ++ cs) := by
  induction cs generalizing before fuel index with
  | nil => cases fuel <;> simp [encode, decodeFrom]
  | cons c cs ih =>
    obtain ⟨fuel, rfl⟩ := Nat.exists_eq_add_one_of_ne_zero (Nat.ne_zero_of_lt hf)
    obtain ⟨lead, bytes, hbytes, hnext⟩ := next_utf8EncodeChar c
    have hrest := ih (c :: before) fuel (index + c.utf8Size) (Nat.le_of_succ_le_succ hf)
    have hencode : encode (c :: cs) = lead :: (bytes ++ encode cs) := by
      simp [encode, hbytes]
    rw [hencode, decodeFrom, hnext]
    simpa using hrest

theorem length_le_encode (cs : List Char) : cs.length ≤ (encode cs).length := by
  induction cs with
  | nil => exact Nat.le_refl 0
  | cons c cs ih =>
    obtain ⟨lead, bytes, hbytes, -⟩ := next_utf8EncodeChar c
    simp only [encode, List.flatMap_cons, hbytes, List.length_append, List.length_cons] at ih ⊢
    omega

theorem decode_encode (cs : List Char) : decode (encode cs) = .ok cs :=
  decodeFrom_encode cs [] (encode cs).length 0 (length_le_encode cs)

/-!
## What decoding refuses

A character is read from its own bytes only (`encode_next`), so bytes that are read are
the encoding of the text that is read (`decode_eq_ok_iff`). Where no character can be
read the valid part ends: `refuses_of_decode` says that the refusal names the end of the
longest valid part, and that it calls the rest incomplete just when more bytes would
make it a character.
-/

def Valid (bytes : List UInt8) : Prop := ∃ cs, encode cs = bytes

/-- The first bytes of a character, but not all of them. -/
def CutShort (bytes : List UInt8) : Prop :=
  ∃ c, bytes <+: String.utf8EncodeChar c ∧ bytes ≠ String.utf8EncodeChar c

/-! ### Bytes that are owed -/

/-- The four lengths of a character, by its lead byte. -/
inductive Owes (lead : Nat) : List (Nat × Nat) → Prop
  | one : lead < 0x80 → Owes lead []
  | two : 0xC2 ≤ lead → lead < 0xE0 → Owes lead [(0x80, 0xBF)]
  | three {lo hi} : 0xE0 ≤ lead → lead < 0xF0 → 0x80 ≤ lo → lo ≤ hi → hi ≤ 0xBF → (lead = 0xE0 → 0xA0 ≤ lo) →
      (lead = 0xED → hi ≤ 0x9F) → Owes lead [(lo, hi), (0x80, 0xBF)]
  | four {lo hi} : 0xF0 ≤ lead → lead ≤ 0xF4 → 0x80 ≤ lo → lo ≤ hi → hi ≤ 0xBF → (lead = 0xF0 → 0x90 ≤ lo) →
      (lead = 0xF4 → hi ≤ 0x8F) → Owes lead [(lo, hi), (0x80, 0xBF), (0x80, 0xBF)]

theorem owes_of_owed {lead : Nat} {bounds : List (Nat × Nat)} (h : owed lead = some bounds) : Owes lead bounds := by
  unfold owed at h
  split at h
  · cases h; exact .one (by omega)
  split at h
  · cases h
  split at h
  · cases h; exact .two (by omega) (by omega)
  split at h
  · cases h; apply Owes.three <;> omega
  split at h
  · cases h; apply Owes.three <;> omega
  split at h
  · cases h; apply Owes.three <;> omega
  split at h
  · cases h; apply Owes.four <;> omega
  split at h
  · cases h; apply Owes.four <;> omega
  split at h
  · cases h; apply Owes.four <;> omega
  · cases h

theorem Owes.le_of_mem {lead : Nat} {bounds : List (Nat × Nat)} (h : Owes lead bounds) :
    ∀ p ∈ bounds, p.1 ≤ p.2 ∧ p.2 < 256 := by
  cases h with
  | one _ => simp
  | two _ _ => simp
  | three _ _ _ hle hhi _ _ => simp; omega
  | four _ _ _ hle hhi _ _ => simp; omega

section
variable {seen bits n : Nat} {bounds : List (Nat × Nat)} {bytes rest : List UInt8}

theorem tail_cons_eq_ok_iff {lo hi : Nat} :
    tail seen bits ((lo, hi) :: bounds) bytes = .ok (n, rest) ↔
      ∃ b more, bytes = b :: more ∧ lo ≤ b.toNat ∧ b.toNat ≤ hi ∧
        tail (seen + 1) (bits * 64 + (b.toNat - 0x80)) bounds more = .ok (n, rest) := by
  cases bytes with
  | nil => simp [tail]
  | cons b more =>
    by_cases hb : lo ≤ b.toNat ∧ b.toNat ≤ hi
    · simp [tail, hb]
    · simp only [tail, if_neg hb]
      grind

theorem exists_tail (hb : ∀ p ∈ bounds, p.1 ≤ p.2 ∧ p.2 < 256) (seen bits : Nat) :
    ∃ more n, more.length = bounds.length ∧ tail seen bits bounds more = .ok (n, []) := by
  induction bounds generalizing seen bits with
  | nil => exact ⟨[], bits, rfl, rfl⟩
  | cons p bounds ih =>
    obtain ⟨lo, hi⟩ := p
    obtain ⟨⟨hle, hlt⟩, hbounds⟩ := List.forall_mem_cons.1 hb
    have hlow : (UInt8.ofNat lo).toNat = lo := by simp; omega
    obtain ⟨more, n, hlen, htail⟩ := ih hbounds (seen + 1) (bits * 64 + (lo - 0x80))
    refine ⟨UInt8.ofNat lo :: more, n, by simp [hlen], tail_cons_eq_ok_iff.2 ⟨_, more, rfl, ?_⟩⟩
    rw [hlow]
    exact ⟨Nat.le_refl _, hle, htail⟩

theorem exists_tail_of_incomplete (hb : ∀ p ∈ bounds, p.1 ≤ p.2 ∧ p.2 < 256)
    (h : tail seen bits bounds bytes = .error .incomplete) :
    ∃ more n, more ≠ [] ∧ tail seen bits bounds (bytes ++ more) = .ok (n, []) := by
  induction bounds generalizing seen bits bytes with
  | nil => simp [tail] at h
  | cons p bounds ih =>
    obtain ⟨lo, hi⟩ := p
    cases bytes with
    | nil =>
      obtain ⟨more, n, hlen, htail⟩ := exists_tail hb seen bits
      exact ⟨more, n, List.ne_nil_of_length_pos (by simp [hlen]), htail⟩
    | cons b bytes =>
      simp only [tail] at h
      split at h
      case isTrue hin =>
        obtain ⟨more, n, hne, htail⟩ := ih (List.forall_mem_cons.1 hb).2 h
        exact ⟨more, n, hne, tail_cons_eq_ok_iff.2 ⟨b, bytes ++ more, rfl, hin.1, hin.2, htail⟩⟩
      case isFalse => cases h

theorem incomplete_of_tail_append {more : List UInt8} (hne : more ≠ [])
    (h : tail seen bits bounds (bytes ++ more) = .ok (n, [])) : tail seen bits bounds bytes = .error .incomplete := by
  induction bounds generalizing seen bits bytes with
  | nil =>
    simp only [tail, Except.ok.injEq, Prod.mk.injEq, List.append_eq_nil_iff] at h
    exact absurd h.2.2 hne
  | cons p bounds ih =>
    obtain ⟨lo, hi⟩ := p
    cases bytes with
    | nil => rfl
    | cons b bytes =>
      obtain ⟨_, _, hcons, hlo, hhi, htail⟩ := tail_cons_eq_ok_iff.1 h
      cases hcons
      rw [tail, if_pos ⟨hlo, hhi⟩]
      exact ih htail

end

/-! ### One character -/

theorem toNat_val_ofNat {n : Nat} (h : n < 0xD800 ∨ 0xDFFF < n ∧ n < 0x110000) : (Char.ofNat n).val.toNat = n := by
  have hv : n.isValidChar := h
  rw [Char.ofNat, dif_pos hv]
  rfl

theorem ofNat_eq_of_toNat {b : UInt8} {n : Nat} (h : n = b.toNat) : UInt8.ofNat n = b := by
  rw [h, UInt8.ofNat_toNat]

theorem next_eq_ok_iff {lead : UInt8} {bytes rest : List UInt8} {c : Char} :
    next lead bytes = .ok (c, rest) ↔ ∃ bounds n, owed lead.toNat = some bounds ∧
      tail 1 (leadBits lead.toNat) bounds bytes = .ok (n, rest) ∧ Char.ofNat n = c := by
  unfold next
  cases owed lead.toNat with
  | none => simp
  | some bounds => simp [map_eq_ok_iff]

theorem encode_next {lead : UInt8} {bytes rest : List UInt8} {c : Char} (h : next lead bytes = .ok (c, rest)) :
    String.utf8EncodeChar c ++ rest = lead :: bytes := by
  obtain ⟨bounds, n, howed, htail, rfl⟩ := next_eq_ok_iff.1 h
  unfold String.utf8EncodeChar
  -- the encoder asks for the size of the code point, the reader for the lead byte: the bounds make them agree
  cases owes_of_owed howed with
  | one hlead =>
    have hbits : leadBits lead.toNat = lead.toNat := if_pos hlead
    simp only [tail, hbits, Except.ok.injEq, Prod.mk.injEq] at htail
    obtain ⟨rfl, rfl⟩ := htail
    have hn := toNat_val_ofNat (n := lead.toNat) (by omega)
    dsimp only
    rw [hn, if_pos (by omega), ofNat_eq_of_toNat rfl, List.singleton_append]
  | two hlo hhi =>
    have hbits : leadBits lead.toNat = lead.toNat - 0xC0 := by
      unfold leadBits; grind
    rw [hbits] at htail
    obtain ⟨b, more, rfl, hb, hb', htail⟩ := tail_cons_eq_ok_iff.1 htail
    obtain ⟨hn, rfl⟩ : _ = n ∧ more = rest := by simpa [tail] using htail
    have hval := toNat_val_ofNat (n := n) (by omega)
    dsimp only
    rw [hval, if_neg (by omega), if_pos (by omega), ofNat_eq_of_toNat (b := lead) (by omega),
      ofNat_eq_of_toNat (b := b) (by omega), List.cons_append, List.singleton_append]
  | three hlo hhi hl hle hh hE0 hED =>
    have hbits : leadBits lead.toNat = lead.toNat - 0xE0 := by
      unfold leadBits; grind
    rw [hbits] at htail
    obtain ⟨b, more, rfl, hb, hb', htail⟩ := tail_cons_eq_ok_iff.1 htail
    obtain ⟨d, more, rfl, hd, hd', htail⟩ := tail_cons_eq_ok_iff.1 htail
    obtain ⟨hn, rfl⟩ : _ = n ∧ more = rest := by simpa [tail] using htail
    have hval := toNat_val_ofNat (n := n) (by omega)
    dsimp only
    rw [hval, if_neg (by omega), if_neg (by omega), if_pos (by omega), ofNat_eq_of_toNat (b := lead) (by omega),
      ofNat_eq_of_toNat (b := b) (by omega), ofNat_eq_of_toNat (b := d) (by omega)]
    rfl
  | four hlo hhi hl hle hh hF0 hF4 =>
    have hbits : leadBits lead.toNat = lead.toNat - 0xF0 := by
      unfold leadBits; grind
    rw [hbits] at htail
    obtain ⟨b, more, rfl, hb, hb', htail⟩ := tail_cons_eq_ok_iff.1 htail
    obtain ⟨d, more, rfl, hd, hd', htail⟩ := tail_cons_eq_ok_iff.1 htail
    obtain ⟨e, more, rfl, he, he', htail⟩ := tail_cons_eq_ok_iff.1 htail
    obtain ⟨hn, rfl⟩ : _ = n ∧ more = rest := by simpa [tail] using htail
    have hval := toNat_val_ofNat (n := n) (by omega)
    dsimp only
    rw [hval, if_neg (by omega), if_neg (by omega), if_neg (by omega), ofNat_eq_of_toNat (b := lead) (by omega),
      ofNat_eq_of_toNat (b := b) (by omega), ofNat_eq_of_toNat (b := d) (by omega),
      ofNat_eq_of_toNat (b := e) (by omega)]
    rfl

theorem encodeChar_isPrefix_iff {lead : UInt8} {bytes : List UInt8} {c : Char} :
    String.utf8EncodeChar c <+: lead :: bytes ↔ ∃ rest, next lead bytes = .ok (c, rest) := by
  refine ⟨fun h => ?_, fun h => ?_⟩
  · obtain ⟨rest, hrest⟩ := h
    obtain ⟨lead', bytes', hbytes, hnext⟩ := next_utf8EncodeChar c
    rw [hbytes, List.cons_append, List.cons.injEq] at hrest
    obtain ⟨rfl, rfl⟩ := hrest
    exact ⟨rest, hnext rest⟩
  · obtain ⟨rest, h⟩ := h
    exact ⟨rest, encode_next h⟩

theorem not_isPrefix_of_next_error {lead : UInt8} {bytes : List UInt8} {fault : Fault}
    (h : next lead bytes = .error fault) (c : Char) : ¬ String.utf8EncodeChar c <+: lead :: bytes := by
  rw [encodeChar_isPrefix_iff, h]
  rintro ⟨rest, hr⟩
  cases hr

theorem next_eq_incomplete_iff {lead : UInt8} {bytes : List UInt8} :
    next lead bytes = .error .incomplete ↔ CutShort (lead :: bytes) := by
  refine ⟨fun h => ?_, fun h => ?_⟩
  · cases howed : owed lead.toNat with
    | none => simp [next, howed] at h
    | some bounds =>
      simp only [next, howed, map_eq_error_iff] at h
      -- bytes within the bounds complete the character
      obtain ⟨more, n, hne, htail⟩ := exists_tail_of_incomplete (owes_of_owed howed).le_of_mem h
      have hc := encode_next (next_eq_ok_iff.2 ⟨bounds, n, howed, htail, rfl⟩)
      rw [List.append_nil] at hc
      refine ⟨Char.ofNat n, ⟨more, hc.symm⟩, fun heq => hne ?_⟩
      rw [hc, ← List.cons_append, List.self_eq_append_right] at heq
      exact heq
  · obtain ⟨c, ⟨more, hmore⟩, hne⟩ := h
    obtain ⟨lead', bytes', hbytes, hnext⟩ := next_utf8EncodeChar c
    have hread := hnext []
    rw [← hmore, List.cons_append, List.cons.injEq] at hbytes
    obtain ⟨rfl, rfl⟩ := hbytes
    rw [List.append_nil] at hread
    obtain ⟨bounds, n, howed, htail, -⟩ := next_eq_ok_iff.1 hread
    have hm : more ≠ [] := by
      rintro rfl
      exact hne (by rw [← hmore, List.append_nil])
    simp only [next, howed, incomplete_of_tail_append hm htail]
    rfl

/-! ### Texts -/

theorem encode_cons (c : Char) (cs : List Char) : encode (c :: cs) = String.utf8EncodeChar c ++ encode cs :=
  List.flatMap_cons

theorem encode_inj {cs ds : List Char} (h : encode cs = encode ds) : cs = ds := by
  have hread := decode_encode cs
  rw [h, decode_encode] at hread
  cases hread
  rfl

theorem decodeFrom_ok {fuel index : Nat} {before cs : List Char} {bytes : List UInt8}
    (h : decodeFrom fuel before index bytes = .ok cs) : ∃ ds, cs = before.reverse ++ ds ∧ encode ds = bytes := by
  induction fuel generalizing before index bytes with
  | zero =>
    cases bytes with
    | nil => cases h; exact ⟨[], by simp, rfl⟩
    | cons lead bytes => cases h
  | succ fuel ih =>
    cases bytes with
    | nil => cases h; exact ⟨[], by simp, rfl⟩
    | cons lead bytes =>
      rw [decodeFrom] at h
      cases hnext : next lead bytes with
      | error fault => rw [hnext] at h; cases h
      | ok r =>
        obtain ⟨c, rest⟩ := r
        rw [hnext] at h
        obtain ⟨ds, rfl, hds⟩ := ih h
        exact ⟨c :: ds, by simp, by rw [encode_cons, hds, encode_next hnext]⟩

theorem decodeFrom_error {fuel index : Nat} {before : List Char} {bytes : List UInt8} {f : Failure}
    (h : decodeFrom fuel before index bytes = .error f) (hf : bytes.length ≤ fuel) :
    ∃ cs lead rest, bytes = encode cs ++ lead :: rest ∧ f.index = index + (encode cs).length ∧
      next lead rest = .error f.fault := by
  -- what was read so far has the length by which `index` has grown
  induction fuel generalizing before index bytes with
  | zero =>
    cases bytes with
    | nil => cases h
    | cons lead bytes => simp at hf
  | succ fuel ih =>
    cases bytes with
    | nil => cases h
    | cons lead bytes =>
      rw [decodeFrom] at h
      cases hnext : next lead bytes with
      | error fault =>
        rw [hnext] at h
        cases h
        exact ⟨[], lead, bytes, rfl, rfl, hnext⟩
      | ok r =>
        obtain ⟨c, rest⟩ := r
        rw [hnext] at h
        have hlt := length_next hnext
        obtain ⟨cs, lead', rest', rfl, hindex, hfault⟩ := ih h (by omega)
        refine ⟨c :: cs, lead', rest', ?_, ?_, hfault⟩
        · rw [encode_cons, List.append_assoc, encode_next hnext]
        · rw [hindex, encode_cons, List.length_append, String.length_utf8EncodeChar, Nat.add_assoc]

theorem decode_eq_ok_iff {bytes : List UInt8} {cs : List Char} : decode bytes = .ok cs ↔ encode cs = bytes := by
  refine ⟨fun h => ?_, fun h => ?_⟩
  · obtain ⟨ds, rfl, hds⟩ := decodeFrom_ok h
    exact hds
  · rw [← h, decode_encode]

/-- A text whose bytes come first has no more of them than the text before a place where no character starts. -/
theorem length_le_of_isPrefix {cs ds : List Char} {lead : UInt8} {rest : List UInt8} {fault : Fault}
    (hf : next lead rest = .error fault) (h : encode ds <+: encode cs ++ lead :: rest) :
    (encode ds).length ≤ (encode cs).length := by
  induction ds generalizing cs with
  | nil => exact Nat.zero_le _
  | cons d ds ih =>
    rw [encode_cons] at h
    cases cs with
    | nil => exact absurd ((List.prefix_append _ _).trans h) (not_isPrefix_of_next_error hf d)
    | cons c cs =>
      rw [encode_cons, List.append_assoc] at h
      -- both texts start with the character that is read first
      obtain ⟨lead', bytes', hbytes, hnext⟩ := next_utf8EncodeChar c
      have hfirst := (List.prefix_append _ _).trans h
      rw [hbytes, List.cons_append, encodeChar_isPrefix_iff, hnext] at hfirst
      obtain ⟨rest', hd⟩ := hfirst
      cases hd
      have := ih ((List.prefix_append_right_inj _).1 h)
      simp only [encode_cons, List.length_append]
      omega

/-- Where the longest valid part ends, and why it goes no further. -/
structure Refuses (bytes : List UInt8) (f : Failure) : Prop where
  lt_length : f.index < bytes.length
  valid : Valid (bytes.take f.index)
  longest : ∀ n ≤ bytes.length, Valid (bytes.take n) → n ≤ f.index
  incomplete_iff : f.fault = .incomplete ↔ CutShort (bytes.drop f.index)

theorem refuses_of_decode {bytes : List UInt8} {f : Failure} (h : decode bytes = .error f) : Refuses bytes f := by
  obtain ⟨cs, lead, rest, rfl, hindex, hfault⟩ := decodeFrom_error h (Nat.le_refl _)
  rw [Nat.zero_add] at hindex
  refine ⟨?_, ⟨cs, ?_⟩, fun n hn hv => ?_, ?_⟩
  · simp [hindex]
  · rw [hindex, List.take_left]
  · obtain ⟨ds, hds⟩ := hv
    have hlen := congrArg List.length hds
    rw [List.length_take_of_le hn] at hlen
    rw [hindex, ← hlen]
    exact length_le_of_isPrefix hfault (hds ▸ List.take_prefix n _)
  · rw [hindex, List.drop_left, ← next_eq_incomplete_iff, hfault, Except.error.injEq]

theorem exists_refuses {bytes : List UInt8} (h : ¬ Valid bytes) : ∃ f, decode bytes = .error f ∧ Refuses bytes f := by
  cases hd : decode bytes with
  | ok cs => exact absurd ⟨cs, decode_eq_ok_iff.1 hd⟩ h
  | error f => exact ⟨f, rfl, refuses_of_decode hd⟩

end HookGate.Text.Utf8
