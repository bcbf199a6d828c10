/-!
# UTF-8

`decode` reads bytes as characters and refuses everything that is not the
encoding of some text. A refusal names the byte where the valid part ends and
says whether the rest was cut short or cannot start any character. A character
is always shorter than the bytes it is read from (`length_next`).
-/

namespace HookGate.Text.Utf8

/-- The bounds of each byte that a lead byte still owes, in order; `none` for a
byte that starts no character. The first bound rules out overlong forms,
surrogates and values above U+10FFFF. -/
def owed (lead : Nat) : Option (List (Nat × Nat)) :=
  if lead < 0x80 then some []
  else if lead < 0xC2 then none
  else if lead < 0xE0 then some [(0x80, 0xBF)]
  else if lead = 0xE0 then some [(0xA0, 0xBF), (0x80, 0xBF)]
  else if lead = 0xED then some [(0x80, 0x9F), (0x80, 0xBF)]
  else if lead < 0xF0 then some [(0x80, 0xBF), (0x80, 0xBF)]
  else if lead = 0xF0 then some [(0x90, 0xBF), (0x80, 0xBF), (0x80, 0xBF)]
  else if lead < 0xF4 then some [(0x80, 0xBF), (0x80, 0xBF), (0x80, 0xBF)]
  else if lead = 0xF4 then some [(0x80, 0x8F), (0x80, 0xBF), (0x80, 0xBF)]
  else none

def leadBits (lead : Nat) : Nat :=
  if lead < 0x80 then lead
  else if lead < 0xE0 then lead - 0xC0
  else if lead < 0xF0 then lead - 0xE0
  else lead - 0xF0

inductive Fault where
  /-- The first `length` bytes can start no character. -/
  | invalid (length : Nat)
  /-- The bytes end inside a character. -/
  | incomplete
  deriving DecidableEq, Repr

structure Failure where
  index : Nat
  fault : Fault
  deriving DecidableEq, Repr

/-- Reads the bytes that are owed, six bits each, onto `bits`. `seen` counts the
bytes of the character that were read already. -/
def tail (seen bits : Nat) : List (Nat × Nat) → List UInt8 → Except Fault (Nat × List UInt8)
  | [], bytes => .ok (bits, bytes)
  | _ :: _, [] => .error .incomplete
  | (lo, hi) :: more, b :: bytes =>
    if lo ≤ b.toNat ∧ b.toNat ≤ hi then tail (seen + 1) (bits * 64 + (b.toNat - 0x80)) more bytes
    else .error (.invalid seen)

def next (lead : UInt8) (bytes : List UInt8) : Except Fault (Char × List UInt8) :=
  match owed lead.toNat with
  | none => .error (.invalid 1)
  | some bounds => (tail 1 (leadBits lead.toNat) bounds bytes).map fun (n, rest) => (Char.ofNat n, rest)

theorem length_tail {seen bits : Nat} {bounds : List (Nat × Nat)} {bytes rest : List UInt8} {n : Nat}
    (h : tail seen bits bounds bytes = .ok (n, rest)) : rest.length ≤ bytes.length := by
  induction bounds generalizing seen bits bytes with
  | nil => simp [tail] at h; simp [h]
  | cons b more ih =>
    cases bytes with
    | nil => simp [tail] at h
    | cons c bytes =>
      simp only [tail] at h
      split at h
      · have := ih h; simp; omega
      · simp at h

theorem length_next {lead : UInt8} {bytes rest : List UInt8} {c : Char}
    (h : next lead bytes = .ok (c, rest)) : rest.length < (lead :: bytes).length := by
  simp only [next] at h
  split at h
  · simp at h
  · rename_i bounds _
    cases ht : tail 1 (leadBits lead.toNat) bounds bytes with
    | error e => simp [ht, Except.map] at h
    | ok p =>
      obtain ⟨n, r⟩ := p
      simp [ht, Except.map] at h
      have := length_tail ht
      simp [← h.2]; omega

def decodeFrom : Nat → List Char → Nat → List UInt8 → Except Failure (List Char)
  | _, before, _, [] => .ok before.reverse
  | 0, _, index, _ :: _ => .error ⟨index, .incomplete⟩
  | fuel + 1, before, index, lead :: bytes =>
    match next lead bytes with
    | .error fault => .error ⟨index, fault⟩
    | .ok (c, rest) => decodeFrom fuel (c :: before) (index + c.utf8Size) rest

/-- The text whose encoding is `bytes`. A character takes at least one byte, so
the fuel does not run out. -/
def decode (bytes : List UInt8) : Except Failure (List Char) :=
  decodeFrom bytes.length [] 0 bytes

def encode (cs : List Char) : List UInt8 := cs.flatMap String.utf8EncodeChar

def Failure.message (e : Failure) : String :=
  match e.fault with
  | .invalid n => s!"invalid utf-8 sequence of {n} bytes from index {e.index}"
  | .incomplete => s!"incomplete utf-8 byte sequence from index {e.index}"

end HookGate.Text.Utf8

/-!
## Byte offsets

A text is cut at a byte. `charOffsets` says at which byte each character begins, and
`sliceTo?` refuses a byte inside a character. A character begins where those before it
end (`getElem?_charOffsets`), so no cut before a character is refused (`sliceTo?_of_getElem?`).
-/

namespace HookGate.Text

/-- The characters, the first of them at the byte `start`, each with the byte where it begins. -/
def offsetsFrom (start : String.Pos.Raw) : List Char → List (String.Pos.Raw × Char)
  | [] => []
  | c :: cs => (start, c) :: offsetsFrom (start + c) cs

def charOffsets (text : String) : List (String.Pos.Raw × Char) := offsetsFrom 0 text.toList

/-- What stands before a byte; `none` if that byte is inside a character or past the end. -/
def sliceTo? (text : String) (i : String.Pos.Raw) : Option String :=
  if h : i.IsValid text then some (text.sliceTo (text.pos i h)).copy else none

theorem sliceTo?_eq_some_iff {text kept : String} {i : String.Pos.Raw} :
    sliceTo? text i = some kept ↔ ∃ rest, text = kept ++ rest ∧ i = kept.rawEndPos := by
  refine ⟨fun h => ?_, fun ⟨rest, htext, hi⟩ => ?_⟩
  · by_cases hv : i.IsValid text
    · rw [sliceTo?, dif_pos hv, Option.some_inj, String.copy_sliceTo_eq_iff_exists_splits] at h
      obtain ⟨rest, hs⟩ := h
      exact ⟨rest, hs.eq_append, by simpa using hs.offset_eq_rawEndPos⟩
    · rw [sliceTo?, dif_neg hv] at h
      cases h
  · have hv : i.IsValid text := String.Pos.Raw.isValid_iff_exists_append.2 ⟨kept, rest, htext, hi⟩
    have hs : (text.pos i hv).Splits kept rest := ⟨htext, by simpa using hi⟩
    rw [sliceTo?, dif_pos hv, hs.copy_sliceTo_eq]

/-- After `n` characters the walk has gone as many bytes past `start` as these characters have. -/
theorem getElem?_offsetsFrom (start : String.Pos.Raw) (cs : List Char) (n : Nat) :
    (offsetsFrom start cs)[n]? = cs[n]?.map (start + String.ofList (cs.take n), ·) := by
  induction cs generalizing start n with
  | nil => simp [offsetsFrom]
  | cons c cs ih =>
    cases n with
    | zero => simp [offsetsFrom, String.Pos.Raw.ext_iff]
    | succ n =>
      have hstart : start + c + String.ofList (cs.take n) = start + String.ofList (c :: cs.take n) := by
        simp [String.Pos.Raw.ext_iff, String.ofList_cons, Nat.add_assoc]
      rw [offsetsFrom, List.getElem?_cons_succ, ih, hstart, List.getElem?_cons_succ, List.take_succ_cons]

theorem getElem?_charOffsets (text : String) (n : Nat) :
    (charOffsets text)[n]? = text.toList[n]?.map ((String.ofList (text.toList.take n)).rawEndPos, ·) := by
  have hstart (s : String) : (0 : String.Pos.Raw) + s = s.rawEndPos := by simp [String.Pos.Raw.ext_iff]
  rw [charOffsets, getElem?_offsetsFrom, hstart]

theorem getElem?_charOffsets_eq_none_iff {text : String} {n : Nat} :
    (charOffsets text)[n]? = none ↔ text.length ≤ n := by
  rw [getElem?_charOffsets, Option.map_eq_none_iff, List.getElem?_eq_none_iff, String.length_toList]

theorem sliceTo?_of_getElem? {text : String} {n : Nat} {i : String.Pos.Raw} {c : Char}
    (h : (charOffsets text)[n]? = some (i, c)) :
    sliceTo? text i = some (String.ofList (text.toList.take n)) := by
  rw [getElem?_charOffsets, Option.map_eq_some_iff] at h
  obtain ⟨_, -, h⟩ := h
  have hi : i = (String.ofList (text.toList.take n)).rawEndPos := (congrArg Prod.fst h).symm
  have htext : text = String.ofList (text.toList.take n) ++ String.ofList (text.toList.drop n) := by
    rw [← String.ofList_append, List.take_append_drop, String.ofList_toList]
  exact sliceTo?_eq_some_iff.2 ⟨_, htext, hi⟩

theorem isValid_of_getElem? {text : String} {n : Nat} {i : String.Pos.Raw} {c : Char}
    (h : (charOffsets text)[n]? = some (i, c)) : i.IsValid text := by
  obtain ⟨rest, htext, hi⟩ := sliceTo?_eq_some_iff.1 (sliceTo?_of_getElem? h)
  exact String.Pos.Raw.isValid_iff_exists_append.2 ⟨_, rest, htext, hi⟩

end HookGate.Text
