import HookGate.Json
import HookGate.Proofs.Except

/-!
# What the JSON reader takes

Whatever is read leaves an end of the text that it was read from, and a value, an
array's items or an object's members leave a shorter one (`reads_less`). The fuel
that a string and a value start with is therefore enough (`fuel_enough`), and what a
text is read as does not depend on it (`Value.read_eq_ok_iff`).
-/

namespace HookGate.Json.Reader

/-! ### Blanks, names and numbers -/

theorem dropBlanks_suffix (cs : List Char) : dropBlanks cs <:+ cs := List.dropWhile_suffix isBlank

theorem length_lt_of_dropBlanks {cs rest : List Char} {c : Char} (h : dropBlanks cs = c :: rest) :
    rest.length < cs.length := by
  have := (dropBlanks_suffix cs).length_le
  rw [h, List.length_cons] at this
  exact this

theorem dropWhile_isDigit_suffix (cs : List Char) : cs.dropWhile Char.isDigit <:+ cs :=
  List.dropWhile_suffix Char.isDigit

theorem ident_ok {v w : Value} {expected cs rest : List Char} (h : ident v expected cs = .ok (w, rest)) :
    w = v ∧ rest <:+ cs := by
  induction expected generalizing cs with
  | nil => cases h; exact ⟨rfl, List.suffix_refl _⟩
  | cons e expected ih =>
    cases cs with
    | nil => cases h
    | cons c cs =>
      rw [ident] at h
      obtain ⟨-, h⟩ := ok_of_pos h
      exact ⟨(ih h).1, (ih h).2.trans (List.suffix_cons c cs)⟩

theorem digits_suffix (significand taken : Nat) (cs : List Char) : (digits significand taken cs).2.2 <:+ cs := by
  induction cs generalizing significand taken with
  | nil => exact List.suffix_refl _
  | cons c cs ih =>
    rw [digits]
    by_cases h : c.isDigit ∧ significand * 10 + digitValue c ≤ significandMax
    · rw [if_pos h]
      exact (ih _ _).trans (List.suffix_cons c cs)
    · simpa only [if_neg h] using List.suffix_refl (c :: cs)

theorem finish_ok {significand : Nat} {exponent : Int} {cs rest : List Char}
    (h : finish significand exponent cs = .ok rest) : rest <:+ cs := by
  unfold finish at h
  obtain ⟨-, h⟩ := ok_of_not h
  cases h
  exact List.suffix_refl _

theorem exponentDigits_ok {significand value : Nat} {base : Int} {negative : Bool} {cs rest : List Char}
    (h : exponentDigits significand base negative value cs = .ok rest) : rest <:+ cs := by
  induction cs generalizing value with
  | nil => rw [exponentDigits] at h; exact finish_ok h
  | cons c cs ih =>
    rw [exponentDigits] at h
    by_cases hc : c.isDigit = true
    · rw [if_pos hc] at h
      by_cases hv : value * 10 + digitValue c < exponentBound
      · rw [if_pos hv] at h
        exact (ih h).trans (List.suffix_cons c cs)
      · rw [if_neg hv] at h
        obtain ⟨-, h⟩ := ok_of_not h
        cases h
        exact (dropWhile_isDigit_suffix cs).trans (List.suffix_cons c cs)
    · rw [if_neg hc] at h
      exact finish_ok h

theorem exponent_ok {significand : Nat} {base : Int} {cs rest : List Char}
    (h : exponent significand base cs = .ok rest) : rest <:+ cs := by
  have hdigits {negative : Bool} {c : Char} {ds : List Char}
      (h : (if c.isDigit then exponentDigits significand base negative (digitValue c) ds
        else stopPast .number (c :: ds)) = .ok rest) : rest <:+ c :: ds := by
    obtain ⟨-, h⟩ := ok_of_pos h
    exact (exponentDigits_ok h).trans (List.suffix_cons c ds)
  unfold exponent at h
  split at h
  rename_i negative ds hsign
  have hds : ds <:+ cs := by
    split at hsign
    · cases hsign; exact List.suffix_cons _ _
    · cases hsign; exact List.suffix_cons _ _
    · cases hsign; exact List.suffix_refl _
  refine List.IsSuffix.trans ?_ hds
  cases ds with
  | nil => cases h
  | cons c ds => exact hdigits h

theorem maybeExponent_ok {significand : Nat} {base : Int} {cs rest : List Char}
    (h : maybeExponent significand base cs = .ok rest) : rest <:+ cs := by
  unfold maybeExponent at h
  split at h
  · exact (exponent_ok h).trans (List.suffix_cons _ _)
  · exact (exponent_ok h).trans (List.suffix_cons _ _)
  · exact finish_ok h

theorem fraction_ok {significand : Nat} {base : Int} {cs rest : List Char}
    (h : fraction significand base cs = .ok rest) : rest <:+ cs := by
  have hdigits := digits_suffix significand 0 cs
  unfold fraction at h
  simp only at h
  cases hr : (digits significand 0 cs).2.2 with
  | nil =>
    simp only [hr] at h
    obtain ⟨ht, h⟩ := ok_of_not h
    exact (finish_ok h).trans List.nil_suffix
  | cons c ds =>
    rw [hr] at hdigits
    refine List.IsSuffix.trans ?_ hdigits
    simp only [hr] at h
    by_cases hc : c.isDigit = true
    · rw [if_pos hc] at h
      exact (maybeExponent_ok h).trans (dropWhile_isDigit_suffix _)
    · rw [if_neg hc] at h
      obtain ⟨-, h⟩ := ok_of_not h
      exact maybeExponent_ok h

theorem afterInteger_ok {significand dropped : Nat} {cs rest : List Char}
    (h : afterInteger significand dropped cs = .ok rest) : rest <:+ cs := by
  unfold afterInteger at h
  split at h
  · exact (fraction_ok h).trans (List.suffix_cons _ _)
  · exact maybeExponent_ok h

theorem number_ok {c : Char} {cs rest : List Char} (h : number (c :: cs) = .ok rest) : rest <:+ cs := by
  unfold number at h
  simp only at h
  by_cases hz : c = '0'
  · rw [if_pos hz] at h
    cases cs with
    | nil => exact afterInteger_ok h
    | cons d ds =>
      by_cases hd : d.isDigit = true
      · simp only [hd, if_true] at h; cases h
      · simp only [hd] at h
        exact afterInteger_ok h
  · rw [if_neg hz] at h
    obtain ⟨-, h⟩ := ok_of_pos h
    exact (afterInteger_ok h).trans ((dropWhile_isDigit_suffix _).trans (digits_suffix _ _ cs))

theorem numberValue_ok {c : Char} {cs after rest : List Char} {v : Value}
    (h : numberValue cs (c :: after) = .ok (v, rest)) : v.kind = .number ∧ rest <:+ after := by
  obtain ⟨left, hn, h⟩ := bind_eq_ok_iff.1 h
  cases h
  exact ⟨rfl, number_ok hn⟩

/-! ### Strings -/

theorem hex4_ok {cs rest : List Char} {n : Nat} (h : hex4 cs = .ok (n, rest)) : rest <:+ cs := by
  unfold hex4 at h
  split at h
  · cases h; exact List.drop_suffix 4 _
  · split at h
    · cases h
    · cases h

theorem pairMark_ok {c : Char} {cs rest : List Char} (h : pairMark c cs = .ok rest) : rest <:+ cs := by
  cases cs with
  | nil => cases h
  | cons d cs =>
    rw [pairMark] at h
    obtain ⟨-, h⟩ := ok_of_pos h
    cases h
    exact List.suffix_cons _ _

theorem hexEscape_ok {cs rest : List Char} {c : Char} (h : hexEscape cs = .ok (c, rest)) : rest <:+ cs := by
  obtain ⟨⟨n, r₁⟩, h₁, h⟩ := bind_eq_ok_iff.1 h
  obtain ⟨-, h⟩ := ok_of_not h
  refine List.IsSuffix.trans ?_ (hex4_ok h₁)
  by_cases hunit : n < 0xD800 ∨ 0xDBFF < n
  · rw [if_pos hunit] at h
    cases h
    exact List.suffix_refl _
  rw [if_neg hunit] at h
  obtain ⟨r₂, h₂, h⟩ := bind_eq_ok_iff.1 h
  obtain ⟨r₃, h₃, h⟩ := bind_eq_ok_iff.1 h
  obtain ⟨⟨m, r₄⟩, h₄, h⟩ := bind_eq_ok_iff.1 h
  obtain ⟨-, h⟩ := ok_of_pos h
  obtain rfl := (Prod.mk.inj (Except.ok.inj h)).2
  exact (hex4_ok h₄).trans ((pairMark_ok h₃).trans (pairMark_ok h₂))

theorem escape_ok {cs rest : List Char} {c : Char} (h : escape cs = .ok (c, rest)) :
    rest.length < cs.length := by
  cases cs with
  | nil => cases h
  | cons d cs =>
    by_cases hletter : d ∈ ['"', '\\', '/', 'b', 'f', 'n', 'r', 't']
    · have hrest : rest = cs := by
        simp only [List.mem_cons, List.not_mem_nil, or_false] at hletter
        rcases hletter with rfl | rfl | rfl | rfl | rfl | rfl | rfl | rfl <;>
          exact (Prod.mk.inj (Except.ok.inj h)).2.symm
      rw [hrest]
      exact Nat.lt_succ_self _
    by_cases hu : d = 'u'
    · subst hu
      exact Nat.lt_succ_of_le (hexEscape_ok h).length_le
    · simp only [List.mem_cons, List.not_mem_nil, or_false, not_or] at hletter
      simp [escape, hletter, stopPast] at h

theorem string_ok {before : List Char} {fuel : Nat} {cs rest : List Char} {s : String}
    (h : string before fuel cs = .ok (s, rest)) : rest.length < cs.length := by
  induction fuel generalizing before cs with
  | zero => cases cs <;> cases h
  | succ fuel ih =>
    cases cs with
    | nil => cases h
    | cons c cs =>
      rw [string] at h
      by_cases hq : c = '"'
      · rw [if_pos hq] at h
        cases h
        exact Nat.lt_succ_self _
      rw [if_neg hq] at h
      by_cases hb : c = '\\'
      · rw [if_pos hb] at h
        cases he : escape cs with
        | error e => rw [he] at h; cases h
        | ok r =>
          rw [he] at h
          exact Nat.lt_succ_of_lt (Nat.lt_trans (ih h) (escape_ok he))
      · rw [if_neg hb] at h
        obtain ⟨-, h⟩ := ok_of_not h
        exact Nat.lt_succ_of_lt (ih h)

theorem string_congr (before : List Char) (f₁ f₂ : Nat) (cs : List Char) (h₁ : cs.length ≤ f₁)
    (h₂ : cs.length ≤ f₂) : string before f₁ cs = string before f₂ cs := by
  induction f₁ generalizing before f₂ cs with
  | zero =>
    obtain rfl := List.length_eq_zero_iff.1 (Nat.le_zero.1 h₁)
    cases f₂ <;> rfl
  | succ f₁ ih =>
    cases cs with
    | nil => cases f₂ <;> rfl
    | cons c cs =>
      obtain ⟨f₂, rfl⟩ := Nat.exists_eq_add_one_of_ne_zero (Nat.ne_zero_of_lt h₂)
      rw [List.length_cons] at h₁ h₂
      rw [string, string, ih (c :: before) f₂ cs (by omega) (by omega)]
      cases he : escape cs with
      | error e => rfl
      | ok r =>
        obtain ⟨d, rest⟩ := r
        have hrest := escape_ok he
        simp only [ih (d :: before) f₂ rest (by omega) (by omega)]

/-! ### Values, items and members -/

/-- A value that is no array and no object. -/
def scalar (c : Char) (rest : List Char) : Result Value :=
  if c = 'n' then ident .null ['u', 'l', 'l'] rest
  else if c = 't' then ident (.bool true) ['r', 'u', 'e'] rest
  else if c = 'f' then ident (.bool false) ['a', 'l', 's', 'e'] rest
  else if c = '-' then numberValue (c :: rest) rest
  else if c.isDigit then numberValue (c :: rest) (c :: rest)
  else if c = '"' then (string [] rest.length rest).map fun (s, rest) => (.string s, rest)
  else stopPast .noValue (c :: rest)

theorem value_eq (depth fuel : Nat) (cs : List Char) :
    value depth (fuel + 1) cs =
      match dropBlanks cs with
      | [] => stopAt .endOfValue []
      | c :: rest =>
        if c = '[' then
          if depth ≤ 1 then stopPast .tooDeep (c :: rest)
          else (items (depth - 1) [] fuel rest).map fun (vs, rest) => (.array vs, rest)
        else if c = '{' then
          if depth ≤ 1 then stopPast .tooDeep (c :: rest)
          else (members (depth - 1) [] fuel rest).map fun (ms, rest) => (.object ms, rest)
        else scalar c rest := by
  rw [value]
  cases dropBlanks cs with
  | nil => rfl
  | cons c rest =>
    by_cases ha : c = '['
    · subst ha; rfl
    by_cases ho : c = '{'
    · subst ho; rfl
    · simp only [ha, ho, if_false, scalar]

def itemStart (before : List Value) (c : Char) (rest : List Char) : Except Stop (List Char) :=
  if before.isEmpty then .ok (c :: rest)
  else if c = ',' then
    match dropBlanks rest with
    | [] => stopAt .endOfValue []
    | d :: more => if d = ']' then stopPast .trailingComma (d :: more) else .ok (d :: more)
  else stopPast .noListEnd (c :: rest)

theorem items_eq (depth : Nat) (before : List Value) (fuel : Nat) (cs : List Char) :
    items depth before (fuel + 1) cs =
      (match dropBlanks cs with
      | [] => stopAt .endOfList []
      | c :: rest =>
        if c = ']' then .ok (before.reverse, rest)
        else itemStart before c rest >>= fun start =>
          value depth fuel start >>= fun r =>
          items depth (r.1 :: before) fuel r.2 : Except Stop (List Value × List Char)) := by
  rw [items]
  cases dropBlanks cs with
  | nil => rfl
  | cons c rest =>
    by_cases hc : c = ']'
    · simp only [hc, if_true]
    simp only [hc, if_false]
    -- `items` finds the start of the item in place, where the equation names it
    cases hs : itemStart before c rest with
    | error e =>
      unfold itemStart at hs
      erw [hs]
      rfl
    | ok start =>
      unfold itemStart at hs
      erw [hs]
      simp only [bind, Except.bind]
      cases value depth fuel start <;> rfl

def nameStart (before : List (String × Value)) (c : Char) (rest : List Char) : Except Stop (List Char) :=
  if before.isEmpty then
    if c = '"' then .ok rest else stopPast .keyNotString (c :: rest)
  else if c = ',' then
    match dropBlanks rest with
    | [] => stopAt .endOfValue []
    | d :: more =>
      if d = '"' then .ok more
      else if d = '}' then stopPast .trailingComma (d :: more)
      else stopPast .keyNotString (d :: more)
  else stopPast .noObjectEnd (c :: rest)

def afterColon (cs : List Char) : Except Stop (List Char) :=
  match dropBlanks cs with
  | [] => stopAt .endOfObject []
  | c :: rest => if c = ':' then .ok rest else stopPast .noColon (c :: rest)

theorem members_eq (depth : Nat) (before : List (String × Value)) (fuel : Nat) (cs : List Char) :
    members depth before (fuel + 1) cs =
      (match dropBlanks cs with
      | [] => stopAt .endOfObject []
      | c :: rest =>
        if c = '}' then .ok (before.reverse, rest)
        else nameStart before c rest >>= fun start =>
          string [] start.length start >>= fun n =>
          afterColon n.2 >>= fun after =>
          value depth fuel after >>= fun r =>
          members depth ((n.1, r.1) :: before) fuel r.2 : Except Stop (List (String × Value) × List Char)) := by
  rw [members]
  cases dropBlanks cs with
  | nil => rfl
  | cons c rest =>
    by_cases hc : c = '}'
    · simp only [hc, if_true]
    simp only [hc, if_false]
    cases hs : nameStart before c rest with
    | error e =>
      unfold nameStart at hs
      erw [hs]
      rfl
    | ok start =>
      unfold nameStart at hs
      erw [hs]
      simp only [bind, Except.bind]
      cases string [] start.length start with
      | error e => rfl
      | ok r =>
        simp only [afterColon]
        cases dropBlanks r.2 with
        | nil => rfl
        | cons d more =>
          by_cases hd : d = ':'
          · simp only [hd, if_true]
            cases value depth fuel more <;> rfl
          · simp only [hd, if_false]
            rfl

theorem scalar_ok {c : Char} {cs rest : List Char} {v : Value} (h : scalar c cs = .ok (v, rest)) :
    v.kind ≠ .array ∧ v.kind ≠ .object ∧ rest.length ≤ cs.length := by
  unfold scalar at h
  by_cases hn : c = 'n'
  · rw [if_pos hn] at h
    obtain ⟨rfl, hrest⟩ := ident_ok h
    exact ⟨by decide, by decide, hrest.length_le⟩
  rw [if_neg hn] at h
  by_cases ht : c = 't'
  · rw [if_pos ht] at h
    obtain ⟨rfl, hrest⟩ := ident_ok h
    exact ⟨by decide, by decide, hrest.length_le⟩
  rw [if_neg ht] at h
  by_cases hf : c = 'f'
  · rw [if_pos hf] at h
    obtain ⟨rfl, hrest⟩ := ident_ok h
    exact ⟨by decide, by decide, hrest.length_le⟩
  rw [if_neg hf] at h
  -- the sign is part of the spelling, but the digits are read after it
  by_cases hm : c = '-'
  · rw [if_pos hm] at h
    cases cs with
    | nil => cases h
    | cons d ds =>
      obtain ⟨hv, hrest⟩ := numberValue_ok h
      exact ⟨by simp [hv], by simp [hv], Nat.le_succ_of_le hrest.length_le⟩
  rw [if_neg hm] at h
  by_cases hd : c.isDigit = true
  · rw [if_pos hd] at h
    obtain ⟨hv, hrest⟩ := numberValue_ok h
    exact ⟨by simp [hv], by simp [hv], hrest.length_le⟩
  rw [if_neg hd] at h
  obtain ⟨-, h⟩ := ok_of_pos h
  obtain ⟨⟨s, left⟩, hs, h⟩ := map_eq_ok_iff.1 h
  cases h
  exact ⟨by simp [Value.kind], by simp [Value.kind], Nat.le_of_lt (string_ok hs)⟩

theorem itemStart_ok {before : List Value} {c : Char} {rest start : List Char}
    (h : itemStart before c rest = .ok start) : start.length ≤ rest.length + 1 := by
  unfold itemStart at h
  by_cases hb : before.isEmpty = true
  · rw [if_pos hb] at h
    cases h
    exact Nat.le_refl _
  rw [if_neg hb] at h
  obtain ⟨-, h⟩ := ok_of_pos h
  cases hd : dropBlanks rest with
  | nil => rw [hd] at h; cases h
  | cons d more =>
    have hmore := length_lt_of_dropBlanks hd
    simp only [hd] at h
    obtain ⟨-, h⟩ := ok_of_not h
    cases h
    rw [List.length_cons]; omega

theorem nameStart_ok {before : List (String × Value)} {c : Char} {rest start : List Char}
    (h : nameStart before c rest = .ok start) : start.length ≤ rest.length := by
  unfold nameStart at h
  by_cases hb : before.isEmpty = true
  · rw [if_pos hb] at h
    obtain ⟨-, h⟩ := ok_of_pos h
    cases h
    exact Nat.le_refl _
  rw [if_neg hb] at h
  obtain ⟨-, h⟩ := ok_of_pos h
  cases hd : dropBlanks rest with
  | nil => rw [hd] at h; cases h
  | cons d more =>
    have hmore := length_lt_of_dropBlanks hd
    simp only [hd] at h
    by_cases hq : d = '"'
    · rw [if_pos hq] at h
      cases h
      exact Nat.le_of_lt hmore
    · rw [if_neg hq] at h
      by_cases hend : d = '}'
      · rw [if_pos hend] at h; cases h
      · rw [if_neg hend] at h; cases h

theorem afterColon_ok {cs rest : List Char} (h : afterColon cs = .ok rest) : rest.length < cs.length := by
  unfold afterColon at h
  cases hd : dropBlanks cs with
  | nil => rw [hd] at h; cases h
  | cons c more =>
    simp only [hd] at h
    obtain ⟨-, h⟩ := ok_of_pos h
    cases h
    exact length_lt_of_dropBlanks hd

/-! What the three readers take, if they take anything. -/

theorem value_cases {depth fuel : Nat} {cs rest : List Char} {v : Value}
    (h : value depth (fuel + 1) cs = .ok (v, rest)) :
    v.kind ≠ .array ∧ v.kind ≠ .object ∧ rest.length < cs.length ∨
      1 < depth ∧ ∃ more, more.length < cs.length ∧
        ((∃ vs, v = .array vs ∧ items (depth - 1) [] fuel more = .ok (vs, rest)) ∨
          ∃ ms, v = .object ms ∧ members (depth - 1) [] fuel more = .ok (ms, rest)) := by
  rw [value_eq] at h
  cases hd : dropBlanks cs with
  | nil => rw [hd] at h; cases h
  | cons c more =>
    have hmore := length_lt_of_dropBlanks hd
    simp only [hd] at h
    by_cases ha : c = '['
    · rw [if_pos ha] at h
      obtain ⟨hdepth, h⟩ := ok_of_not h
      obtain ⟨⟨vs, left⟩, hi, h⟩ := map_eq_ok_iff.1 h
      cases h
      exact .inr ⟨Nat.lt_of_not_le hdepth, more, hmore, .inl ⟨vs, rfl, hi⟩⟩
    rw [if_neg ha] at h
    by_cases ho : c = '{'
    · rw [if_pos ho] at h
      obtain ⟨hdepth, h⟩ := ok_of_not h
      obtain ⟨⟨ms, left⟩, hm, h⟩ := map_eq_ok_iff.1 h
      cases h
      exact .inr ⟨Nat.lt_of_not_le hdepth, more, hmore, .inr ⟨ms, rfl, hm⟩⟩
    · rw [if_neg ho] at h
      obtain ⟨ha, ho, hrest⟩ := scalar_ok h
      exact .inl ⟨ha, ho, Nat.lt_of_le_of_lt hrest hmore⟩

theorem items_cases {depth fuel : Nat} {before vs : List Value} {cs rest : List Char}
    (h : items depth before (fuel + 1) cs = .ok (vs, rest)) :
    vs = before.reverse ∧ rest.length < cs.length ∨
      ∃ start v more, start.length ≤ cs.length ∧ value depth fuel start = .ok (v, more) ∧
        items depth (v :: before) fuel more = .ok (vs, rest) := by
  rw [items_eq] at h
  cases hd : dropBlanks cs with
  | nil => rw [hd] at h; cases h
  | cons c ds =>
    have hds := length_lt_of_dropBlanks hd
    simp only [hd] at h
    by_cases hc : c = ']'
    · rw [if_pos hc] at h
      cases h
      exact .inl ⟨rfl, hds⟩
    rw [if_neg hc] at h
    obtain ⟨start, hs, h⟩ := bind_eq_ok_iff.1 h
    obtain ⟨⟨v, more⟩, hv, h⟩ := bind_eq_ok_iff.1 h
    have hstart := itemStart_ok hs
    exact .inr ⟨start, v, more, by omega, hv, h⟩

theorem members_cases {depth fuel : Nat} {before ms : List (String × Value)} {cs rest : List Char}
    (h : members depth before (fuel + 1) cs = .ok (ms, rest)) :
    ms = before.reverse ∧ rest.length < cs.length ∨
      ∃ start name v more, start.length < cs.length ∧ value depth fuel start = .ok (v, more) ∧
        members depth ((name, v) :: before) fuel more = .ok (ms, rest) := by
  rw [members_eq] at h
  cases hd : dropBlanks cs with
  | nil => rw [hd] at h; cases h
  | cons c ds =>
    have hds := length_lt_of_dropBlanks hd
    simp only [hd] at h
    by_cases hc : c = '}'
    · rw [if_pos hc] at h
      cases h
      exact .inl ⟨rfl, hds⟩
    rw [if_neg hc] at h
    obtain ⟨start, hs, h⟩ := bind_eq_ok_iff.1 h
    obtain ⟨n, hn, h⟩ := bind_eq_ok_iff.1 h
    obtain ⟨after, ha, h⟩ := bind_eq_ok_iff.1 h
    obtain ⟨r, hv, h⟩ := bind_eq_ok_iff.1 h
    have hstart := nameStart_ok hs
    have hleft := string_ok hn
    have hafter := afterColon_ok ha
    exact .inr ⟨after, n.1, r.1, r.2, by omega, hv, h⟩

theorem reads_less (fuel : Nat) :
    (∀ depth cs v rest, value depth fuel cs = .ok (v, rest) → rest.length < cs.length) ∧
      (∀ depth before cs vs rest, items depth before fuel cs = .ok (vs, rest) → rest.length < cs.length) ∧
      ∀ depth before cs ms rest, members depth before fuel cs = .ok (ms, rest) → rest.length < cs.length := by
  -- all three at once, on the fuel that they hand to each other
  induction fuel with
  | zero =>
    refine ⟨fun _ _ _ _ h => ?_, fun _ _ _ _ _ h => ?_, fun _ _ _ _ _ h => ?_⟩
    · rw [value] at h; cases h
    · rw [items] at h; cases h
    · rw [members] at h; cases h
  | succ fuel ih =>
    obtain ⟨hvalue, hitems, hmembers⟩ := ih
    refine ⟨fun depth cs v rest h => ?value, fun depth before cs vs rest h => ?items,
      fun depth before cs ms rest h => ?members⟩
    case value =>
      rcases value_cases h with ⟨-, -, hlt⟩ | ⟨-, more, hlt, ⟨vs, -, h⟩ | ⟨ms, -, h⟩⟩
      · exact hlt
      · exact Nat.lt_trans (hitems _ _ _ _ _ h) hlt
      · exact Nat.lt_trans (hmembers _ _ _ _ _ h) hlt
    case items =>
      rcases items_cases h with ⟨-, hlt⟩ | ⟨start, v, more, hle, hv, h⟩
      · exact hlt
      · have := hvalue _ _ _ _ hv
        have := hitems _ _ _ _ _ h
        omega
    case members =>
      rcases members_cases h with ⟨-, hlt⟩ | ⟨start, name, v, more, hlt, hv, h⟩
      · exact hlt
      · have := hvalue _ _ _ _ hv
        have := hmembers _ _ _ _ _ h
        omega

/-- Twice as much fuel as characters is enough: more of it changes nothing. -/
theorem reader_congr (f₁ : Nat) : ∀ f₂,
    (∀ depth cs, 2 * cs.length + 1 ≤ f₁ → 2 * cs.length + 1 ≤ f₂ →
      value depth f₁ cs = value depth f₂ cs) ∧
      (∀ depth before cs, 2 * cs.length + 2 ≤ f₁ → 2 * cs.length + 2 ≤ f₂ →
        items depth before f₁ cs = items depth before f₂ cs) ∧
      ∀ depth before cs, 2 * cs.length + 2 ≤ f₁ → 2 * cs.length + 2 ≤ f₂ →
        members depth before f₁ cs = members depth before f₂ cs := by
  -- the items of an array may start with the value itself, so they need one unit more than it does
  induction f₁ with
  | zero => exact fun f₂ => ⟨fun _ _ h => by omega, fun _ _ _ h => by omega, fun _ _ _ h => by omega⟩
  | succ f₁ ih =>
    intro f₂
    cases f₂ with
    | zero => exact ⟨fun _ _ _ h => by omega, fun _ _ _ _ h => by omega, fun _ _ _ _ h => by omega⟩
    | succ f₂ =>
      obtain ⟨hvalue, hitems, hmembers⟩ := ih f₂
      refine ⟨fun depth cs h₁ h₂ => ?value, fun depth before cs h₁ h₂ => ?items,
        fun depth before cs h₁ h₂ => ?members⟩
      case value =>
        rw [value_eq, value_eq]
        cases hd : dropBlanks cs with
        | nil => rfl
        | cons c more =>
          have hmore := length_lt_of_dropBlanks hd
          simp only [hitems (depth - 1) [] more (by omega) (by omega),
            hmembers (depth - 1) [] more (by omega) (by omega)]
      case items =>
        rw [items_eq, items_eq]
        cases hd : dropBlanks cs with
        | nil => rfl
        | cons c more =>
          have hmore := length_lt_of_dropBlanks hd
          by_cases hc : c = ']'
          · simp only [hc, if_true]
          simp only [hc, if_false]
          refine bind_congr_of_ok fun start hs => ?_
          have hstart := itemStart_ok hs
          rw [hvalue depth start (by omega) (by omega)]
          refine bind_congr_of_ok fun r hv => ?_
          have hr := (reads_less f₂).1 _ _ r.1 r.2 hv
          exact hitems depth (r.1 :: before) r.2 (by omega) (by omega)
      case members =>
        rw [members_eq, members_eq]
        cases hd : dropBlanks cs with
        | nil => rfl
        | cons c more =>
          have hmore := length_lt_of_dropBlanks hd
          by_cases hc : c = '}'
          · simp only [hc, if_true]
          simp only [hc, if_false]
          refine bind_congr_of_ok fun start hs => bind_congr_of_ok fun n hn => bind_congr_of_ok fun after ha => ?_
          have hstart := nameStart_ok hs
          have hleft := string_ok hn
          have hafter := afterColon_ok ha
          rw [hvalue depth after (by omega) (by omega)]
          refine bind_congr_of_ok fun r hv => ?_
          have hr := (reads_less f₂).1 _ _ r.1 r.2 hv
          exact hmembers depth ((n.1, r.1) :: before) r.2 (by omega) (by omega)

/-- Every reader starts with as much fuel as it can use. -/
theorem fuel_enough (cs : List Char) :
    (∀ before fuel, cs.length ≤ fuel → string before fuel cs = string before cs.length cs) ∧
      ∀ depth fuel, 2 * cs.length + 2 ≤ fuel → value depth fuel cs = value depth (2 * cs.length + 2) cs :=
  ⟨fun before fuel h => string_congr before fuel cs.length cs h (Nat.le_refl _),
    fun depth fuel h => (reader_congr fuel _).1 depth cs (by omega) (by omega)⟩

end HookGate.Json.Reader

namespace HookGate.Json

/-- A text is read as a value exactly if the value, with any fuel from some amount on, is all that it
holds but blanks. -/
theorem Value.read_eq_ok_iff {text : String} {v : Value} :
    read text = .ok v ↔ ∃ enough, ∀ fuel, enough ≤ fuel → ∃ rest,
      Reader.value depthLimit fuel text.toList = .ok (v, rest) ∧ Reader.dropBlanks rest = [] := by
  have hstop : read text = .ok v ↔ readStop text.toList = .ok v := by
    unfold read
    cases readStop text.toList with
    | error e => simp
    | ok w => simp
  rw [hstop]
  refine ⟨fun h => ⟨2 * text.toList.length + 2, fun fuel hfuel => ?_⟩, fun ⟨enough, h⟩ => ?_⟩
  · obtain ⟨⟨w, rest⟩, hw, hend⟩ := bind_eq_ok_iff.1 h
    rw [← (Reader.fuel_enough text.toList).2 depthLimit fuel hfuel] at hw
    cases hd : Reader.dropBlanks rest with
    | nil => simp only [hd] at hend; cases hend; exact ⟨rest, hw, hd⟩
    | cons c more => simp only [hd] at hend; cases hend
  · obtain ⟨rest, hv, hd⟩ := h (2 * text.toList.length + 2 + enough) (Nat.le_add_left _ _)
    rw [(Reader.fuel_enough text.toList).2 depthLimit _ (Nat.le_add_right _ _)] at hv
    exact bind_eq_ok_iff.2 ⟨(v, rest), hv, by simp only [hd]; rfl⟩

end HookGate.Json

/-!
## How deep values nest

A value that is read has fewer than 128 arrays and objects around any of its parts
(`nests_read`); a text that opens more of them is refused.
-/

namespace HookGate.Json

/-- Arrays and objects nest no deeper than this. -/
inductive Nests : (depth : Nat) → Value → Prop
  | null {d : Nat} : Nests d .null
  | bool {d : Nat} (b : Bool) : Nests d (.bool b)
  | number {d : Nat} (spelling : String) : Nests d (.number spelling)
  | string {d : Nat} (s : String) : Nests d (.string s)
  | array {d : Nat} {vs : List Value} : (∀ v ∈ vs, Nests d v) → Nests (d + 1) (.array vs)
  | object {d : Nat} {ms : List (String × Value)} : (∀ m ∈ ms, Nests d m.2) → Nests (d + 1) (.object ms)

theorem Nests.of_kind {d : Nat} {v : Value} (ha : v.kind ≠ .array) (ho : v.kind ≠ .object) : Nests d v := by
  cases v with
  | null => exact .null
  | bool b => exact .bool b
  | number spelling => exact .number spelling
  | string s => exact .string s
  | array vs => exact absurd rfl ha
  | object ms => exact absurd rfl ho

open Reader in
theorem nests_reader (fuel : Nat) :
    (∀ depth cs v rest, value depth fuel cs = .ok (v, rest) → Nests (depth - 1) v) ∧
      (∀ depth before cs vs rest, items depth before fuel cs = .ok (vs, rest) →
        (∀ v ∈ before, Nests (depth - 1) v) → ∀ v ∈ vs, Nests (depth - 1) v) ∧
      ∀ depth before cs ms rest, members depth before fuel cs = .ok (ms, rest) →
        (∀ m ∈ before, Nests (depth - 1) m.2) → ∀ m ∈ ms, Nests (depth - 1) m.2 := by
  induction fuel with
  | zero =>
    refine ⟨fun _ _ _ _ h => ?_, fun _ _ _ _ _ h => ?_, fun _ _ _ _ _ h => ?_⟩
    · rw [value] at h; cases h
    · rw [items] at h; cases h
    · rw [members] at h; cases h
  | succ fuel ih =>
    obtain ⟨hvalue, hitems, hmembers⟩ := ih
    refine ⟨fun depth cs v rest h => ?value, fun depth before cs vs rest h hb => ?items,
      fun depth before cs ms rest h hb => ?members⟩
    case value =>
      rcases value_cases h with ⟨ha, ho, -⟩ | ⟨hdepth, more, -, hopen⟩
      · exact .of_kind ha ho
      have hpred : depth - 1 - 1 + 1 = depth - 1 := by omega
      rw [← hpred]
      rcases hopen with ⟨vs, rfl, hi⟩ | ⟨ms, rfl, hm⟩
      · exact .array (hitems _ _ _ _ _ hi fun _ hv => absurd hv List.not_mem_nil)
      · exact .object (hmembers _ _ _ _ _ hm fun _ hm => absurd hm List.not_mem_nil)
    case items =>
      rcases items_cases h with ⟨rfl, -⟩ | ⟨start, v, more, -, hv, h⟩
      · simpa using hb
      · exact hitems _ _ _ _ _ h (List.forall_mem_cons.2 ⟨hvalue _ _ _ _ hv, hb⟩)
    case members =>
      rcases members_cases h with ⟨rfl, -⟩ | ⟨start, name, v, more, -, hv, h⟩
      · exact fun m hm => hb m (List.mem_reverse.1 hm)
      · exact hmembers _ _ _ _ _ h (List.forall_mem_cons.2 ⟨hvalue _ _ _ _ hv, hb⟩)

theorem nests_read {text : String} {v : Value} (h : Value.read text = .ok v) : Nests (depthLimit - 1) v := by
  obtain ⟨enough, h⟩ := Value.read_eq_ok_iff.1 h
  obtain ⟨rest, hv, -⟩ := h enough (Nat.le_refl _)
  exact (nests_reader enough).1 _ _ _ _ hv

end HookGate.Json
