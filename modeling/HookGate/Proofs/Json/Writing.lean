import HookGate.Json

/-!
# Written JSON

Whatever characters a string holds, its written form holds none below U+0020, so an
object whose members are strings is written on one line (`printable_text`). What is
written is read again as the value it was written from (`read_text`).
-/

namespace HookGate.Json

/-- No character below U+0020, and so no line end. -/
def Printable (cs : List Char) : Prop := ∀ c ∈ cs, 0x20 ≤ c.toNat

theorem printable_nil : Printable [] := by
  intro c hc; cases hc

theorem printable_cons {c : Char} {cs : List Char} (hc : 0x20 ≤ c.toNat) (hcs : Printable cs) :
    Printable (c :: cs) := by
  intro d hd
  rcases List.mem_cons.1 hd with rfl | hd
  · exact hc
  · exact hcs d hd

theorem printable_append {cs ds : List Char} (hc : Printable cs) (hd : Printable ds) :
    Printable (cs ++ ds) := by
  intro c h
  rcases List.mem_append.1 h with h | h
  · exact hc c h
  · exact hd c h

theorem printable_of_all {cs : List Char} (h : cs.all (Nat.ble 0x20 ·.toNat) = true) : Printable cs := by
  intro c hc
  exact Nat.le_of_ble_eq_true (List.all_eq_true.1 h c hc)

theorem le_toNat_hexDigit {n : Nat} (h : n < 16) : 0x20 ≤ (hexDigit n).toNat := by
  revert n; decide

theorem printable_escapeChar (c : Char) : Printable (escapeChar c) := by
  unfold escapeChar
  split; · exact printable_of_all rfl
  split; · exact printable_of_all rfl
  split; · exact printable_of_all rfl
  split; · exact printable_of_all rfl
  split; · exact printable_of_all rfl
  split; · exact printable_of_all rfl
  split; · exact printable_of_all rfl
  split
  · rename_i h
    have hmark : Printable ['\\', 'u', '0', '0'] := printable_of_all rfl
    refine printable_append hmark (printable_cons ?_ (printable_cons ?_ printable_nil))
    · exact le_toNat_hexDigit (by omega)
    · exact le_toNat_hexDigit (by omega)
  · rename_i h
    exact printable_cons (Nat.le_of_not_lt h) printable_nil

theorem printable_quote (s : String) : Printable (quote s) := by
  have hbody : Printable (s.toList.flatMap escapeChar) := by
    intro c hc
    obtain ⟨d, _, hd⟩ := List.mem_flatMap.1 hc
    exact printable_escapeChar d c hd
  have hmark : 0x20 ≤ ('"' : Char).toNat := by decide
  exact printable_cons hmark (printable_append hbody (printable_cons hmark printable_nil))

def AllStrings (members : List (String × Value)) : Prop := ∀ m ∈ members, ∃ s, m.2 = .string s

theorem printable_memberChars (more : Bool) (members : List (String × Value)) (h : AllStrings members) :
    Printable (memberChars more members) := by
  induction members generalizing more with
  | nil => exact printable_of_all rfl
  | cons m rest ih =>
    obtain ⟨name, v⟩ := m
    obtain ⟨s, hs⟩ := h (name, v) (List.mem_cons_self ..)
    simp only at hs
    subst hs
    have hrest : Printable (memberChars true rest) := ih true fun m hm => h m (List.mem_cons_of_mem _ hm)
    have hcomma : Printable (if more then [','] else []) := by
      cases more with
      | false => exact printable_nil
      | true => exact printable_of_all rfl
    simp only [memberChars, Value.chars]
    refine printable_append (printable_append (printable_append hcomma (printable_quote name)) ?_) hrest
    exact printable_cons (by decide) (printable_quote s)

/-- The text of an object of strings is one line. -/
theorem printable_text {members : List (String × Value)} (h : AllStrings members) :
    Printable (Value.object members).text.toList := by
  simp only [Value.text, String.toList_ofList, Value.chars]
  exact printable_cons (by decide) (printable_memberChars false members h)

/-!
## Reading undoes writing

A value without numbers that does not nest too deep is read from its own text
(`read_text`). The reader is followed with some text after the value, so that the
same statement serves a value inside another one.
-/

open Reader

/-! ### Strings -/

theorem hexValue?_hexDigit {n : Nat} (h : n < 16) : Text.hexValue? (hexDigit n) = some n := by
  revert n; decide

theorem hex4_hexDigit {m n : Nat} (hm : m < 16) (hn : n < 16) (rest : List Char) :
    hex4 ('0' :: '0' :: hexDigit m :: hexDigit n :: rest) = .ok (m * 16 + n, rest) := by
  have hzero : Text.hexValue? '0' = some 0 := by decide
  have hdigits : ['0', '0', hexDigit m, hexDigit n].mapM Text.hexValue? = some [0, 0, m, n] := by
    simp [hzero, hexValue?_hexDigit hm, hexValue?_hexDigit hn]
  simp [hex4, hdigits]

theorem hexEscape_hexDigit {c : Char} (h : c.toNat < 0x20) (rest : List Char) :
    hexEscape ('0' :: '0' :: hexDigit (c.toNat / 16) :: hexDigit (c.toNat % 16) :: rest) = .ok (c, rest) := by
  have hn : c.toNat / 16 * 16 + c.toNat % 16 = c.toNat := Nat.div_add_mod' c.toNat 16
  have hread := hex4_hexDigit (m := c.toNat / 16) (n := c.toNat % 16) (by omega) (by omega) rest
  rw [hn] at hread
  have hlow : ¬ (0xDC00 ≤ c.toNat ∧ c.toNat ≤ 0xDFFF) := by omega
  have hunit : c.toNat < 0xD800 ∨ 0xDBFF < c.toNat := by omega
  simp [hexEscape, hread, hlow, hunit, bind, Except.bind, pure, Except.pure, Char.ofNat_toNat]

/-- A character stands for itself or is escaped, and then the escape means it. -/
theorem escapeChar_cases (c : Char) :
    (escapeChar c = [c] ∧ c ≠ '"' ∧ c ≠ '\\' ∧ ¬ c.toNat < 0x20) ∨
      ∃ body, escapeChar c = '\\' :: body ∧ ∀ rest, escape (body ++ rest) = .ok (c, rest) := by
  by_cases hletter : c ∈ ['"', '\\', '\x08', '\t', '\n', '\x0C', '\r']
  · simp only [List.mem_cons, List.not_mem_nil, or_false] at hletter
    rcases hletter with rfl | rfl | rfl | rfl | rfl | rfl | rfl <;> exact .inr ⟨_, rfl, fun _ => rfl⟩
  simp only [List.mem_cons, List.not_mem_nil, or_false, not_or] at hletter
  by_cases hc : c.toNat < 0x20
  · refine .inr ⟨['u', '0', '0', hexDigit (c.toNat / 16), hexDigit (c.toNat % 16)],
      by simp [escapeChar, hletter, hc], fun rest => ?_⟩
    have hread := hexEscape_hexDigit hc rest
    simpa [escape] using hread
  · exact .inl ⟨by simp [escapeChar, hletter, hc], hletter.1, hletter.2.1, hc⟩

theorem string_escapeChar (before : List Char) (fuel : Nat) (c : Char) (rest : List Char) :
    string before (fuel + 1) (escapeChar c ++ rest) = string (c :: before) fuel rest := by
  rcases escapeChar_cases c with ⟨he, hquote, hbackslash, hc⟩ | ⟨body, he, hbody⟩
  · simp [he, string, hquote, hbackslash, hc]
  · simp [he, string, hbody rest]

theorem string_flatMap_escapeChar (cs before : List Char) (fuel : Nat) (rest : List Char)
    (hf : cs.length ≤ fuel) :
    string before (fuel + 1) (cs.flatMap escapeChar ++ '"' :: rest) =
      .ok (String.ofList (before.reverse ++ cs), rest) := by
  induction cs generalizing before fuel with
  | nil => simp [string]
  | cons c cs ih =>
    obtain ⟨fuel, rfl⟩ := Nat.exists_eq_add_one_of_ne_zero (Nat.ne_zero_of_lt hf)
    have hrest : cs.length ≤ fuel := by simpa using hf
    rw [List.flatMap_cons, List.append_assoc, string_escapeChar, ih (c :: before) fuel hrest]
    simp

theorem length_le_flatMap_escapeChar (cs : List Char) : cs.length ≤ (cs.flatMap escapeChar).length := by
  induction cs with
  | nil => exact Nat.le_refl 0
  | cons c cs ih =>
    have hc : 1 ≤ (escapeChar c).length := by
      rcases escapeChar_cases c with ⟨he, -⟩ | ⟨body, he, -⟩ <;> simp [he]
    rw [List.flatMap_cons, List.length_append, List.length_cons]
    omega

theorem string_of_quote {s : String} {text rest : List Char}
    (h : '"' :: text = quote s ++ rest) : string [] text.length text = .ok (s, rest) := by
  have htext : text = s.toList.flatMap escapeChar ++ '"' :: rest := by
    simpa [quote] using h
  have hlength : text.length = (s.toList.flatMap escapeChar).length + rest.length + 1 := by
    rw [htext, List.length_append, List.length_cons]; rfl
  have hf := length_le_flatMap_escapeChar s.toList
  rw [hlength, htext, string_flatMap_escapeChar s.toList [] _ rest (by omega)]
  simp

/-! ### Lists of values -/

/-- No numbers, and arrays and objects nest no deeper than `depth`. -/
inductive Fits : (depth : Nat) → Value → Prop
  | null {d : Nat} : Fits d .null
  | bool {d : Nat} (b : Bool) : Fits d (.bool b)
  | string {d : Nat} (s : String) : Fits d (.string s)
  | array {d : Nat} {vs : List Value} : (∀ v ∈ vs, Fits d v) → Fits (d + 1) (.array vs)
  | object {d : Nat} {ms : List (String × Value)} : (∀ m ∈ ms, Fits d m.2) → Fits (d + 1) (.object ms)

theorem Fits.chars_eq_cons {d : Nat} {v : Value} (h : Fits d v) :
    ∃ c cs, v.chars = c :: cs ∧ isBlank c = false ∧ c ≠ ']' := by
  cases h with
  | null => exact ⟨'n', _, rfl, by decide, by decide⟩
  | bool b =>
    cases b with
    | false => exact ⟨'f', _, rfl, by decide, by decide⟩
    | true => exact ⟨'t', _, rfl, by decide, by decide⟩
  | string s => exact ⟨'"', _, by rw [Value.chars]; rfl, by decide, by decide⟩
  | array _ => exact ⟨'[', _, by rw [Value.chars], by decide, by decide⟩
  | object _ => exact ⟨'{', _, by rw [Value.chars], by decide, by decide⟩

theorem dropBlanks_cons {c : Char} (h : isBlank c = false) (cs : List Char) :
    dropBlanks (c :: cs) = c :: cs := by
  simp [dropBlanks, h]

theorem one_le_length_itemChars (more : Bool) (vs : List Value) : 1 ≤ (itemChars more vs).length := by
  induction vs generalizing more with
  | nil => simp [itemChars]
  | cons v vs ih =>
    have := ih true
    simp only [itemChars, List.length_append]
    omega

/-- The reader takes the text of the value, whatever follows it. -/
def ReadsBack (depth : Nat) (v : Value) : Prop :=
  ∀ fuel rest, v.chars.length ≤ fuel → value depth (fuel + 1) (v.chars ++ rest) = .ok (v, rest)

theorem items_itemChars {d depth : Nat} {vs : List Value} (hfits : ∀ v ∈ vs, Fits d v)
    (hread : ∀ v ∈ vs, ReadsBack depth v) (before : List Value) (fuel : Nat) (rest : List Char)
    (hf : (itemChars (!before.isEmpty) vs).length ≤ fuel) :
    items depth before (fuel + 1) (itemChars (!before.isEmpty) vs ++ rest) =
      .ok (before.reverse ++ vs, rest) := by
  induction vs generalizing before fuel with
  | nil =>
    have hend : isBlank ']' = false := by decide
    simp [itemChars, items, dropBlanks_cons hend]
  | cons v vs ih =>
    obtain ⟨c, cs, hc, hblank, hend⟩ := (hfits v (List.mem_cons_self ..)).chars_eq_cons
    have hcomma : isBlank ',' = false := by decide
    have hv : 1 ≤ v.chars.length := by simp [hc]
    have hvs := one_le_length_itemChars true vs
    simp only [itemChars, List.length_append] at hf
    -- the item has a character, so the items after it have fuel left
    obtain ⟨fuel, rfl⟩ := Nat.exists_eq_add_one_of_ne_zero (n := fuel) (by omega)
    have hitem : value depth (fuel + 1) (c :: (cs ++ (itemChars true vs ++ rest))) =
        .ok (v, itemChars true vs ++ rest) := by
      have := hread v (List.mem_cons_self ..) fuel (itemChars true vs ++ rest) (by omega)
      rwa [hc, List.cons_append] at this
    have hrest : items depth (v :: before) (fuel + 1) (itemChars true vs ++ rest) =
        .ok (before.reverse ++ v :: vs, rest) := by
      have := ih (fun w hw => hfits w (List.mem_cons_of_mem _ hw))
        (fun w hw => hread w (List.mem_cons_of_mem _ hw)) (v :: before) fuel (by simp; omega)
      simpa using this
    rw [items]
    cases before with
    | nil => simp [itemChars, hc, dropBlanks_cons hblank, hend, hitem, hrest]
    | cons w before =>
      simp [itemChars, hc, dropBlanks_cons hblank, dropBlanks_cons hcomma, hend, hitem, hrest]

theorem members_memberChars {depth : Nat} {ms : List (String × Value)}
    (hread : ∀ m ∈ ms, ReadsBack depth m.2) (before : List (String × Value)) (fuel : Nat) (rest : List Char)
    (hf : (memberChars (!before.isEmpty) ms).length ≤ fuel) :
    members depth before (fuel + 1) (memberChars (!before.isEmpty) ms ++ rest) =
      .ok (before.reverse ++ ms, rest) := by
  induction ms generalizing before fuel with
  | nil =>
    have hend : isBlank '}' = false := by decide
    simp [memberChars, members, dropBlanks_cons hend]
  | cons m ms ih =>
    obtain ⟨name, v⟩ := m
    have hquote : isBlank '"' = false := by decide
    have hcomma : isBlank ',' = false := by decide
    have hcolon : isBlank ':' = false := by decide
    simp only [memberChars, List.length_append, List.length_cons] at hf
    obtain ⟨fuel, rfl⟩ := Nat.exists_eq_add_one_of_ne_zero (n := fuel) (by omega)
    -- `text` is what stands after the opening quotation mark of the name.
    obtain ⟨text, htext⟩ : ∃ text,
        '"' :: text = quote name ++ ':' :: (v.chars ++ (memberChars true ms ++ rest)) := ⟨_, rfl⟩
    have hname := string_of_quote htext
    have hchars : memberChars (!before.isEmpty) ((name, v) :: ms) ++ rest =
        (if !before.isEmpty then [','] else []) ++ '"' :: text := by
      simp [memberChars, htext]
    have hvalue : value depth (fuel + 1) (v.chars ++ (memberChars true ms ++ rest)) =
        .ok (v, memberChars true ms ++ rest) :=
      hread (name, v) (List.mem_cons_self ..) fuel _ (by simp only; omega)
    have hrest : members depth ((name, v) :: before) (fuel + 1) (memberChars true ms ++ rest) =
        .ok (before.reverse ++ (name, v) :: ms, rest) := by
      have := ih (fun w hw => hread w (List.mem_cons_of_mem _ hw)) ((name, v) :: before) fuel
        (by simp; omega)
      simpa using this
    rw [hchars, members]
    cases before with
    | nil => simp [dropBlanks_cons hquote, dropBlanks_cons hcolon, hname, hvalue, hrest]
    | cons w before =>
      simp [dropBlanks_cons hquote, dropBlanks_cons hcomma, dropBlanks_cons hcolon, hname, hvalue, hrest]

/-! ### Values -/

theorem ident_self (v : Value) (cs rest : List Char) : ident v cs (cs ++ rest) = .ok (v, rest) := by
  induction cs with
  | nil => rfl
  | cons c cs ih => simp [ident, ih]

theorem Fits.readsBack {d : Nat} {v : Value} (h : Fits d v) {depth : Nat} (hd : d < depth) :
    ReadsBack depth v := by
  -- `depth` varies: what is inside a bracket has one level less
  induction h generalizing depth with
  | null =>
    intro fuel rest _
    have hn : isBlank 'n' = false := by decide
    have hrest := ident_self .null ['u', 'l', 'l'] rest
    simpa [Value.chars, value, dropBlanks_cons hn] using hrest
  | bool b =>
    intro fuel rest _
    cases b with
    | false =>
      have hf : isBlank 'f' = false := by decide
      have hrest := ident_self (.bool false) ['a', 'l', 's', 'e'] rest
      simpa [Value.chars, value, dropBlanks_cons hf] using hrest
    | true =>
      have ht : isBlank 't' = false := by decide
      have hrest := ident_self (.bool true) ['r', 'u', 'e'] rest
      simpa [Value.chars, value, dropBlanks_cons ht] using hrest
  | string s =>
    intro fuel rest _
    have hquote : isBlank '"' = false := by decide
    obtain ⟨text, htext⟩ : ∃ text, '"' :: text = quote s ++ rest := ⟨_, rfl⟩
    rw [Value.chars, ← htext]
    simp [value, dropBlanks_cons hquote, string_of_quote htext, Except.map]
  | @array d vs hvs ih =>
    intro fuel rest hf
    have hopen : isBlank '[' = false := by decide
    have hdepth : ¬ depth ≤ 1 := by omega
    simp only [Value.chars, List.length_cons] at hf
    obtain ⟨fuel, rfl⟩ := Nat.exists_eq_add_one_of_ne_zero (Nat.ne_zero_of_lt hf)
    have hitems : items (depth - 1) [] (fuel + 1) (itemChars false vs ++ rest) = .ok (vs, rest) :=
      items_itemChars hvs (fun v hv => ih v hv (by omega)) [] fuel rest (by simpa using hf)
    simp [Value.chars, value, dropBlanks_cons hopen, hdepth, hitems, Except.map]
  | @object d ms hms ih =>
    intro fuel rest hf
    have hopen : isBlank '{' = false := by decide
    have hdepth : ¬ depth ≤ 1 := by omega
    simp only [Value.chars, List.length_cons] at hf
    obtain ⟨fuel, rfl⟩ := Nat.exists_eq_add_one_of_ne_zero (Nat.ne_zero_of_lt hf)
    have hmembers : members (depth - 1) [] (fuel + 1) (memberChars false ms ++ rest) = .ok (ms, rest) :=
      members_memberChars (fun m hm => ih m hm (by omega)) [] fuel rest (by simpa using hf)
    simp [Value.chars, value, dropBlanks_cons hopen, hdepth, hmembers, Except.map]

/-- Blanks may follow the text. -/
theorem read_text_append {d : Nat} {v : Value} (h : Fits d v) (hd : d < depthLimit) {blanks : String}
    (hb : dropBlanks blanks.toList = []) : Value.read (v.text ++ blanks) = .ok v := by
  have hvalue := h.readsBack hd (2 * (v.chars ++ blanks.toList).length + 1) blanks.toList
    (by rw [List.length_append]; omega)
  have hstop : Value.readStop (v.chars ++ blanks.toList) = .ok v := by
    rw [Value.readStop, hvalue]
    simp [hb, bind, Except.bind, pure, Except.pure]
  simp [Value.read, Value.text, hstop]

theorem read_text {d : Nat} {v : Value} (h : Fits d v) (hd : d < depthLimit) : Value.read v.text = .ok v := by
  have hnone : dropBlanks "".toList = [] := rfl
  simpa using read_text_append h hd hnone

/-!
## Members of objects

What `lookup?` finds in members put together, and in members whose names differ, where
their order does not count (`lookup?_perm`). An object may be written in any order
(`Writes`), and is read with the members it was written from (`Writes.read`).
-/

theorem lookup?_append (ms ns : List (String × Value)) (name : String) :
    lookup? (ms ++ ns) name = (lookup? ns name).or (lookup? ms name) := by
  simp only [lookup?, List.reverse_append, List.find?_append]
  cases ns.reverse.find? (·.1 = name) <;> rfl

theorem lookup?_cons (m : String × Value) (ms : List (String × Value)) (name : String) :
    lookup? (m :: ms) name = (lookup? ms name).or (if m.1 = name then some m.2 else none) := by
  have hone : lookup? [m] name = if m.1 = name then some m.2 else none := by
    by_cases h : m.1 = name <;> simp [lookup?, h]
  rw [← hone, ← lookup?_append, List.singleton_append]

theorem lookup?_eq_none_iff {ms : List (String × Value)} {name : String} :
    lookup? ms name = none ↔ name ∉ ms.map (·.1) := by
  induction ms with
  | nil => simp
  | cons m ms ih =>
    rw [lookup?_cons, Option.or_eq_none_iff, ih, List.map_cons, List.mem_cons, not_or]
    by_cases h : m.1 = name
    · simp [h]
    · simp [h, Ne.symm h]

theorem lookup?_eq_some_iff {ms : List (String × Value)} (hnd : (ms.map (·.1)).Nodup) {name : String}
    {v : Value} : lookup? ms name = some v ↔ (name, v) ∈ ms := by
  induction ms with
  | nil => simp
  | cons m ms ih =>
    rw [List.map_cons, List.nodup_cons] at hnd
    rw [lookup?_cons, List.mem_cons, ← ih hnd.2]
    by_cases h : m.1 = name
    · have hnone : lookup? ms name = none := lookup?_eq_none_iff.2 (h ▸ hnd.1)
      obtain ⟨k, w⟩ := m
      simp only at h
      subst h
      simp [hnone, eq_comm]
    · have hne : (name, v) ≠ m := fun e => h (by rw [← e])
      simp [h, hne]

/-- Where names differ, the order of members does not count. -/
theorem lookup?_perm {ms ns : List (String × Value)} (h : ms.Perm ns) (hnd : (ns.map (·.1)).Nodup)
    (name : String) : lookup? ms name = lookup? ns name := by
  have hnd' : (ms.map (·.1)).Nodup := (h.map _).nodup_iff.2 hnd
  ext v
  rw [lookup?_eq_some_iff hnd', lookup?_eq_some_iff hnd, h.mem_iff]

theorem Fits.perm {d : Nat} {ms ns : List (String × Value)} (h : Fits d (.object ns)) (hp : ms.Perm ns) :
    Fits d (.object ms) := by
  cases h with
  | object hall => exact .object fun m hm => hall m (hp.mem_iff.1 hm)

theorem fits_of_allStrings {ms : List (String × Value)} (h : AllStrings ms) : Fits 1 (.object ms) := by
  refine .object fun m hm => ?_
  obtain ⟨s, hs⟩ := h m hm
  rw [hs]
  exact .string s

/-- The text is an object with these members, in some order. -/
def Writes (text : String) (members : List (String × Value)) : Prop :=
  ∃ ms, ms.Perm members ∧ text = (Value.object ms).text

theorem Writes.read {text : String} {members : List (String × Value)} (h : Writes text members) {d : Nat}
    (hfits : Fits d (.object members)) (hd : d < depthLimit) :
    ∃ ms, ms.Perm members ∧ Value.read text = .ok (.object ms) := by
  obtain ⟨ms, hp, rfl⟩ := h
  exact ⟨ms, hp, read_text (hfits.perm hp) hd⟩

end HookGate.Json
