import HookGate.Proofs.Toml.Reading

/-!
# What statements do to tables

A statement gives one member of a table another node, or adds one, and does the same
in every table on the way there. `Puts` is that one change; `Defines` is a pair,
`Opens` a header in the table that its path leads to, and `Within` the way there. What
holds of all documents follows from these relations, case by case.
-/

namespace HookGate.Toml

namespace Node

abbrev Members := List (String × Node)

/-! ## One member -/

/-- A member is added, or one that is there gets another node. -/
inductive Puts (ms : Members) (name : String) : Option Node → Node → Members → Prop
  | new {n : Node} : ms.lookup name = none → Puts ms name none n (ms ++ [(name, n)])
  | old {m n : Node} : ms.lookup name = some m → Puts ms name (some m) n (assign ms name n)

theorem lookup_assign_self {ms : Members} {name : String} {m : Node} (h : ms.lookup name = some m) (n : Node) :
    (assign ms name n).lookup name = some n := by
  induction ms with
  | nil => cases h
  | cons first ms ih =>
    obtain ⟨other, k⟩ := first
    by_cases ho : name = other
    · subst ho
      simp [assign]
    · have hb : (name == other) = false := by simpa using ho
      have ho' : ¬ other = name := fun heq => ho heq.symm
      simp only [List.lookup_cons, hb] at h
      simpa [assign, ho', List.lookup_cons, hb] using ih h

theorem lookup_assign_other (ms : Members) {name other : String} (h : other ≠ name) (n : Node) :
    (assign ms name n).lookup other = ms.lookup other := by
  induction ms with
  | nil => rfl
  | cons first ms ih =>
    obtain ⟨k, m⟩ := first
    have ih' : List.lookup other (assign ms name n) = List.lookup other ms := ih
    unfold assign at ih' ⊢
    rw [List.map_cons]
    by_cases hk : k = name
    · subst hk
      have hb : (other == k) = false := by simpa using h
      simp only [if_true, List.lookup_cons, hb, ih']
    · simp only [if_neg hk, List.lookup_cons, ih']

namespace Puts

variable {ms ms' : Members} {name : String} {old : Option Node} {n : Node}

theorem lookup_old (h : Puts ms name old n ms') : ms.lookup name = old := by
  cases h with
  | new h => exact h
  | old h => exact h

theorem lookup_self (h : Puts ms name old n ms') : ms'.lookup name = some n := by
  cases h with
  | new h => simp [List.lookup_append, h]
  | old h => exact lookup_assign_self h n

theorem lookup_other (h : Puts ms name old n ms') {other : String} (ho : other ≠ name) :
    ms'.lookup other = ms.lookup other := by
  cases h with
  | new h =>
    have hb : (other == name) = false := by simpa using ho
    simp [List.lookup_append, List.lookup_cons, hb]
  | old h => exact lookup_assign_other ms ho n

end Puts

/-! ## Pairs -/

/-- A pair adds a value. On the way there are tables that came about by pairs or headers, and new ones. -/
inductive Defines (name : String) (v : Value) : List String → Members → Members → Prop
  | here {ms ms'} : Puts ms name none (value v) ms' → Defines name v [] ms ms'
  | new {step path ms inner ms'} : Puts ms step none (table .dotted inner) ms' → Defines name v path [] inner →
      Defines name v (step :: path) ms ms'
  | table {step path ms origin inner inner' ms'} :
      Puts ms step (some (table origin inner)) (table origin inner') ms' → Defines name v path inner inner' →
      Defines name v (step :: path) ms ms'
  | tables {step path ms before last last' ms'} : path ≠ [] →
      Puts ms step (some (tables before last)) (tables before last') ms' → Defines name v path last last' →
      Defines name v (step :: path) ms ms'

theorem defines_of_define {name : String} {v : Value} {path : List String} {ms ms' : Members}
    (h : define name v path ms = .ok ms') : Defines name v path ms ms' := by
  fun_induction define name v path ms generalizing ms' with
  | case1 | case5 | case7 | case8 | case10 => cases h
  | case2 ms hl => cases h; exact .here (.new hl)
  | case3 step path ms hl ih =>
    obtain ⟨inner, hi, h⟩ := bind_eq_ok_iff.1 h
    cases h
    exact .new (.new hl) (ih hi)
  | case4 step path ms inner hl ih =>
    obtain ⟨inner', hi, h⟩ := bind_eq_ok_iff.1 h
    cases h
    exact .table (.old hl) (ih hi)
  | case6 step path ms inner hl hp ih =>
    obtain ⟨inner', hi, h⟩ := bind_eq_ok_iff.1 h
    cases h
    exact .table (.old hl) (ih hi)
  | case9 step path ms before last hl hp ih =>
    obtain ⟨last', hi, h⟩ := bind_eq_ok_iff.1 h
    cases h
    exact .tables (by simpa using hp) (.old hl) (ih hi)

inductive Fills : List (Key × Value) → Members → Members → Prop
  | nil {ms} : Fills [] ms ms
  | cons {k v pairs ms mid ms'} : Defines k.name v k.path ms mid → Fills pairs mid ms' →
      Fills ((k, v) :: pairs) ms ms'

theorem fills_of_fill {pairs : List (Key × Value)} {ms ms' : Members} (h : fill pairs ms = .ok ms') :
    Fills pairs ms ms' := by
  induction pairs generalizing ms with
  | nil => cases h; exact .nil
  | cons p pairs ih =>
    obtain ⟨mid, hd, h⟩ := bind_eq_ok_iff.1 h
    exact .cons (defines_of_define hd) (ih h)

/-! ## Headers -/

/-- A header opens a table, which its pairs fill, in the table that its path leads to. -/
inductive Opens (pairs : List (Key × Value)) : Header → Members → Members → Prop
  | table {k ms inner ms'} : Puts ms k.name none (table .header inner) ms' → Fills pairs [] inner →
      Opens pairs (.table k) ms ms'
  | implied {k ms inner inner' ms'} :
      Puts ms k.name (some (table .implied inner)) (table .header inner') ms' → Fills pairs inner inner' →
      Opens pairs (.table k) ms ms'
  | first {k ms t ms'} : Puts ms k.name none (tables [] t) ms' → Fills pairs [] t → Opens pairs (.next k) ms ms'
  | next {k ms before last t ms'} :
      Puts ms k.name (some (tables before last)) (tables (before ++ [last]) t) ms' → Fills pairs [] t →
      Opens pairs (.next k) ms ms'

theorem opens_of_openTable {pairs : List (Key × Value)} {k : Key} {ms ms' : Members}
    (h : openTable k.name (fill pairs) ms = .ok ms') : Opens pairs (.table k) ms ms' := by
  unfold openTable at h
  split at h
  · rename_i hl
    obtain ⟨inner, hi, h⟩ := bind_eq_ok_iff.1 h
    cases h
    exact .table (.new hl) (fills_of_fill hi)
  · rename_i inner hl
    obtain ⟨inner', hi, h⟩ := bind_eq_ok_iff.1 h
    cases h
    exact .implied (.old hl) (fills_of_fill hi)
  · cases h

theorem opens_of_openNext {pairs : List (Key × Value)} {k : Key} {ms ms' : Members}
    (h : openNext k.name (fill pairs) ms = .ok ms') : Opens pairs (.next k) ms ms' := by
  unfold openNext at h
  split at h
  · rename_i hl
    obtain ⟨t, ht, h⟩ := bind_eq_ok_iff.1 h
    cases h
    exact .first (.new hl) (fills_of_fill ht)
  · rename_i before last hl
    obtain ⟨t, ht, h⟩ := bind_eq_ok_iff.1 h
    cases h
    exact .next (.old hl) (fills_of_fill ht)
  · cases h

/-- A change in the table that a path leads to. -/
inductive Within (change : Members → Members → Prop) : List String → Members → Members → Prop
  | here {ms ms'} : change ms ms' → Within change [] ms ms'
  | new {step path ms inner ms'} : Puts ms step none (table .implied inner) ms' → Within change path [] inner →
      Within change (step :: path) ms ms'
  | table {step path ms origin inner inner' ms'} :
      Puts ms step (some (table origin inner)) (table origin inner') ms' → Within change path inner inner' →
      Within change (step :: path) ms ms'
  | tables {step path ms before last last' ms'} :
      Puts ms step (some (tables before last)) (tables before last') ms' → Within change path last last' →
      Within change (step :: path) ms ms'

theorem within_of_within {f : Members → Except Fault Members} {change : Members → Members → Prop}
    (hf : ∀ ms ms', f ms = .ok ms' → change ms ms') {path : List String} {ms ms' : Members}
    (h : within f path ms = .ok ms') : Within change path ms ms' := by
  fun_induction within f path ms generalizing ms' with
  | case1 ms => exact .here (hf _ _ h)
  | case2 step path ms hl ih =>
    obtain ⟨inner, hi, h⟩ := bind_eq_ok_iff.1 h
    cases h
    exact .new (.new hl) (ih hi)
  | case3 step path ms origin inner hl ih =>
    obtain ⟨inner', hi, h⟩ := bind_eq_ok_iff.1 h
    cases h
    exact .table (.old hl) (ih hi)
  | case4 step path ms before last hl ih =>
    obtain ⟨last', hi, h⟩ := bind_eq_ok_iff.1 h
    cases h
    exact .tables (.old hl) (ih hi)
  | case5 => cases h

end Node

open Node (Members Opens Within)

def Header.key : Header → Key
  | table k => k
  | next k => k

theorem within_of_place {s : Section} {ms ms' : Members} (h : s.place ms = .ok ms') :
    Within (Opens s.pairs s.header) s.header.key.path ms ms' := by
  unfold Section.place at h
  cases hs : s.header with
  | table k =>
    rw [hs] at h
    exact Node.within_of_within (fun _ _ => Node.opens_of_openTable) h
  | next k =>
    rw [hs] at h
    exact Node.within_of_within (fun _ _ => Node.opens_of_openNext) h

/-! ## Documents -/

namespace Document

/-- The pairs before the first header of a text, and its sections. -/
def divide (text : List Char) : Except Fault (List (Key × Value) × List Section) := do
  let text := dropMark text
  return sections (← statements [] (text.length + 1) text)

/-- More fuel divides no text in another way. -/
theorem divide_eq_add (text : List Char) (extra : Nat) :
    divide text = (statements [] ((dropMark text).length + 1 + extra) (dropMark text)).map sections := by
  rw [(fuel_enough (dropMark text)).2.2.2.2 _ (by omega)]
  simp only [divide]
  cases statements [] ((dropMark text).length + 1) (dropMark text) with
  | error e => rfl
  | ok ss => rfl

/-- The tables of a document that is put together from its parts. -/
inductive Builds : List (Key × Value) → List Section → Members → Prop
  | top {pairs ms} : Node.Fills pairs [] ms → Builds pairs [] ms
  | place {pairs before s ms ms'} : Builds pairs before ms →
      Within (Opens s.pairs s.header) s.header.key.path ms ms' → Builds pairs (before ++ [s]) ms'

theorem builds_of_foldlM {pairs : List (Key × Value)} {before more : List Section} {ms ms' : Members}
    (hb : Builds pairs before ms) (h : more.foldlM (fun ms s => s.place ms) ms = .ok ms') :
    Builds pairs (before ++ more) ms' := by
  induction more generalizing before ms with
  | nil => cases h; rwa [List.append_nil]
  | cons s more ih =>
    obtain ⟨mid, hp, h⟩ := bind_eq_ok_iff.1 h
    rw [List.append_cons]
    exact ih (.place hb (within_of_place hp)) h

/-- A document that is read is put together from the parts of its text. -/
theorem builds_of_read {text : List Char} {d : Document} (h : read text = .ok d) :
    ∃ pairs sections ms, divide text = .ok (pairs, sections) ∧ Builds pairs sections ms ∧ d = Node.toValues ms := by
  obtain ⟨statements, hs, h⟩ := bind_eq_ok_iff.1 h
  obtain ⟨top, ht, h⟩ := bind_eq_ok_iff.1 h
  obtain ⟨ms, hm, h⟩ := bind_eq_ok_iff.1 h
  cases h
  refine ⟨_, _, ms, bind_eq_ok_iff.2 ⟨statements, hs, rfl⟩, ?_, rfl⟩
  exact builds_of_foldlM (.top (Node.fills_of_fill ht)) hm

end Document

end HookGate.Toml
