import HookGate.Proofs.Pattern.Search
import HookGate.Proofs.Text.CaseFold
import Mathlib.Computability.Language

/-!
# Languages of phrases

A row of expressions without assertions matches the texts of a language, whatever
stands beside them; such a row is a `Phrase`, and the language of two phrases in a
row is the product of their languages. A word boundary at an end where every text
has a word character says that no word character stands beside that end. So what
a phrase finds is a stretch of its language between neighbours of a kind (`Occurs`).
-/

namespace HookGate.Pattern

open Stretches Text

/-! ## Occurrences -/

def Anything (_ : Option Char) : Prop := True

/-- No word character: another character, or an end of the text. -/
def NoWord (c : Option Char) : Prop := ∀ d, c = some d → isWord d = false

/-- Some stretch of the text is in `L` and has neighbours of these kinds. -/
def Occurs (before : Option Char → Prop) (L : Language Char) (after : Option Char → Prop)
    (text : List Char) : Prop :=
  ∃ u m v, text = u ++ m ++ v ∧ m ∈ L ∧ before u.getLast? ∧ after v.head?

def exactly (s : String) : Language Char := {s.toList}

/-- White space, at least one character of it. -/
def spacing : Language Char := {w | w ≠ [] ∧ ∀ c ∈ w, isBlank c = true}

def oneLine : Language Char := {w | '\n' ∉ w}

def charwise (R : Char → Char → Prop) (s : List Char) : Language Char := {w | List.Forall₂ R w s}

def inAnyCase (s : String) : Language Char := charwise FoldEq s.toList

def atLeast (lo : Nat) (s : CharSet) : Language Char := {w | lo ≤ w.length ∧ ∀ c ∈ w, s.contains c = true}

theorem exactly_append (s t : String) : exactly s * exactly t = exactly (s ++ t) := by
  unfold exactly
  rw [String.toList_append]
  exact Set.image2_singleton

namespace Stretches

/-- The stretches that hold a text of `L` between neighbours of these kinds. -/
def between (before : Option Char → Prop) (L : Language Char) (after : Option Char → Prop) : Stretches :=
  fun p w q => w ∈ L ∧ before p ∧ after q

def ofLanguage (L : Language Char) : Stretches := between Anything L Anything

theorem ofLanguage_iff {L : Language Char} {p q : Option Char} {w : List Char} :
    ofLanguage L p w q ↔ w ∈ L :=
  ⟨fun h => h.1, fun h => ⟨h, trivial, trivial⟩⟩

theorem ofLanguage_one : ofLanguage 1 = unit := by
  apply ext
  intro p w q
  rw [ofLanguage_iff, Language.mem_one]
  rfl

theorem ofLanguage_add (L M : Language Char) : ofLanguage (L + M) = alt (ofLanguage L) (ofLanguage M) := by
  apply ext
  intro p w q
  unfold alt
  rw [ofLanguage_iff, ofLanguage_iff, ofLanguage_iff, Language.mem_add]

theorem ofLanguage_mul (L M : Language Char) : ofLanguage (L * M) = seq (ofLanguage L) (ofLanguage M) := by
  apply ext
  intro p w q
  rw [ofLanguage_iff, Language.mem_mul]
  refine ⟨fun h => ?_, fun h => ?_⟩
  · obtain ⟨u, hu, v, hv, huv⟩ := h
    exact ⟨u, v, huv.symm, ofLanguage_iff.2 hu, ofLanguage_iff.2 hv⟩
  · obtain ⟨u, v, huv, hu, hv⟩ := h
    exact ⟨u, ofLanguage_iff.1 hu, v, ofLanguage_iff.1 hv, huv.symm⟩

def row : List Stretches → Stretches
  | [] => unit
  | A :: As => seq A (row As)

theorem row_append (As Bs : List Stretches) : row (As ++ Bs) = seq (row As) (row Bs) := by
  induction As with
  | nil => exact (unit_seq _).symm
  | cons A As ih =>
    simp only [List.cons_append, row]
    rw [ih, seq_assoc]

end Stretches

/-! ## Rows of expressions -/

namespace Expr

def row : List Expr → Expr
  | [] => .empty
  | [e] => e
  | e :: es => .cat e (row es)

def wordBoundary : Expr := .look (.wordBoundary .unicode)

end Expr

def rowMatches (es : List Expr) : Stretches := Stretches.row (es.map Matches)

theorem matches_row (es : List Expr) : Matches (.row es) = rowMatches es := by
  induction es with
  | nil => exact matches_empty
  | cons e es ih =>
    cases es with
    | nil => exact (seq_unit _).symm
    | cons e' es =>
      show Matches (.cat e (.row (e' :: es))) = _
      rw [matches_cat, ih]
      rfl

theorem rowMatches_append (es fs : List Expr) : rowMatches (es ++ fs) = seq (rowMatches es) (rowMatches fs) := by
  unfold rowMatches
  rw [List.map_append, row_append]

theorem rowMatches_cons (e : Expr) (es : List Expr) : rowMatches (e :: es) = seq (Matches e) (rowMatches es) :=
  rfl

theorem rowMatches_one (e : Expr) : rowMatches [e] = Matches e := seq_unit _

theorem rowMatches_chars (f : Char → CharSet) (R : Char → Char → Prop)
    (hf : ∀ c d, (f d).contains c = true ↔ R c d) (s : List Char) :
    rowMatches (s.map fun c => .chars (f c)) = ofLanguage (charwise R s) := by
  induction s with
  | nil =>
    apply Stretches.ext
    intro p w q
    rw [ofLanguage_iff]
    exact List.forall₂_nil_right_iff.symm
  | cons d s ih =>
    apply Stretches.ext
    intro p w q
    rw [List.map_cons, rowMatches_cons, ih, matches_chars, ofLanguage_iff]
    refine ⟨fun h => ?_, fun h => ?_⟩
    · obtain ⟨_, v, rfl, ⟨c, rfl, hc⟩, hv⟩ := h
      exact .cons ((hf c d).1 hc) (ofLanguage_iff.1 hv)
    · obtain ⟨c, v, hc, hv, rfl⟩ := List.forall₂_cons_right_iff.1 h
      exact ⟨[c], v, rfl, ⟨c, rfl, (hf c d).2 hc⟩, ofLanguage_iff.2 hv⟩

theorem charwise_eq (s : String) : charwise Eq s.toList = exactly s := by
  unfold charwise
  rw [List.forall₂_eq_eq_eq]
  rfl

theorem matches_times_chars (s : CharSet) (lo : Nat) :
    Matches (.times (.chars s) lo none) = ofLanguage (atLeast lo s) := by
  -- `n` rounds of a set consume `n` characters, so the length of the text counts the rounds
  have hpow : ∀ n p w q, pow (Matches (.chars s)) n p w q ↔ w.length = n ∧ ∀ c ∈ w, s.contains c = true := by
    intro n
    rw [matches_chars]
    induction n with
    | zero =>
      intro p w q
      refine ⟨fun h => ?_, fun h => List.length_eq_zero_iff.1 h.1⟩
      obtain rfl : w = [] := h
      exact ⟨rfl, fun c hc => (by cases hc)⟩
    | succ n ih =>
      intro p w q
      refine ⟨fun h => ?_, fun h => ?_⟩
      · obtain ⟨_, v, rfl, ⟨c, rfl, hc⟩, hv⟩ := h
        obtain ⟨hlen, hall⟩ := (ih _ v q).1 hv
        refine ⟨by simp [hlen], fun d hd => ?_⟩
        rcases List.mem_cons.1 hd with rfl | hd
        · exact hc
        · exact hall d hd
      · obtain ⟨hlen, hall⟩ := h
        cases w with
        | nil => cases hlen
        | cons c v =>
          have hv := (ih (some c) v q).2
            ⟨Nat.succ.inj hlen, fun d hd => hall d (List.mem_cons_of_mem _ hd)⟩
          exact ⟨[c], v, rfl, ⟨c, rfl, hall c (List.mem_cons_self ..)⟩, hv⟩
  apply Stretches.ext
  intro p w q
  rw [matches_times, ofLanguage_iff]
  refine ⟨fun h => ?_, fun h => ?_⟩
  · obtain ⟨n, hlo, _, hn⟩ := h
    obtain ⟨hlen, hall⟩ := (hpow n p w q).1 hn
    exact ⟨by omega, hall⟩
  · obtain ⟨hlen, hall⟩ := h
    exact ⟨w.length, hlen, fun m hm => (by cases hm), (hpow _ p w q).2 ⟨rfl, hall⟩⟩

theorem atLeast_blank : atLeast 1 (.ranges blankRanges) = spacing := by
  ext w
  show 1 ≤ w.length ∧ (∀ c ∈ w, isBlank c = true) ↔ w ≠ [] ∧ ∀ c ∈ w, isBlank c = true
  rw [Nat.one_le_iff_ne_zero, Ne, List.length_eq_zero_iff]

theorem atLeast_compl_lineFeed : atLeast 0 (.compl (.single '\n')) = oneLine := by
  ext w
  show 0 ≤ w.length ∧ (∀ c ∈ w, (CharSet.compl (.single '\n')).contains c = true) ↔ '\n' ∉ w
  simp only [CharSet.contains_compl, CharSet.contains_single, Nat.zero_le, true_and]
  refine ⟨fun h hn => ?_, fun h c hc => ?_⟩
  · exact absurd (h '\n' hn) (by decide)
  · have hne : c ≠ '\n' := fun he => h (he ▸ hc)
    rw [beq_eq_false_iff_ne.2 hne]
    rfl

/-! ## Phrases -/

/-- A row of expressions with the language that it matches. -/
structure Phrase where
  parts : List Expr
  language : Language Char
  rowMatches_parts : rowMatches parts = ofLanguage language

namespace Phrase

instance : Append Phrase where
  append a b := ⟨a.parts ++ b.parts, a.language * b.language, by
    rw [rowMatches_append, a.rowMatches_parts, b.rowMatches_parts, ofLanguage_mul]⟩

def exactly (s : String) : Phrase :=
  ⟨s.toList.map fun c => .chars (.single c), Pattern.exactly s, by
    rw [← charwise_eq]
    refine rowMatches_chars _ Eq (fun c d => ?_) _
    rw [CharSet.contains_single, beq_iff_eq]⟩

def inAnyCase (s : String) : Phrase :=
  ⟨s.toList.map fun c => .chars (.folded (.single c)), Pattern.inAnyCase s,
    rowMatches_chars _ FoldEq (fun _ _ => CharSet.contains_folded_single_iff) _⟩

def spacing : Phrase :=
  ⟨[.times (.chars (.ranges blankRanges)) 1 none], Pattern.spacing, by
    rw [rowMatches_one, matches_times_chars, atLeast_blank]⟩

def oneLine : Phrase :=
  ⟨[.times (.chars (.compl (.single '\n'))) 0 none], Pattern.oneLine, by
    rw [rowMatches_one, matches_times_chars, atLeast_compl_lineFeed]⟩

def either (a b : Phrase) : Phrase :=
  ⟨[.group (.alt (.row a.parts) (.row b.parts))], a.language + b.language, by
    rw [rowMatches_one, matches_group, matches_alt, matches_row, matches_row, a.rowMatches_parts,
      b.rowMatches_parts, ofLanguage_add]⟩

end Phrase

/-! ## Word boundaries -/

def StartsWithWord (L : Language Char) : Prop := ∀ w ∈ L, ∃ c, w.head? = some c ∧ isWord c = true

def EndsWithWord (L : Language Char) : Prop := ∀ w ∈ L, ∃ c, w.getLast? = some c ∧ isWord c = true

theorem StartsWithWord.mul {L : Language Char} (h : StartsWithWord L) (M : Language Char) :
    StartsWithWord (L * M) := by
  intro w hw
  obtain ⟨u, hu, v, _, rfl⟩ := Language.mem_mul.1 hw
  obtain ⟨c, hc, hword⟩ := h u hu
  refine ⟨c, ?_, hword⟩
  rw [List.head?_append, hc]
  rfl

theorem EndsWithWord.mul {M : Language Char} (h : EndsWithWord M) (L : Language Char) :
    EndsWithWord (L * M) := by
  intro w hw
  obtain ⟨u, _, v, hv, rfl⟩ := Language.mem_mul.1 hw
  obtain ⟨c, hc, hword⟩ := h v hv
  refine ⟨c, ?_, hword⟩
  rw [List.getLast?_append, hc]
  rfl

theorem StartsWithWord.add {L M : Language Char} (hL : StartsWithWord L) (hM : StartsWithWord M) :
    StartsWithWord (L + M) := fun w hw => hw.elim (hL w) (hM w)

theorem EndsWithWord.add {L M : Language Char} (hL : EndsWithWord L) (hM : EndsWithWord M) :
    EndsWithWord (L + M) := fun w hw => hw.elim (hL w) (hM w)

theorem startsWithWord_exactly {s : String} {c : Char} (h : s.toList.head? = some c) (hc : isWord c = true) :
    StartsWithWord (exactly s) := by
  intro w hw
  obtain rfl : w = s.toList := hw
  exact ⟨c, h, hc⟩

theorem endsWithWord_exactly {s : String} {c : Char} (h : s.toList.getLast? = some c) (hc : isWord c = true) :
    EndsWithWord (exactly s) := by
  intro w hw
  obtain rfl : w = s.toList := hw
  exact ⟨c, h, hc⟩

theorem noWord_iff (p : Option Char) : Alphabet.unicode.beside p = false ↔ NoWord p := by
  cases p with
  | none => exact iff_of_true rfl fun d hd => (by cases hd)
  | some c => exact ⟨fun h d hd => (by cases hd; exact h), fun h => h c rfl⟩

/-- Next to a word character, a word boundary is where no word character is on the other side. -/
theorem wordBoundary_holds_left {c : Char} (hc : isWord c = true) (p : Option Char) :
    (Look.wordBoundary .unicode).holds p (some c) = true ↔ NoWord p := by
  have hb : Alphabet.unicode.beside (some c) = true := hc
  rw [← noWord_iff, Look.holds, hb, bne_iff_ne, ne_eq, Bool.not_eq_true]

theorem wordBoundary_holds_right {c : Char} (hc : isWord c = true) (q : Option Char) :
    (Look.wordBoundary .unicode).holds (some c) q = true ↔ NoWord q := by
  have hb : Alphabet.unicode.beside (some c) = true := hc
  rw [← noWord_iff, Look.holds, hb, bne_comm, bne_iff_ne, ne_eq, Bool.not_eq_true]

theorem wordBoundary_seq {L : Language Char} (hL : StartsWithWord L) (after : Option Char → Prop) :
    seq (Matches .wordBoundary) (between Anything L after) = between NoWord L after := by
  apply Stretches.ext
  intro p w q
  unfold Expr.wordBoundary
  rw [matches_look]
  refine ⟨fun h => ?_, fun h => ?_⟩
  · obtain ⟨_, v, rfl, ⟨rfl, hk⟩, hv, _, hq⟩ := h
    obtain ⟨c, hc, hword⟩ := hL v hv
    rw [hc] at hk
    exact ⟨hv, (wordBoundary_holds_left hword p).1 hk, hq⟩
  · obtain ⟨hw, hp, hq⟩ := h
    obtain ⟨c, hc, hword⟩ := hL w hw
    refine ⟨[], w, rfl, ⟨rfl, ?_⟩, hw, trivial, hq⟩
    rw [hc]
    exact (wordBoundary_holds_left hword p).2 hp

theorem seq_wordBoundary {L : Language Char} (hL : EndsWithWord L) (before : Option Char → Prop) :
    seq (between before L Anything) (Matches .wordBoundary) = between before L NoWord := by
  apply Stretches.ext
  intro p w q
  unfold Expr.wordBoundary
  rw [matches_look]
  refine ⟨fun h => ?_, fun h => ?_⟩
  · obtain ⟨u, _, rfl, ⟨hu, hp, _⟩, rfl, hk⟩ := h
    obtain ⟨c, hc, hword⟩ := hL u hu
    rw [hc] at hk
    rw [List.append_nil]
    exact ⟨hu, hp, (wordBoundary_holds_right hword q).1 hk⟩
  · obtain ⟨hw, hp, hq⟩ := h
    obtain ⟨c, hc, hword⟩ := hL w hw
    refine ⟨w, [], (List.append_nil w).symm, ⟨hw, hp, trivial⟩, rfl, ?_⟩
    rw [hc]
    exact (wordBoundary_holds_right hword q).2 hq

/-! ## What phrases find -/

namespace Phrase
variable (a : Phrase) (text : List Char)

def anywhere : Expr := .row a.parts

def endingWord : Expr := .row (a.parts ++ [.wordBoundary])

def startingWord : Expr := .row (.wordBoundary :: a.parts)

def asWords : Expr := .row (.wordBoundary :: a.parts ++ [.wordBoundary])

theorem foundIn_anywhere : FoundIn a.anywhere text ↔ Occurs Anything a.language Anything text := by
  unfold FoundIn anywhere
  rw [matches_row, a.rowMatches_parts]
  rfl

theorem foundIn_endingWord (he : EndsWithWord a.language) :
    FoundIn a.endingWord text ↔ Occurs Anything a.language NoWord text := by
  unfold FoundIn endingWord
  rw [matches_row, rowMatches_append, rowMatches_one, a.rowMatches_parts, ofLanguage, seq_wordBoundary he]
  rfl

theorem foundIn_startingWord (hs : StartsWithWord a.language) :
    FoundIn a.startingWord text ↔ Occurs NoWord a.language Anything text := by
  unfold FoundIn startingWord
  rw [matches_row, rowMatches_cons, a.rowMatches_parts, ofLanguage, wordBoundary_seq hs]
  rfl

theorem foundIn_asWords (hs : StartsWithWord a.language) (he : EndsWithWord a.language) :
    FoundIn a.asWords text ↔ Occurs NoWord a.language NoWord text := by
  unfold FoundIn asWords
  rw [matches_row, List.cons_append, rowMatches_cons, rowMatches_append, rowMatches_one, a.rowMatches_parts,
    ofLanguage, seq_wordBoundary he, wordBoundary_seq hs]
  rfl

end Phrase

/-! ## Patterns and what they denote -/

def Denotes (ignoreCase : Bool) (source : String) (e : Expr) : Prop :=
  (Pattern.compile ignoreCase source).map (·.expr) = .ok e

instance (ignoreCase : Bool) (source : String) (e : Expr) : Decidable (Denotes ignoreCase source e) :=
  inferInstanceAs (Decidable (_ = _))

theorem Denotes.finds_iff {ignoreCase : Bool} {source : String} {e : Expr}
    (h : Denotes ignoreCase source e) (text : String) :
    Finds ignoreCase source text ↔ FoundIn e text.toList := by
  unfold Denotes at h
  cases hc : Pattern.compile ignoreCase source with
  | error f =>
    rw [hc] at h
    cases h
  | ok p =>
    rw [hc] at h
    cases h
    rw [Pattern.finds_iff hc]
    exact isFoundIn_iff_foundIn p.expr text.toList

end HookGate.Pattern
