import HookGate.Pattern

/-!
# The search finds what the relation says

A marked expression stands for two relations: what it matches when its marks are
ignored (`whole`), and what completes a match that the marks say is in progress
(`ahead`). Moving the marks over a character takes that character off both
(`ahead_advance_iff`), and so the search succeeds exactly on the texts with a
stretch that matches (`isFoundIn_iff_foundIn`).
-/

namespace HookGate.Pattern

/-!
## Stretches of a text

What an expression matches is a relation between a stretch and its two neighbours.
Such relations are put together by `seq`, `pow`, `star` and `times`, and
`Matches` of a compound expression is the compound of what its parts match
(`matches_cat`, `matches_alt`, `matches_times`).
-/

/-- Stretches of a text, each between its neighbours. -/
abbrev Stretches := Option Char → List Char → Option Char → Prop

namespace Stretches

def unit : Stretches := fun _ w _ => w = []

/-- A stretch of `A` and one of `B` after it, each the other's neighbour. -/
def seq (A B : Stretches) : Stretches := fun p w q =>
  ∃ u v, w = u ++ v ∧ A p u (v.head?.or q) ∧ B (u.getLast?.or p) v q

def alt (A B : Stretches) : Stretches := fun p w q => A p w q ∨ B p w q

def pow (A : Stretches) : Nat → Stretches
  | 0 => unit
  | n + 1 => A.seq (A.pow n)

def star (A : Stretches) : Stretches := fun p w q => ∃ n, A.pow n p w q

/-- At least `lo` and, if `hi` is given, at most `hi` stretches in a row. -/
def times (A : Stretches) (lo : Nat) (hi : Option Nat) : Stretches := fun p w q =>
  ∃ n, lo ≤ n ∧ (∀ m, hi = some m → n ≤ m) ∧ A.pow n p w q

section
variable (A B C : Stretches)

theorem ext {A B : Stretches} (h : ∀ p w q, A p w q ↔ B p w q) : A = B := by
  funext p w q
  exact propext (h p w q)

theorem seq_nil_iff {p q : Option Char} : A.seq B p [] q ↔ A p [] q ∧ B p [] q := by
  refine ⟨fun h => ?_, fun h => ?_⟩
  · obtain ⟨u, v, h, hu, hv⟩ := h
    obtain ⟨rfl, rfl⟩ := List.append_eq_nil_iff.1 h.symm
    exact ⟨hu, hv⟩
  · obtain ⟨hu, hv⟩ := h
    exact ⟨[], [], rfl, hu, hv⟩

omit A B C in
/-- The last character of a text that has a first one, or else the neighbour before it. -/
theorem getLast?_cons_or (c : Char) (u : List Char) (p : Option Char) :
    (c :: u).getLast?.or p = u.getLast?.or (some c) := by
  rw [List.getLast?_cons]
  cases u.getLast? <;> rfl

theorem seq_cons_iff {p q : Option Char} {c : Char} {w : List Char} :
    A.seq B p (c :: w) q ↔
      (A p [] (some c) ∧ B p (c :: w) q) ∨
        ∃ u v, w = u ++ v ∧ A p (c :: u) (v.head?.or q) ∧ B (u.getLast?.or (some c)) v q := by
  refine ⟨fun h => ?_, fun h => ?_⟩
  · obtain ⟨u, v, h, hu, hv⟩ := h
    cases u with
    | nil =>
      rw [List.nil_append] at h
      subst h
      exact .inl ⟨hu, hv⟩
    | cons d u =>
      rw [List.cons_append] at h
      injection h with hd hw
      subst hd
      rw [getLast?_cons_or] at hv
      exact .inr ⟨u, v, hw, hu, hv⟩
  · rcases h with ⟨hu, hv⟩ | ⟨u, v, rfl, hu, hv⟩
    · exact ⟨[], c :: w, rfl, hu, hv⟩
    · exact ⟨c :: u, v, rfl, hu, by rw [getLast?_cons_or]; exact hv⟩

theorem unit_seq : unit.seq A = A := by
  apply ext
  intro p w q
  refine ⟨fun h => ?_, fun h => ?_⟩
  · obtain ⟨u, v, rfl, rfl, h⟩ := h
    exact h
  · exact ⟨[], w, rfl, rfl, h⟩

theorem seq_unit : A.seq unit = A := by
  apply ext
  intro p w q
  refine ⟨fun h => ?_, fun h => ?_⟩
  · obtain ⟨u, v, rfl, h, rfl⟩ := h
    rw [List.append_nil]
    exact h
  · exact ⟨w, [], (List.append_nil w).symm, h, rfl⟩

theorem seq_assoc : (A.seq B).seq C = A.seq (B.seq C) := by
  apply ext
  intro p w q
  refine ⟨fun h => ?_, fun h => ?_⟩
  · obtain ⟨_, c, rfl, ⟨a, b, rfl, ha, hb⟩, hc⟩ := h
    rw [List.getLast?_append, Option.or_assoc] at hc
    refine ⟨a, b ++ c, List.append_assoc .., ?_, b, c, rfl, hb, hc⟩
    rw [List.head?_append, Option.or_assoc]
    exact ha
  · obtain ⟨a, _, rfl, ha, b, c, rfl, hb, hc⟩ := h
    rw [List.head?_append, Option.or_assoc] at ha
    refine ⟨a ++ b, c, (List.append_assoc ..).symm, ⟨a, b, rfl, ha, hb⟩, ?_⟩
    rw [List.getLast?_append, Option.or_assoc]
    exact hc

theorem pow_one : A.pow 1 = A := A.seq_unit

theorem pow_add (m n : Nat) : A.pow (m + n) = (A.pow m).seq (A.pow n) := by
  induction m with
  | zero => rw [Nat.zero_add]; exact (unit_seq _).symm
  | succ m ih =>
    rw [Nat.add_right_comm]
    simp only [pow]
    rw [ih, seq_assoc]

/-- Each stretch in the row may be left out, so the row may be shorter. -/
theorem pow_alt_unit_iff (n : Nat) {p q : Option Char} {w : List Char} :
    (A.alt unit).pow n p w q ↔ ∃ k, k ≤ n ∧ A.pow k p w q := by
  induction n generalizing p w with
  | zero =>
    refine ⟨fun h => ?_, fun h => ?_⟩
    · exact ⟨0, Nat.le_refl 0, h⟩
    · obtain ⟨k, hk, h⟩ := h
      obtain rfl : k = 0 := Nat.le_zero.1 hk
      exact h
  | succ n ih =>
    refine ⟨fun h => ?_, fun h => ?_⟩
    · obtain ⟨u, v, rfl, hu | rfl, hv⟩ := h
      · obtain ⟨k, hk, h⟩ := ih.1 hv
        exact ⟨k + 1, Nat.succ_le_succ hk, u, v, rfl, hu, h⟩
      · obtain ⟨k, hk, h⟩ := ih.1 hv
        exact ⟨k, Nat.le_succ_of_le hk, h⟩
    · obtain ⟨k, hk, h⟩ := h
      cases k with
      | zero => exact ⟨[], w, rfl, .inr rfl, ih.2 ⟨0, Nat.zero_le n, h⟩⟩
      | succ k =>
        obtain ⟨u, v, rfl, hu, hv⟩ := h
        exact ⟨u, v, rfl, .inl hu, ih.2 ⟨k, Nat.le_of_succ_le_succ hk, hv⟩⟩

theorem times_none (lo : Nat) : A.times lo none = (A.pow lo).seq A.star := by
  apply ext
  intro p w q
  refine ⟨fun h => ?_, fun h => ?_⟩
  · obtain ⟨n, hlo, _, h⟩ := h
    obtain ⟨k, rfl⟩ := Nat.exists_eq_add_of_le hlo
    rw [pow_add] at h
    obtain ⟨u, v, hw, hu, hv⟩ := h
    exact ⟨u, v, hw, hu, k, hv⟩
  · obtain ⟨u, v, hw, hu, k, hv⟩ := h
    refine ⟨lo + k, Nat.le_add_right lo k, fun m hm => (by cases hm), ?_⟩
    rw [pow_add]
    exact ⟨u, v, hw, hu, hv⟩

theorem times_some {lo hi : Nat} (h : lo ≤ hi) :
    A.times lo (some hi) = (A.pow lo).seq ((A.alt unit).pow (hi - lo)) := by
  apply ext
  intro p w q
  refine ⟨fun h => ?_, fun h => ?_⟩
  · obtain ⟨n, hlo, hn, h⟩ := h
    obtain ⟨k, rfl⟩ := Nat.exists_eq_add_of_le hlo
    have := hn hi rfl
    rw [pow_add] at h
    obtain ⟨u, v, hw, hu, hv⟩ := h
    exact ⟨u, v, hw, hu, (A.pow_alt_unit_iff _).2 ⟨k, by omega, hv⟩⟩
  · obtain ⟨u, v, hw, hu, hv⟩ := h
    obtain ⟨k, hk, hv⟩ := (A.pow_alt_unit_iff _).1 hv
    refine ⟨lo + k, Nat.le_add_right lo k, fun m hm => ?_, ?_⟩
    · cases hm; omega
    · rw [pow_add]
      exact ⟨u, v, hw, hu, hv⟩

theorem not_times_of_lt {lo hi : Nat} (h : hi < lo) (p : Option Char) (w : List Char) (q : Option Char) :
    ¬ A.times lo (some hi) p w q := by
  rintro ⟨n, hlo, hn, _⟩
  have := hn hi rfl
  omega

theorem star_nil (p q : Option Char) : A.star p [] q := ⟨0, rfl⟩

/-- A row of stretches that holds a character has a first stretch that does; the empty ones before
it can be left out. -/
theorem star_cons_iff {p q : Option Char} {c : Char} {w : List Char} :
    A.star p (c :: w) q ↔
      ∃ u v, w = u ++ v ∧ A p (c :: u) (v.head?.or q) ∧ A.star (u.getLast?.or (some c)) v q := by
  refine ⟨fun h => ?_, fun h => ?_⟩
  · obtain ⟨n, h⟩ := h
    induction n with
    | zero => cases h
    | succ n ih =>
      rcases (seq_cons_iff A (A.pow n)).1 h with ⟨_, hn⟩ | ⟨u, v, hw, hu, hv⟩
      · exact ih hn
      · exact ⟨u, v, hw, hu, n, hv⟩
  · obtain ⟨u, v, hw, hu, n, hv⟩ := h
    exact ⟨n + 1, (seq_cons_iff A (A.pow n)).2 (.inr ⟨u, v, hw, hu, hv⟩)⟩

end

end Stretches

open Stretches

/-! ### What compound expressions match -/

theorem matches_empty : Matches .empty = unit := by
  apply ext
  intro p w q
  refine ⟨fun h => ?_, fun h => ?_⟩
  · cases h; rfl
  · obtain rfl := h
    exact .empty

theorem matches_look (k : Look) : Matches (.look k) = fun p w q => w = [] ∧ k.holds p q = true := by
  apply ext
  intro p w q
  refine ⟨fun h => ?_, fun h => ?_⟩
  · cases h with | look hk => exact ⟨rfl, hk⟩
  · obtain ⟨rfl, hk⟩ := h
    exact .look hk

theorem matches_chars (s : CharSet) :
    Matches (.chars s) = fun _ w _ => ∃ c, w = [c] ∧ s.contains c = true := by
  apply ext
  intro p w q
  refine ⟨fun h => ?_, fun h => ?_⟩
  · cases h with | chars hc => exact ⟨_, rfl, hc⟩
  · obtain ⟨c, rfl, hc⟩ := h
    exact .chars hc

theorem matches_group (a : Expr) : Matches (.group a) = Matches a := by
  apply ext
  intro p w q
  constructor
  · intro h; cases h with | group h => exact h
  · exact .group

theorem matches_cat (a b : Expr) : Matches (.cat a b) = seq (Matches a) (Matches b) := by
  apply ext
  intro p w q
  refine ⟨fun h => ?_, fun h => ?_⟩
  · cases h with | cat hu hv => exact ⟨_, _, rfl, hu, hv⟩
  · obtain ⟨u, v, rfl, hu, hv⟩ := h
    exact .cat hu hv

theorem matches_alt (a b : Expr) : Matches (.alt a b) = alt (Matches a) (Matches b) := by
  apply ext
  intro p w q
  refine ⟨fun h => ?_, fun h => ?_⟩
  · cases h with
    | altLeft h => exact .inl h
    | altRight h => exact .inr h
  · rcases h with h | h
    · exact .altLeft h
    · exact .altRight h

theorem times_of_matches {e : Expr} {p q : Option Char} {w : List Char} (h : Matches e p w q) :
    ∀ a lo hi, e = .times a lo hi → times (Matches a) lo hi p w q := by
  -- the repetition is generalized to any expression that equals it, as the relation is indexed by expressions
  induction h with
  | none =>
    intro a lo hi he
    cases he
    exact ⟨0, Nat.le_refl 0, fun m _ => Nat.zero_le m, rfl⟩
  | @more a lo hi u v p q hhi hu _ _ ih =>
    intro a' lo' hi' he
    cases he
    obtain ⟨n, hlo, hn, hpow⟩ := ih a (lo - 1) (hi.map (· - 1)) rfl
    refine ⟨n + 1, by omega, fun m hm => ?_, u, v, rfl, hu, hpow⟩
    subst hm
    have := hn (m - 1) rfl
    have : m ≠ 0 := fun h0 => hhi (by rw [h0])
    omega
  | empty => intro a lo hi he; cases he
  | look _ => intro a lo hi he; cases he
  | chars _ => intro a lo hi he; cases he
  | group _ _ => intro a lo hi he; cases he
  | cat _ _ _ _ => intro a lo hi he; cases he
  | altLeft _ _ => intro a lo hi he; cases he
  | altRight _ _ => intro a lo hi he; cases he

theorem matches_of_pow {a : Expr} {n : Nat} : ∀ {lo : Nat} {hi : Option Nat} {p q : Option Char} {w : List Char},
    lo ≤ n → (∀ m, hi = some m → n ≤ m) → pow (Matches a) n p w q → Matches (.times a lo hi) p w q := by
  induction n with
  | zero =>
    intro lo hi p q w hlo _ h
    obtain rfl : lo = 0 := Nat.le_zero.1 hlo
    cases h
    exact .none
  | succ n ih =>
    rintro lo hi p q w hlo hn ⟨u, v, rfl, hu, hv⟩
    have hhi : hi ≠ some 0 := fun h0 => absurd (hn 0 h0) (Nat.not_succ_le_zero n)
    refine .more hhi hu (ih (by omega) (fun m hm => ?_) hv)
    cases hi with
    | none => cases hm
    | some k =>
      cases hm
      have := hn k rfl
      show n ≤ k - 1
      omega

theorem matches_times (a : Expr) (lo : Nat) (hi : Option Nat) :
    Matches (.times a lo hi) = times (Matches a) lo hi := by
  apply ext
  intro p w q
  refine ⟨fun h => ?_, fun h => ?_⟩
  · exact times_of_matches h a lo hi rfl
  · obtain ⟨n, hlo, hn, h⟩ := h
    exact matches_of_pow hlo hn h

/-! ## The search finds what the relation says -/

namespace Marked

/-- What the expression matches, whatever its marks. -/
def whole : Marked → Stretches
  | empty => unit
  | look k => fun p w q => w = [] ∧ k.holds p q = true
  | chars s _ => fun _ w _ => ∃ c, w = [c] ∧ s.contains c = true
  | cat a b => seq a.whole b.whole
  | .alt a b => Stretches.alt a.whole b.whole
  | star a => Stretches.star a.whole

/-- What completes a match in progress. -/
def ahead : Marked → Stretches
  | empty => fun _ _ _ => False
  | look _ => fun _ _ _ => False
  | chars _ mark => fun _ w _ => mark = true ∧ w = []
  | cat a b => Stretches.alt (seq a.ahead b.whole) b.ahead
  | .alt a b => Stretches.alt a.ahead b.ahead
  | star a => seq a.ahead (Stretches.star a.whole)

theorem nullable_iff (m : Marked) (p q : Option Char) : m.nullable p q = true ↔ m.whole p [] q := by
  induction m with
  | empty => simp [nullable, whole, unit]
  | look k => simp [nullable, whole]
  | chars s mark => simp [nullable, whole]
  | cat a b iha ihb =>
    simp only [nullable, whole, Bool.and_eq_true]
    rw [iha, ihb, seq_nil_iff]
  | alt a b iha ihb =>
    simp only [nullable, whole, Bool.or_eq_true, Stretches.alt]
    rw [iha, ihb]
  | star a _ =>
    simp only [nullable, whole, true_iff]
    exact star_nil _ p q

theorem final_iff (m : Marked) (p q : Option Char) : m.final p q = true ↔ m.ahead p [] q := by
  induction m with
  | empty => simp [final, ahead]
  | look k => simp [final, ahead]
  | chars s mark => simp [final, ahead]
  | cat a b iha ihb =>
    simp only [final, ahead, Bool.or_eq_true, Bool.and_eq_true, Stretches.alt]
    rw [iha, ihb, nullable_iff, seq_nil_iff]
  | alt a b iha ihb =>
    simp only [final, ahead, Bool.or_eq_true, Stretches.alt]
    rw [iha, ihb]
  | star a ih =>
    simp only [final, ahead]
    rw [ih, seq_nil_iff]
    exact (and_iff_left (star_nil _ p q)).symm

theorem whole_advance (m : Marked) (p : Option Char) (c : Char) (enter : Bool) :
    (m.advance p c enter).whole = m.whole := by
  induction m generalizing enter with
  | empty => rfl
  | look k => rfl
  | chars s mark => rfl
  | cat a b iha ihb => simp only [advance, whole, iha, ihb]
  | alt a b iha ihb => simp only [advance, whole, iha, ihb]
  | star a ih => simp only [advance, whole, ih]

/-- After a character, a match is in progress if one was before and goes on with the character, or if
one starts with it. -/
theorem ahead_advance_iff (m : Marked) (p : Option Char) (c : Char) (enter : Bool) (w : List Char)
    (q : Option Char) :
    (m.advance p c enter).ahead (some c) w q ↔
      m.ahead p (c :: w) q ∨ (enter = true ∧ m.whole p (c :: w) q) := by
  -- on the tree; `enter` varies because in a row and in a repetition the next part starts when one can end
  induction m generalizing enter w q with
  | empty => simp [advance, ahead, whole, unit]
  | look k => simp [advance, ahead, whole]
  | chars s mark =>
    simp only [advance, ahead, whole, Bool.and_eq_true, List.cons.injEq]
    refine ⟨fun h => ?_, fun h => ?_⟩
    · obtain ⟨⟨he, hc⟩, rfl⟩ := h
      exact .inr ⟨he, c, ⟨rfl, rfl⟩, hc⟩
    · rcases h with ⟨_, h⟩ | ⟨he, d, ⟨rfl, rfl⟩, hc⟩
      · cases h
      · exact ⟨⟨he, hc⟩, rfl⟩
  | alt a b iha ihb =>
    simp only [advance, ahead, whole, Stretches.alt]
    rw [iha, ihb]
    refine ⟨fun h => ?_, fun h => ?_⟩
    · rcases h with (h | ⟨he, h⟩) | (h | ⟨he, h⟩)
      · exact .inl (.inl h)
      · exact .inr ⟨he, .inl h⟩
      · exact .inl (.inr h)
      · exact .inr ⟨he, .inr h⟩
    · rcases h with (h | h) | ⟨he, h | h⟩
      · exact .inl (.inl h)
      · exact .inr (.inl h)
      · exact .inl (.inr ⟨he, h⟩)
      · exact .inr (.inr ⟨he, h⟩)
  | cat a b iha ihb =>
    simp only [advance, ahead, whole, Stretches.alt, whole_advance]
    rw [ihb, seq_cons_iff, seq_cons_iff]
    simp only [Bool.or_eq_true, Bool.and_eq_true, nullable_iff, final_iff]
    refine ⟨fun h => ?_, fun h => ?_⟩
    · rcases h with ⟨u, v, rfl, hu, hv⟩ | hb | ⟨⟨he, ha⟩ | ha, hb⟩
      · rcases (iha enter u (v.head?.or q)).1 hu with hu | ⟨he, hu⟩
        · exact .inl (.inl (.inr ⟨u, v, rfl, hu, hv⟩))
        · exact .inr ⟨he, .inr ⟨u, v, rfl, hu, hv⟩⟩
      · exact .inl (.inr hb)
      · exact .inr ⟨he, .inl ⟨ha, hb⟩⟩
      · exact .inl (.inl (.inl ⟨ha, hb⟩))
    · rcases h with ((⟨ha, hb⟩ | ⟨u, v, rfl, hu, hv⟩) | hb) | ⟨he, ⟨ha, hb⟩ | ⟨u, v, rfl, hu, hv⟩⟩
      · exact .inr (.inr ⟨.inr ha, hb⟩)
      · exact .inl ⟨u, v, rfl, (iha enter u _).2 (.inl hu), hv⟩
      · exact .inr (.inl hb)
      · exact .inr (.inr ⟨.inl ⟨he, ha⟩, hb⟩)
      · exact .inl ⟨u, v, rfl, (iha enter u _).2 (.inr ⟨he, hu⟩), hv⟩
  | star a ih =>
    simp only [advance, ahead, whole, whole_advance]
    rw [seq_cons_iff, star_cons_iff]
    refine ⟨fun h => ?_, fun h => ?_⟩
    · obtain ⟨u, v, rfl, hu, hv⟩ := h
      -- a round in progress goes on, or a new one starts: at the start of the match or after a finished round
      rcases (ih _ u (v.head?.or q)).1 hu with hu | ⟨he, hu⟩
      · exact .inl (.inr ⟨u, v, rfl, hu, hv⟩)
      · rw [Bool.or_eq_true] at he
        rcases he with he | ha
        · exact .inr ⟨he, u, v, rfl, hu, hv⟩
        · exact .inl (.inl ⟨(final_iff a p (some c)).1 ha, u, v, rfl, hu, hv⟩)
    · rcases h with (⟨ha, u, v, rfl, hu, hv⟩ | ⟨u, v, rfl, hu, hv⟩) | ⟨he, u, v, rfl, hu, hv⟩
      · have he : (enter || a.final p (some c)) = true := by
          rw [(final_iff a p (some c)).2 ha, Bool.or_true]
        exact ⟨u, v, rfl, (ih _ u _).2 (.inr ⟨he, hu⟩), hv⟩
      · exact ⟨u, v, rfl, (ih _ u _).2 (.inl hu), hv⟩
      · have he' : (enter || a.final p (some c)) = true := by rw [he, Bool.true_or]
        exact ⟨u, v, rfl, (ih _ u _).2 (.inr ⟨he', hu⟩), hv⟩

theorem scan_iff (m : Marked) (p : Option Char) (w : List Char) :
    m.scan p w = true ↔
      (∃ u v, w = u ++ v ∧ m.ahead p u v.head?) ∨
        ∃ t u v, w = t ++ u ++ v ∧ m.whole (t.getLast?.or p) u v.head? := by
  -- on the text; `m` varies since every character moves the marks
  induction w generalizing m p with
  | nil =>
    simp only [scan, Bool.or_eq_true, final_iff, nullable_iff]
    refine ⟨fun h => ?_, fun h => ?_⟩
    · rcases h with h | h
      · exact .inl ⟨[], [], rfl, h⟩
      · exact .inr ⟨[], [], [], rfl, h⟩
    · rcases h with ⟨u, v, h, ha⟩ | ⟨t, u, v, h, hw⟩
      · obtain ⟨rfl, rfl⟩ := List.append_eq_nil_iff.1 h.symm
        exact .inl ha
      · obtain ⟨htu, rfl⟩ := List.append_eq_nil_iff.1 h.symm
        obtain ⟨rfl, rfl⟩ := List.append_eq_nil_iff.1 htu
        exact .inr hw
  | cons c w ih =>
    simp only [scan, Bool.or_eq_true, final_iff, nullable_iff, ih, whole_advance, ahead_advance_iff, true_and]
    refine ⟨fun h => ?_, fun h => ?_⟩
    · rcases h with (h | h) | (⟨u, v, rfl, h | h⟩ | ⟨t, u, v, rfl, h⟩)
      · exact .inl ⟨[], c :: w, rfl, h⟩
      · exact .inr ⟨[], [], c :: w, rfl, h⟩
      · exact .inl ⟨c :: u, v, rfl, h⟩
      · exact .inr ⟨[], c :: u, v, rfl, h⟩
      · exact .inr ⟨c :: t, u, v, rfl, by rw [getLast?_cons_or]; exact h⟩
    · rcases h with ⟨u, v, h, ha⟩ | ⟨t, u, v, h, hw⟩
      · cases u with
        | nil =>
          rw [List.nil_append] at h
          subst h
          exact .inl (.inl ha)
        | cons d u =>
          injection h with hd h
          subst hd
          exact .inr (.inl ⟨u, v, h, .inl ha⟩)
      · cases t with
        | nil =>
          cases u with
          | nil =>
            rw [List.nil_append, List.nil_append] at h
            subst h
            exact .inl (.inr hw)
          | cons d u =>
            injection h with hd h
            subst hd
            exact .inr (.inl ⟨u, v, h, .inr hw⟩)
        | cons d t =>
          injection h with hd h
          subst hd
          rw [getLast?_cons_or] at hw
          exact .inr (.inr ⟨t, u, v, h, hw⟩)

/-! ### Expressions without marks -/

theorem whole_row (a : Marked) {depth n : Nat} (h : n ≤ depth) : (row a depth n).whole = pow a.whole n := by
  induction depth generalizing n with
  | zero =>
    obtain rfl : n = 0 := Nat.le_zero.1 h
    rfl
  | succ depth ih =>
    unfold row
    split
    · rename_i h0; subst h0; rfl
    · split
      · rename_i h1; subst h1; exact (pow_one _).symm
      · have hl : n / 2 ≤ depth := by omega
        have hr : n - n / 2 ≤ depth := by omega
        simp only [whole]
        rw [ih hl, ih hr, ← pow_add]
        congr 1
        omega

theorem whole_copies (a : Marked) (n : Nat) : (copies a n).whole = pow a.whole n :=
  whole_row a (Nat.le_refl n)

theorem whole_ofExpr (e : Expr) : (ofExpr e).whole = Matches e := by
  induction e with
  | empty => exact matches_empty.symm
  | look k => exact (matches_look k).symm
  | chars s => exact (matches_chars s).symm
  | group a ih => rw [matches_group, ← ih]; rfl
  | cat a b iha ihb => rw [matches_cat, ← iha, ← ihb]; rfl
  | alt a b iha ihb => rw [matches_alt, ← iha, ← ihb]; rfl
  | times a lo hi ih =>
    rw [matches_times, ← ih]
    cases hi with
    | none =>
      rw [times_none]
      simp only [ofExpr]
      split
      · rename_i h0
        subst h0
        exact (unit_seq _).symm
      · simp only [whole]
        rw [whole_copies]
    | some hi =>
      simp only [ofExpr]
      split
      -- no number of rounds is allowed, and a set without members stands for that
      · rename_i hlt
        apply Stretches.ext
        intro p w q
        refine iff_of_false ?_ (not_times_of_lt _ hlt p w q)
        rintro ⟨c, _, hc⟩
        cases hc
      · rename_i hge
        rw [times_some _ (Nat.le_of_not_lt hge)]
        split
        · rename_i heq
          subst heq
          rw [whole_copies, Nat.sub_self]
          exact (seq_unit _).symm
        · simp only [whole]
          rw [whole_copies, whole_copies]
          rfl

def Unmarked (m : Marked) : Prop := ∀ p w q, ¬ m.ahead p w q

theorem Unmarked.cat {a b : Marked} (ha : a.Unmarked) (hb : b.Unmarked) : (cat a b).Unmarked := by
  rintro p w q (⟨u, v, _, hu, _⟩ | h)
  · exact ha _ _ _ hu
  · exact hb _ _ _ h

theorem Unmarked.alt {a b : Marked} (ha : a.Unmarked) (hb : b.Unmarked) : (Marked.alt a b).Unmarked := by
  rintro p w q (h | h)
  · exact ha _ _ _ h
  · exact hb _ _ _ h

theorem Unmarked.star {a : Marked} (ha : a.Unmarked) : (Marked.star a).Unmarked := by
  rintro p w q ⟨u, v, _, hu, _⟩
  exact ha _ _ _ hu

theorem unmarked_empty : empty.Unmarked := fun _ _ _ h => h

theorem Unmarked.row {a : Marked} (ha : a.Unmarked) (depth n : Nat) : (row a depth n).Unmarked := by
  induction depth generalizing n with
  | zero => exact unmarked_empty
  | succ depth ih =>
    unfold Marked.row
    split
    · exact unmarked_empty
    · split
      · exact ha
      · exact (ih _).cat (ih _)

theorem unmarked_ofExpr (e : Expr) : (ofExpr e).Unmarked := by
  induction e with
  | empty => exact unmarked_empty
  | look k => exact fun _ _ _ h => h
  | chars s => exact fun _ _ _ h => Bool.false_ne_true h.1
  | group a ih => exact ih
  | cat a b iha ihb => exact iha.cat ihb
  | alt a b iha ihb => exact iha.alt ihb
  | times a lo hi ih =>
    cases hi with
    | none =>
      simp only [ofExpr]
      split
      · exact ih.star
      · exact (ih.row _ _).cat ih.star
    | some hi =>
      simp only [ofExpr]
      split
      · exact fun _ _ _ h => Bool.false_ne_true h.1
      · split
        · exact ih.row _ _
        · exact (ih.row _ _).cat ((ih.alt unmarked_empty).row _ _)

end Marked

/-- The search succeeds exactly where some stretch of the text matches. -/
theorem isFoundIn_iff_foundIn (e : Expr) (text : List Char) : e.isFoundIn text = true ↔ FoundIn e text := by
  unfold Expr.isFoundIn FoundIn
  rw [Marked.scan_iff, Marked.whole_ofExpr]
  simp only [Option.or_none]
  constructor
  · rintro (⟨u, v, _, h⟩ | h)
    · exact absurd h (Marked.unmarked_ofExpr e _ _ _)
    · exact h
  · exact .inr

/-! ### What patterns find -/

def Finds (ignoreCase : Bool) (source text : String) : Prop :=
  ∃ p, Pattern.compile ignoreCase source = .ok p ∧ p.isMatch text = true

theorem finds_iff {ignoreCase : Bool} {source : String} {p : Pattern}
    (h : Pattern.compile ignoreCase source = .ok p) (text : String) :
    Finds ignoreCase source text ↔ p.isMatch text = true := by
  refine ⟨fun hf => ?_, fun hm => ⟨p, h, hm⟩⟩
  obtain ⟨q, hq, hm⟩ := hf
  rw [h] at hq
  cases hq
  exact hm

end HookGate.Pattern
