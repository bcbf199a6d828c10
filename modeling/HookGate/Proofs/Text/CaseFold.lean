import HookGate.Pattern.Expr
import Mathlib.Data.List.Chain

/-!
# Case folding

The runs are in order and what they fold to lies in none of them. So a folding is
its own folding (`simpleFold_simpleFold`), `variants` has exactly the code points
with the same folding (`mem_variants_iff`), and a folded set holds what agrees up
to case with one of its members (`mem_folded_iff`).
-/

namespace HookGate.Text

/-! ## Runs in order -/

namespace FoldRun

def Before (r s : FoldRun) : Prop := r.first ≤ r.last ∧ r.last < s.first

instance (r s : FoldRun) : Decidable (r.Before s) := inferInstanceAs (Decidable (_ ∧ _))

instance : Trans Before Before Before where
  trans := by
    intro r s t h h'
    unfold Before at *
    omega

theorem fold?_eq_some_iff {r : FoldRun} {n f : Nat} :
    r.fold? n = some f ↔
      r.first ≤ n ∧ n ≤ r.last ∧ (n - r.first) % r.stride = 0 ∧ f = r.target + (n - r.first) := by
  unfold fold?
  by_cases h : r.first ≤ n ∧ n ≤ r.last ∧ (n - r.first) % r.stride = 0
  · rw [if_pos h, Option.some.injEq]
    exact ⟨fun hf => ⟨h.1, h.2.1, h.2.2, hf.symm⟩, fun hf => hf.2.2.2.symm⟩
  · rw [if_neg h]
    exact ⟨fun hf => (by cases hf), fun hf => absurd ⟨hf.1, hf.2.1, hf.2.2.1⟩ h⟩

theorem fold?_of_preimage? {r : FoldRun} (hr : r.first ≤ r.last) {n f : Nat} (h : r.preimage? f = some n) :
    r.fold? n = some f := by
  unfold preimage? at h
  split at h
  · rename_i hf
    cases h
    rw [fold?_eq_some_iff, Nat.add_sub_cancel_left]
    exact ⟨by omega, by omega, hf.2.2, by omega⟩
  · cases h

end FoldRun

/-- A folding is the code point itself, or some run says so. -/
theorem foldIn_eq_or_exists (n : Nat) (runs : List FoldRun) :
    foldIn n runs = n ∨ ∃ r ∈ runs, r.fold? n = some (foldIn n runs) := by
  induction runs with
  | nil => exact .inl rfl
  | cons r runs ih =>
    simp only [foldIn]
    by_cases hn : n < r.first
    · rw [if_pos hn]
      exact .inl rfl
    · rw [if_neg hn]
      cases hf : r.fold? n with
      | some f => exact .inr ⟨r, List.mem_cons_self .., hf⟩
      | none =>
        rcases ih with h | ⟨s, hs, h⟩
        · exact .inl h
        · exact .inr ⟨s, List.mem_cons_of_mem _ hs, h⟩

theorem foldIn_of_mem {runs : List FoldRun} (ho : runs.Pairwise FoldRun.Before) {r : FoldRun} (hr : r ∈ runs)
    {n f : Nat} (h : r.fold? n = some f) : foldIn n runs = f := by
  induction runs with
  | nil => cases hr
  | cons s runs ih =>
    obtain ⟨hs, ho⟩ := List.pairwise_cons.1 ho
    obtain ⟨hfirst, _, _, _⟩ := FoldRun.fold?_eq_some_iff.1 h
    simp only [foldIn]
    rcases List.mem_cons.1 hr with rfl | hr
    · rw [if_neg (Nat.not_lt.2 hfirst), h]
      rfl
    · obtain ⟨hle, hlast⟩ := hs r hr
      have hnone : s.fold? n = none := by
        unfold FoldRun.fold?
        exact if_neg (by omega)
      rw [if_neg (by omega), hnone]
      exact ih ho hr

/-! ## The runs do not reach each other -/

/-- No run covers a code point from `lo` to `hi`, or every second one from `lo` to `hi` if `step` is 2.
A run that goes by twos itself may lie between them. -/
def missed (lo hi step : Nat) : List FoldRun → Bool
  | [] => true
  | s :: runs =>
    Nat.blt hi s.first ||
      ((Nat.blt s.last lo || (s.stride == 2 && (step == 2 || lo == hi) && (lo + s.first) % 2 == 1)) &&
        missed lo hi step runs)

theorem foldIn_of_missed {lo hi step n : Nat} {runs : List FoldRun} (h : missed lo hi step runs = true)
    (hlo : lo ≤ n) (hhi : n ≤ hi) (hstep : (n - lo) % step = 0) : foldIn n runs = n := by
  induction runs with
  | nil => rfl
  | cons s runs ih =>
    simp only [missed, Bool.or_eq_true, Bool.and_eq_true, beq_iff_eq, Nat.blt_eq] at h
    simp only [foldIn]
    rcases h with hs | h
    · rw [if_pos (by omega)]
    · have hnone : s.first ≤ n → s.fold? n = none := by
        intro hn
        unfold FoldRun.fold?
        refine if_neg fun hc => ?_
        -- a run by twos may pass, since it has the other parity
        rcases h.1 with hlast | ⟨⟨hstride, hone⟩, hodd⟩
        · omega
        · have hc := hc.2.2
          rw [hstride] at hc
          rcases hone with hone | hone
          · rw [hone] at hstep
            omega
          · omega
      by_cases hn : n < s.first
      · rw [if_pos hn]
      · rw [if_neg hn, hnone (Nat.le_of_not_lt hn)]
        exact ih h.2

/-- The runs are in order, none is empty, and what they fold to lies in none of them. -/
def Sound (runs : List FoldRun) : Prop :=
  runs.IsChain FoldRun.Before ∧ (∀ r ∈ runs, r.first ≤ r.last) ∧
    (runs.all fun r => missed r.target (r.target + (r.last - r.first)) r.stride runs) = true

instance (runs : List FoldRun) : Decidable (Sound runs) := inferInstanceAs (Decidable (_ ∧ _ ∧ _))

theorem sound_foldRuns : Sound foldRuns := by decide +kernel

theorem simpleFold_of_fold? {r : FoldRun} (hr : r ∈ foldRuns) {n f : Nat} (h : r.fold? n = some f) :
    simpleFold n = f :=
  foldIn_of_mem sound_foldRuns.1.pairwise hr h

theorem simpleFold_simpleFold (n : Nat) : simpleFold (simpleFold n) = simpleFold n := by
  rcases foldIn_eq_or_exists n foldRuns with h | ⟨r, hr, h⟩
  · unfold simpleFold
    rw [h, h]
  · have hmissed := List.all_eq_true.1 sound_foldRuns.2.2 r hr
    obtain ⟨hfirst, hlast, hstride, hf⟩ := FoldRun.fold?_eq_some_iff.1 h
    show foldIn (foldIn n foldRuns) foldRuns = foldIn n foldRuns
    refine foldIn_of_missed hmissed (by omega) (by omega) ?_
    rw [hf, Nat.add_sub_cancel_left]
    exact hstride

theorem mem_variants_iff {m n : Nat} : m ∈ variants n ↔ simpleFold m = simpleFold n := by
  unfold variants
  simp only [List.mem_cons, List.mem_filterMap]
  refine ⟨fun h => ?_, fun h => ?_⟩
  · rcases h with rfl | rfl | ⟨r, hr, h⟩
    · rfl
    · exact simpleFold_simpleFold n
    · exact simpleFold_of_fold? hr (FoldRun.fold?_of_preimage? (sound_foldRuns.2.1 r hr) h)
  · rcases foldIn_eq_or_exists m foldRuns with hm | ⟨r, hr, hm⟩
    · have hm : simpleFold m = m := hm
      exact .inr (.inl (by rw [← h, hm]))
    · have hm : r.fold? m = some (simpleFold m) := hm
      rw [h] at hm
      exact .inr (.inr ⟨r, hr, FoldRun.preimage?_of_fold? hm⟩)

theorem foldEq_iff_mem_variants {c d : Char} : FoldEq c d ↔ c.toNat ∈ variants d.toNat :=
  mem_variants_iff.symm

theorem foldEq_iff_eq {c d : Char} (hd : variants d.toNat = [d.toNat, d.toNat]) : FoldEq c d ↔ c = d := by
  rw [foldEq_iff_mem_variants, hd, ← Char.toNat_inj]
  simp only [List.mem_cons, List.not_mem_nil, or_false, or_self]

theorem variants_lower :
    ∀ k < 26, variants (0x61 + k) = (0x61 + k) :: (0x61 + k) :: (0x41 + k) ::
      (if k = 0xA then [0x212A] else if k = 0x12 then [0x17F] else []) := by decide +kernel

/-- A small letter agrees with itself and its capital, `k` also with the Kelvin sign and `s` with the
long s. -/
theorem foldEq_lower_iff {c d : Char} (hd : 'a' ≤ d ∧ d ≤ 'z') :
    FoldEq c d ↔ c = d ∨ c.toNat + 0x20 = d.toNat ∨ (c = '\u212a' ∧ d = 'k') ∨ (c = '\u017f' ∧ d = 's') := by
  have hlo : 0x61 ≤ d.toNat := hd.1
  have hhi : d.toNat ≤ 0x7A := hd.2
  obtain ⟨k, hk⟩ := Nat.exists_eq_add_of_le hlo
  rw [foldEq_iff_mem_variants, hk, variants_lower k (by omega)]
  simp only [← Char.toNat_inj, hk]
  show _ ↔ _ ∨ _ ∨ (_ = 0x212A ∧ _ = 0x6B) ∨ (_ = 0x17F ∧ _ = 0x73)
  split
  · simp only [List.mem_cons, List.not_mem_nil, or_false]
    omega
  · split
    · simp only [List.mem_cons, List.not_mem_nil, or_false]
      omega
    · simp only [List.mem_cons, List.not_mem_nil, or_false]
      omega

end HookGate.Text

namespace HookGate.Pattern.CharSet

open Text

theorem mem_folded_iff {a : CharSet} {n : Nat} :
    (folded a).mem n = true ↔ ∃ m, simpleFold m = simpleFold n ∧ a.mem m = true := by
  simp only [mem, List.any_eq_true, mem_variants_iff]

theorem mem_single_iff {d : Char} {n : Nat} : (single d).mem n = true ↔ n = d.toNat := by
  simp only [single, interval, mem, inRanges]
  split
  · exact iff_of_false Bool.false_ne_true (by omega)
  · split
    · exact iff_of_true rfl (by omega)
    · exact iff_of_false Bool.false_ne_true (by omega)

theorem contains_folded_union (a b : CharSet) (c : Char) :
    (folded (union a b)).contains c = ((folded a).contains c || (folded b).contains c) := by
  rw [Bool.eq_iff_iff, Bool.or_eq_true]
  simp only [contains, mem, List.any_eq_true, Bool.or_eq_true, and_or_left, exists_or]

theorem contains_folded_single_iff {c d : Char} : (folded (single d)).contains c = true ↔ FoldEq c d := by
  unfold contains FoldEq
  simp only [mem_folded_iff, mem_single_iff]
  exact ⟨fun ⟨m, hm, hd⟩ => (by rw [← hd, hm]), fun h => ⟨d.toNat, h.symm, rfl⟩⟩

end HookGate.Pattern.CharSet
