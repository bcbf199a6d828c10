import HookGate.Proofs.HiddenCommand
import Mathlib.Data.List.Find

/-!
# The case of paths

Path patterns ignore case. Unless a pattern switches that off itself, it looks at a
path as if all ASCII letters of it were small, and so do the content rules, once the path has
the suffix (`checkContent_anyCase`).
-/

namespace HookGate.Text

/-!
## Letter case

Where a pattern ignores case, a set is folded before it is negated, and so holds an
ASCII letter in both cases or in neither. The sets that are not folded, the dot and the
classes with an escape of one letter, are of that kind anyhow (`Tree.isCaseless_toExpr`).
An expression of such sets is found in a text whatever the case of its letters
(`FoundIn.anyCase`).
-/

def SameButCase (u v : List Char) : Prop := u.map Char.toLower = v.map Char.toLower

instance (u v : List Char) : Decidable (SameButCase u v) := inferInstanceAs (Decidable (_ = _))

namespace SameButCase
variable {u v w : List Char}

theorem symm (h : SameButCase u v) : SameButCase v u := Eq.symm h

theorem append (h : SameButCase (u ++ v) w) : ∃ u' v', w = u' ++ v' ∧ SameButCase u u' ∧ SameButCase v v' := by
  unfold SameButCase at h
  rw [List.map_append] at h
  obtain ⟨u', v', rfl, hu, hv⟩ := List.map_eq_append_iff.1 h.symm
  exact ⟨u', v', rfl, hu.symm, hv.symm⟩

variable {p q : Option Char} (h : SameButCase u v) (hpq : p.map Char.toLower = q.map Char.toLower)
include h hpq

theorem head?_or : (u.head?.or p).map Char.toLower = (v.head?.or q).map Char.toLower := by
  rw [Option.map_or, Option.map_or, ← List.head?_map, ← List.head?_map, h, hpq]

theorem getLast?_or : (u.getLast?.or p).map Char.toLower = (v.getLast?.or q).map Char.toLower := by
  rw [Option.map_or, Option.map_or, ← List.getLast?_map, ← List.getLast?_map, h, hpq]

end SameButCase

theorem toNat_toLower (c : Char) :
    c.toLower.toNat = if 0x41 ≤ c.toNat ∧ c.toNat ≤ 0x5A then c.toNat + 0x20 else c.toNat := by
  unfold Char.toLower
  by_cases h : c.val ≥ 'A'.val ∧ c.val ≤ 'Z'.val
  · have hlo : 0x41 ≤ c.toNat := h.1
    have hhi : c.toNat ≤ 0x5A := h.2
    rw [dif_pos h, if_pos ⟨hlo, hhi⟩]
    show (c.toNat + 0x20) % 2 ^ 32 = c.toNat + 0x20
    exact Nat.mod_eq_of_lt (by omega)
  · have hn : ¬ (0x41 ≤ c.toNat ∧ c.toNat ≤ 0x5A) := h
    rw [if_neg hn]
    exact congrArg Char.toNat (dif_neg h)

theorem toLower_beq {c d : Char} (hd : d.toNat < 0x41) : (c.toLower == d) = (c == d) := by
  rw [Bool.eq_iff_iff, beq_iff_eq, beq_iff_eq, ← Char.toNat_inj, ← Char.toNat_inj, toNat_toLower]
  split
  · omega
  · rfl

theorem foldEq_toLower (c : Char) : FoldEq c.toLower c := by
  have h := toNat_toLower c
  by_cases hc : 0x41 ≤ c.toNat ∧ c.toNat ≤ 0x5A
  · rw [if_pos hc] at h
    have hd : 'a' ≤ c.toLower ∧ c.toLower ≤ 'z' := by
      have hlo : 0x61 ≤ c.toLower.toNat := by omega
      have hhi : c.toLower.toNat ≤ 0x7A := by omega
      exact ⟨hlo, hhi⟩
    exact ((foldEq_lower_iff hd).2 (.inr (.inl h.symm))).symm
  · rw [if_neg hc] at h
    rw [Char.toNat_inj.1 h]
    exact FoldEq.refl c

end HookGate.Text

namespace HookGate.Pattern

open Text

/-! ### Sets -/

namespace CharSet

/-- The set holds an ASCII letter in both cases or in neither. -/
def IsCaseless (s : CharSet) : Prop := ∀ c : Char, s.contains c.toLower = s.contains c

theorem isCaseless_folded (s : CharSet) : (folded s).IsCaseless := by
  intro c
  have h : simpleFold c.toLower.toNat = simpleFold c.toNat := foldEq_toLower c
  unfold contains
  rw [Bool.eq_iff_iff, mem_folded_iff, mem_folded_iff, h]

theorem IsCaseless.compl {s : CharSet} (h : s.IsCaseless) : (CharSet.compl s).IsCaseless := by
  intro c
  simp [h c]

def pairsLetters (table : List (Nat × Nat)) : Bool :=
  (List.range 26).all fun k => inRanges (0x61 + k) table == inRanges (0x41 + k) table

theorem isCaseless_ranges {table : List (Nat × Nat)} (h : pairsLetters table = true) :
    (ranges table).IsCaseless := by
  intro c
  simp only [contains, mem, toNat_toLower]
  by_cases hc : 0x41 ≤ c.toNat ∧ c.toNat ≤ 0x5A
  · have hpair := List.all_eq_true.1 h (c.toNat - 0x41) (List.mem_range.2 (by omega))
    have hlower : 0x61 + (c.toNat - 0x41) = c.toNat + 0x20 := by omega
    have hupper : 0x41 + (c.toNat - 0x41) = c.toNat := by omega
    rw [hlower, hupper, beq_iff_eq] at hpair
    rw [if_pos hc, hpair]
  · rw [if_neg hc]

end CharSet

theorem pairsLetters_table (k : ShortClass) : CharSet.pairsLetters k.table = true := by
  cases k <;> decide

theorem isWord_toLower (a : Alphabet) (c : Char) : a.isWord c.toLower = a.isWord c := by
  cases a with
  | unicode => exact CharSet.isCaseless_ranges (pairsLetters_table .word) c
  | ascii =>
    have hascii : CharSet.pairsLetters asciiWordRanges = true := by decide
    exact CharSet.isCaseless_ranges hascii c

/-! ### Matches -/

def Expr.IsCaseless : Expr → Prop
  | .empty => True
  | .look _ => True
  | .chars s => s.IsCaseless
  | .group a => a.IsCaseless
  | .cat a b => a.IsCaseless ∧ b.IsCaseless
  | .alt a b => a.IsCaseless ∧ b.IsCaseless
  | .times a _ _ => a.IsCaseless

/-- An assertion asks whether a neighbour ends a line or is part of a word, which case does not change. -/
theorem Look.holds_map_toLower (k : Look) (p q : Option Char) :
    k.holds (p.map Char.toLower) (q.map Char.toLower) = k.holds p q := by
  have hbeside (a : Alphabet) (r : Option Char) : a.beside (r.map Char.toLower) = a.beside r := by
    cases r with
    | none => rfl
    | some c => exact isWord_toLower a c
  have hline (c : Char) : (c.toLower == '\n') = (c == '\n') := toLower_beq (by decide)
  have hreturn (c : Char) : (c.toLower == '\r') = (c == '\r') := toLower_beq (by decide)
  cases k with
  | textStart => cases p <;> rfl
  | textEnd => cases q <;> rfl
  | lineStart => cases p <;> simp [Look.holds, hline]
  | lineEnd => cases q <;> simp [Look.holds, hline]
  | crlfStart => cases p <;> cases q <;> simp [Look.holds, hline, hreturn, bne]
  | crlfEnd => cases p <;> cases q <;> simp [Look.holds, hline, hreturn, bne]
  | wordBoundary a | notWordBoundary a | wordStart a | wordEnd a => simp only [Look.holds, hbeside]
  | wordStartHalf a | wordEndHalf a => simp only [Look.holds, hbeside]

theorem Look.holds_of_sameCase {k : Look} {p p' q q' : Option Char} (h : k.holds p q = true)
    (hp : p.map Char.toLower = p'.map Char.toLower) (hq : q.map Char.toLower = q'.map Char.toLower) :
    k.holds p' q' = true := by
  rw [← holds_map_toLower, ← hp, ← hq, holds_map_toLower]
  exact h

/-- Stretches whose texts and neighbours differ only in case match alike. The text is split where it was
split in the other case. -/
theorem Matches.anyCase {e : Expr} (he : e.IsCaseless) {p q : Option Char} {w : List Char} (h : Matches e p w q)
    {p' q' : Option Char} {w' : List Char} (hp : p.map Char.toLower = p'.map Char.toLower)
    (hw : SameButCase w w') (hq : q.map Char.toLower = q'.map Char.toLower) : Matches e p' w' q' := by
  -- the other text is split where this one is, and each end of a part is a neighbour of the next
  induction h generalizing p' w' q' with
  | empty =>
    obtain rfl : w' = [] := List.map_eq_nil_iff.1 hw.symm
    exact .empty
  | look hk =>
    obtain rfl : w' = [] := List.map_eq_nil_iff.1 hw.symm
    exact .look (Look.holds_of_sameCase hk hp hq)
  | chars hc =>
    obtain ⟨d, rfl, hd⟩ := List.map_eq_singleton_iff.1 hw.symm
    refine .chars ?_
    rw [← he d, hd, he, hc]
  | group _ ih => exact .group (ih he hp hw hq)
  | cat _ _ ihu ihv =>
    obtain ⟨u', v', rfl, hu, hv⟩ := hw.append
    exact .cat (ihu he.1 hp hu (hv.head?_or hq)) (ihv he.2 (hu.getLast?_or hp) hv hq)
  | altLeft _ ih => exact .altLeft (ih he.1 hp hw hq)
  | altRight _ ih => exact .altRight (ih he.2 hp hw hq)
  | none =>
    obtain rfl : w' = [] := List.map_eq_nil_iff.1 hw.symm
    exact .none
  | more hhi _ _ ihu ihv =>
    obtain ⟨u', v', rfl, hu, hv⟩ := hw.append
    exact .more hhi (ihu he hp hu (hv.head?_or hq)) (ihv he (hu.getLast?_or hp) hv hq)

theorem FoundIn.anyCase {e : Expr} (he : e.IsCaseless) {text text' : List Char} (h : FoundIn e text)
    (ht : SameButCase text text') : FoundIn e text' := by
  obtain ⟨u, m, v, rfl, hm⟩ := h
  obtain ⟨um, v', rfl, hum, hv⟩ := ht.append
  obtain ⟨u', m', rfl, hu, hm'⟩ := hum.append
  have hleft : u.getLast?.map Char.toLower = u'.getLast?.map Char.toLower := by
    simpa using hu.getLast?_or (p := none) rfl
  have hright : v.head?.map Char.toLower = v'.head?.map Char.toLower := by
    simpa using hv.head?_or (p := none) rfl
  exact ⟨u', m', v', rfl, hm.anyCase he hleft hm' hright⟩

/-! ### Patterns that ignore case -/

theorem Expr.isCaseless_repeated {e : Expr} (h : e.IsCaseless) (lo : Nat) (hi : Option Nat) :
    (e.repeated lo hi).IsCaseless := by
  unfold Expr.repeated
  split
  · exact h
  · exact h

namespace Flags
variable {f : Flags} {s : CharSet} (hu : f.unicode = true)
include hu

theorem isCaseless_negate {n : Bool} {a : CharSet} (ha : a.IsCaseless) (h : f.negate n a = .ok s) :
    s.IsCaseless := by
  unfold negate at h
  rw [hu] at h
  cases n with
  | false => cases h; exact ha
  | true => cases h; exact ha.compl

theorem isCaseless_short {k : ShortClass} {n : Bool} (h : f.short k n = .ok s) : s.IsCaseless := by
  unfold short at h
  rw [if_pos hu] at h
  exact isCaseless_negate hu (CharSet.isCaseless_ranges (pairsLetters_table k)) h

theorem isCaseless_dot (h : f.dot = .ok s) : s.IsCaseless := by
  have hnone : CharSet.empty.IsCaseless := CharSet.isCaseless_ranges (by decide)
  have hends : (CharSet.ranges [(0xA, 0xA), (0xD, 0xD)]).IsCaseless := CharSet.isCaseless_ranges (by decide)
  have hend : (CharSet.single '\n').IsCaseless := CharSet.isCaseless_ranges (by decide)
  unfold dot at h
  rw [hu] at h
  cases hall : f.dotAll with
  | true => rw [hall] at h; cases h; exact hnone.compl
  | false =>
    cases hcrlf : f.crlf with
    | true => rw [hall, hcrlf] at h; cases h; exact hends.compl
    | false => rw [hall, hcrlf] at h; cases h; exact hend.compl

variable (hi : f.ignoreCase = true)
include hi

theorem isCaseless_fold (a : CharSet) : (f.fold a).IsCaseless := by
  unfold fold
  rw [if_pos hi, if_pos hu]
  exact CharSet.isCaseless_folded a

theorem isCaseless_literal {l : Literal} (h : f.literal l = .ok s) : s.IsCaseless := by
  unfold literal at h
  rw [hu] at h
  cases h
  exact isCaseless_fold hu hi _

/-- The complement is taken of what is folded already, so it has both cases of a letter or neither. -/
theorem isCaseless_foldNegate {n : Bool} {a : CharSet} (h : f.foldNegate n a = .ok s) : s.IsCaseless :=
  isCaseless_negate hu (isCaseless_fold hu hi a) h

theorem isCaseless_property {q : PropertyQuery} {n : Bool} (h : f.property q n = .ok s) : s.IsCaseless := by
  unfold property at h
  rw [if_pos hu] at h
  cases hq : q.lists? with
  | none => rw [hq] at h; cases h
  | some lists => rw [hq] at h; exact isCaseless_foldNegate hu hi h

end Flags

/-- Whatever a tree is made of, all sets of its expression are closed under case, as long as no part of it
switches flags. What a bracket holds does not matter, since the bracket as a whole is folded. -/
theorem Tree.isCaseless_toExpr {t : Tree} (ht : t.isFlagFree = true) {f g : Flags} (hu : f.unicode = true)
    (hi : f.ignoreCase = true) {e : Expr} (h : t.toExpr f = .ok (e, g)) : e.IsCaseless ∧ g = f := by
  induction t generalizing g e with
  | empty => cases h; exact ⟨trivial, rfl⟩
  | assertion k => cases h; exact ⟨trivial, rfl⟩
  | setFlags change => cases ht
  | char l =>
    obtain ⟨s, hs, h⟩ := bind_eq_ok_iff.1 h
    cases h
    exact ⟨Flags.isCaseless_literal hu hi hs, rfl⟩
  | dot =>
    obtain ⟨s, hs, h⟩ := bind_eq_ok_iff.1 h
    cases h
    exact ⟨Flags.isCaseless_dot hu hs, rfl⟩
  | short k n =>
    obtain ⟨s, hs, h⟩ := bind_eq_ok_iff.1 h
    cases h
    exact ⟨Flags.isCaseless_short hu hs, rfl⟩
  | property q n =>
    obtain ⟨s, hs, h⟩ := bind_eq_ok_iff.1 h
    cases h
    exact ⟨Flags.isCaseless_property hu hi hs, rfl⟩
  | bracket n inner =>
    obtain ⟨_, _, h⟩ := bind_eq_ok_iff.1 h
    obtain ⟨s, hs, h⟩ := bind_eq_ok_iff.1 h
    cases h
    exact ⟨Flags.isCaseless_foldNegate hu hi hs, rfl⟩
  | group t ih =>
    obtain ⟨d, hd, h⟩ := bind_eq_ok_iff.1 h
    cases h
    exact ⟨(ih ht hd).1, rfl⟩
  | flagged change t ih =>
    rw [isFlagFree, Bool.and_eq_true, List.isEmpty_iff] at ht
    obtain ⟨rfl, ht⟩ := ht
    obtain ⟨d, hd, h⟩ := bind_eq_ok_iff.1 h
    cases h
    exact ⟨(ih ht hd).1, rfl⟩
  | times t lo hi ih =>
    obtain ⟨d, hd, h⟩ := bind_eq_ok_iff.1 h
    cases h
    obtain ⟨he, hg⟩ := ih ht hd
    exact ⟨Expr.isCaseless_repeated he lo hi, hg⟩
  -- the flags of the first part reach the second unchanged, so both hypotheses are about `f`
  | cat a b iha ihb | alt a b iha ihb =>
    rw [isFlagFree, Bool.and_eq_true] at ht
    obtain ⟨⟨d, f'⟩, hd, h⟩ := bind_eq_ok_iff.1 h
    obtain ⟨⟨d', f''⟩, hd', h⟩ := bind_eq_ok_iff.1 h
    cases h
    obtain ⟨ha, rfl⟩ := iha ht.1 hd
    obtain ⟨hb, hg⟩ := ihb ht.2 hd'
    exact ⟨⟨ha, hb⟩, hg⟩

theorem isCaseless_of_compile {source : String} {p : Pattern} (h : Pattern.compile true source = .ok p)
    {t : Tree} (hr : Tree.read source.toList = .ok t) (ht : t.isFlagFree = true) : p.expr.IsCaseless := by
  obtain ⟨t', f, hr', he⟩ := exists_tree_of_compile h
  rw [hr] at hr'
  cases hr'
  exact (Tree.isCaseless_toExpr ht rfl rfl he).1

end HookGate.Pattern

/-! ## The case of paths -/

namespace HookGate

open Pattern Text

/-- The path pattern can be read, and no part of it changes flags. -/
def ContentRule.isPathFlagFree (rule : ContentRule) : Bool :=
  match Tree.read rule.path.toList with
  | .ok t => t.isFlagFree
  | .error _ => false

namespace RuleSet

/-- The content rules are compiled from rules of that kind. -/
def PathsFlagFree (s : RuleSet) : Prop :=
  ∀ g ∈ s.content, ∃ rule : ContentRule, rule.compile = .ok g ∧ rule.isPathFlagFree = true

theorem pathsFlagFree_of_compile {governedSuffix : String} {content : List ContentRule}
    {commands : List CommandRule} {s : RuleSet} (h : compile governedSuffix content commands = .ok s)
    (hc : ∀ rule ∈ content, rule.isPathFlagFree = true) : s.PathsFlagFree := by
  obtain ⟨-, hcompiled, -⟩ := compile_eq_ok_iff.1 h
  intro g hg
  obtain ⟨rule, hm, hr⟩ := exists_of_forall₂ hcompiled hg
  exact ⟨rule, hr, hc rule hm⟩

theorem pathsFlagFree_builtin : builtin.PathsFlagFree := by
  have hall : ContentRule.builtin.all (·.isPathFlagFree) = true := by decide +kernel
  exact pathsFlagFree_of_compile compile_builtin (List.all_eq_true.1 hall)

section
variable {s : RuleSet} (hs : s.PathsFlagFree) {path path' : String}
include hs

theorem isCaseless_of_mem {g : ContentGuard} (hg : g ∈ s.content) : g.path.expr.IsCaseless := by
  obtain ⟨rule, hc, hf⟩ := hs g hg
  obtain ⟨-, hpath, -⟩ := ContentRule.compile_eq_ok_iff.1 hc
  unfold ContentRule.isPathFlagFree at hf
  cases hr : Tree.read rule.path.toList with
  | error f => rw [hr] at hf; cases hf
  | ok t =>
    rw [hr] at hf
    exact isCaseless_of_compile hpath hr hf

theorem fires_anyCase {g : ContentGuard} (hg : g ∈ s.content)
    (hp : SameButCase path.toList path'.toList) (text : String) : g.fires path text = g.fires path' text := by
  have hcaseless := isCaseless_of_mem hs hg
  rw [Bool.eq_iff_iff, g.fires_iff_matches, g.fires_iff_matches]
  constructor
  · rintro ⟨hpath, htext⟩
    exact ⟨hpath.anyCase hcaseless hp, htext⟩
  · rintro ⟨hpath, htext⟩
    exact ⟨hpath.anyCase hcaseless hp.symm, htext⟩

end

/-- The built-in path patterns change no flags, and whichever do not: the verdict on a text is the same for two
paths that differ in the case of ASCII letters only, if both are governed or neither is. -/
theorem checkContent_anyCase :
    RuleSet.builtin.PathsFlagFree ∧
      ∀ s : RuleSet, s.PathsFlagFree → ∀ path path' : String, SameButCase path.toList path'.toList →
        (s.governedSuffix.toList <:+ path.toList ↔ s.governedSuffix.toList <:+ path'.toList) →
        ∀ text, s.checkContent path text = s.checkContent path' text := by
  refine ⟨pathsFlagFree_builtin, fun s hs path path' hp hsuffix text => ?_⟩
  have hgoverns : s.governs path = s.governs path' := by
    unfold governs
    rw [Bool.eq_iff_iff, List.isSuffixOf_iff_suffix, List.isSuffixOf_iff_suffix]
    exact hsuffix
  have hfind : s.content.find? (·.fires path text) = s.content.find? (·.fires path' text) :=
    List.find?_congr fun g hg => fires_anyCase hs hg hp text
  unfold checkContent
  rw [hgoverns, hfind]

/-- A path pattern with a negated class, ranges in either case, a repetition and an assertion inside a word. -/
def screenRule : ContentRule where
  id := "no-todo"
  path := "[^x-z]/(?:[a-p]+[/\\\\])+[H-K]\\B"
  pattern := "TODO"
  message := "open tasks are forbidden"

/-- It finds a governed path in either case of its letters, with a suffix that both spell alike. -/
theorem checkContent_anyCase_screen :
    ∃ s : RuleSet, compile ".kt" [screenRule] [] = .ok s ∧ s.PathsFlagFree ∧
      s.checkContent "ui/Main/Home.kt" "// TODO" = s.checkContent "UI/mAIN/hOME.kt" "// TODO" ∧
      s.checkContent "ui/Main/Home.kt" "// TODO" = screenRule.block := by
  have heval : [screenRule].all (·.isPathFlagFree) = true ∧
      (compile ".kt" [screenRule] []).map (·.checkContent "ui/Main/Home.kt" "// TODO") = .ok screenRule.block := by
    decide +kernel
  obtain ⟨s, hs, hblock⟩ := map_eq_ok_iff.1 heval.2
  have hfree : s.PathsFlagFree := pathsFlagFree_of_compile hs (List.all_eq_true.1 heval.1)
  have hsuffix : s.governedSuffix = ".kt" := (compile_eq_ok_iff.1 hs).1
  refine ⟨s, hs, hfree, checkContent_anyCase.2 s hfree _ _ (by decide) ?_ _, hblock⟩
  rw [hsuffix]
  decide

end RuleSet

end HookGate
