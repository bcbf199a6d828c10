import HookGate.Proofs.Pattern.Languages
import HookGate.Proofs.RuleTable

/-!
# Commands within other text

A command that the rules block stays blocked inside any text that keeps it apart
from other words, as long as no command pattern asserts where the text or a line
starts or ends. The rule that blocks the whole may be an earlier one, which the text
around the command matches, but no later one (`checkCommand_surrounded`).
-/

namespace HookGate.Pattern

/-!
## Matches in a larger text

What stands beside a match matters to its assertions alone. One that is about words
asks whether a word character stands there, and so cannot tell an end of the text
from a neighbour that is no word character. An expression without any other
assertion is therefore found wherever a text in which it is found stands between
such neighbours (`FoundIn.surrounded`).
-/

open Stretches Text

/-! ### Neighbours -/

/-- No assertion about words tells the two neighbours apart. -/
def Alike (p q : Option Char) : Prop := ∀ a : Alphabet, a.beside p = a.beside q

theorem Alike.refl (p : Option Char) : Alike p p := fun _ => rfl

theorem Alike.or {p q : Option Char} (h : Alike p q) (c : Option Char) : Alike (c.or p) (c.or q) := by
  cases c with
  | none => exact h
  | some c => exact Alike.refl _

/-- What is no word character of the larger alphabet is none of the smaller. -/
theorem alike_none_of_noWord {p : Option Char} (h : NoWord p) : Alike none p := by
  intro a
  cases p with
  | none => rfl
  | some c =>
    have hc : isWord c = false := h c rfl
    cases a with
    | unicode => exact hc.symm
    | ascii =>
      have : isAsciiWord c = false := by
        rw [← Bool.not_eq_true]
        intro ha
        rw [isWord_of_isAsciiWord ha] at hc
        cases hc
      exact this.symm

theorem alike_or_of_noWord (c : Option Char) {p : Option Char} (h : NoWord p) : Alike c (c.or p) := by
  simpa using (alike_none_of_noWord h).or c

theorem Look.holds_of_alike {k : Look} (hk : (Expr.look k).isUnanchored = true) {p p' q q' : Option Char}
    (hp : Alike p p') (hq : Alike q q') : k.holds p q = k.holds p' q' := by
  cases k <;> simp_all [Expr.isUnanchored, Look.holds, Alike]

/-! ### Matches -/

theorem Matches.of_alike {e : Expr} {p q : Option Char} {w : List Char} (h : Matches e p w q)
    (he : e.isUnanchored = true) {p' q' : Option Char} (hp : Alike p p') (hq : Alike q q') :
    Matches e p' w q' := by
  induction h generalizing p' q' with
  | empty => exact .empty
  | look hk => exact .look (by rw [← Look.holds_of_alike he hp hq]; exact hk)
  | chars hc => exact .chars hc
  | group _ ih => exact .group (ih he hp hq)
  | cat _ _ ihu ihv =>
    simp only [Expr.isUnanchored, Bool.and_eq_true] at he
    exact .cat (ihu he.1 hp (hq.or _)) (ihv he.2 (hp.or _) hq)
  | altLeft _ ih =>
    simp only [Expr.isUnanchored, Bool.and_eq_true] at he
    exact .altLeft (ih he.1 hp hq)
  | altRight _ ih =>
    simp only [Expr.isUnanchored, Bool.and_eq_true] at he
    exact .altRight (ih he.2 hp hq)
  | none => exact .none
  | more hhi _ _ ihu ihv => exact .more hhi (ihu he hp (hq.or _)) (ihv he (hp.or _) hq)

theorem FoundIn.surrounded {e : Expr} {text : List Char} (h : FoundIn e text) (he : e.isUnanchored = true)
    {before after : List Char} (hb : NoWord before.getLast?) (ha : NoWord after.head?) :
    FoundIn e (before ++ text ++ after) := by
  obtain ⟨u, m, v, rfl, hm⟩ := h
  refine ⟨before ++ u, m, v ++ after, by simp only [List.append_assoc], ?_⟩
  rw [List.getLast?_append, List.head?_append]
  exact hm.of_alike he (alike_or_of_noWord _ hb) (alike_or_of_noWord _ ha)

/-! ### Patterns -/

theorem Expr.isUnanchored_repeated (e : Expr) (lo : Nat) (hi : Option Nat) :
    (e.repeated lo hi).isUnanchored = e.isUnanchored := by
  unfold Expr.repeated
  split <;> rfl

theorem Flags.isUnanchored_look (f : Flags) {k : Assertion} (hk : (Tree.assertion k).isUnanchored = true) :
    (Expr.look (f.look k)).isUnanchored = true := by
  cases k <;> simp_all [Tree.isUnanchored, Expr.isUnanchored, Flags.look]

theorem Tree.isUnanchored_toExpr {t : Tree} (ht : t.isUnanchored = true) {f g : Flags} {e : Expr}
    (h : t.toExpr f = .ok (e, g)) : e.isUnanchored = true := by
  -- flags vary along the tree, but none of them turns another assertion into an anchor
  induction t generalizing f g e with
  | empty => cases h; rfl
  | setFlags change => cases h; rfl
  | assertion k => cases h; exact f.isUnanchored_look ht
  | char l | dot | short k n | property q n =>
    obtain ⟨s, -, h⟩ := bind_eq_ok_iff.1 h
    cases h; rfl
  | bracket n inner =>
    obtain ⟨s, -, h⟩ := bind_eq_ok_iff.1 h
    obtain ⟨s, -, h⟩ := bind_eq_ok_iff.1 h
    cases h; rfl
  | group t ih =>
    obtain ⟨d, hd, h⟩ := bind_eq_ok_iff.1 h
    cases h
    have hd := ih ht hd
    exact hd
  | flagged change t ih =>
    obtain ⟨d, hd, h⟩ := bind_eq_ok_iff.1 h
    cases h
    exact ih ht hd
  | times t lo hi ih =>
    obtain ⟨d, hd, h⟩ := bind_eq_ok_iff.1 h
    cases h
    rw [Expr.isUnanchored_repeated]
    exact ih ht hd
  | cat a b iha ihb | alt a b iha ihb =>
    simp only [Tree.isUnanchored, Bool.and_eq_true] at ht
    obtain ⟨d, hd, h⟩ := bind_eq_ok_iff.1 h
    obtain ⟨d', hd', h⟩ := bind_eq_ok_iff.1 h
    cases h
    simp only [Expr.isUnanchored, iha ht.1 hd, ihb ht.2 hd', Bool.and_self]

theorem exists_tree_of_compile {ignoreCase : Bool} {source : String} {p : Pattern}
    (h : Pattern.compile ignoreCase source = .ok p) :
    ∃ t f, Tree.read source.toList = .ok t ∧ t.toExpr { ignoreCase } = .ok (p.expr, f) := by
  obtain ⟨t, hr, h⟩ := bind_eq_ok_iff.1 h
  obtain ⟨⟨e, f⟩, he, h⟩ := bind_eq_ok_iff.1 h
  dsimp only at h
  split at h
  · cases h
  · cases h
    exact ⟨t, f, hr, he⟩

theorem isUnanchored_of_compile {ignoreCase : Bool} {source : String} {p : Pattern}
    (h : Pattern.compile ignoreCase source = .ok p) {t : Tree} (hr : Tree.read source.toList = .ok t)
    (ht : t.isUnanchored = true) : p.expr.isUnanchored = true := by
  obtain ⟨t', f, hr', he⟩ := exists_tree_of_compile h
  rw [hr] at hr'
  cases hr'
  exact Tree.isUnanchored_toExpr ht he

end HookGate.Pattern

/-! ## Commands within other text -/

namespace HookGate

open Pattern

/-- The pattern can be read and asserts no start or end, of the text or of a line. -/
def CommandRule.isUnanchored (rule : CommandRule) : Bool :=
  match Tree.read rule.pattern.toList with
  | .ok t => t.isUnanchored
  | .error _ => false

namespace RuleSet

/-- The command rules are compiled from rules without such assertions. -/
def Unanchored (s : RuleSet) : Prop :=
  ∀ g ∈ s.commands, ∃ rule : CommandRule, rule.compile = .ok g ∧ rule.isUnanchored = true

def BlocksAt (s : RuleSet) (command : String) (i : Nat) : Prop :=
  ∃ g, IsFirstAt (·.Matches command) s.commands i g ∧ s.checkCommand command = commandBlock g

/-- The command is blocked by the rule at the index or by an earlier one. -/
def BlocksUpTo (s : RuleSet) (command : String) (i : Nat) : Prop := ∃ j, j ≤ i ∧ s.BlocksAt command j

theorem BlocksAt.upTo {s : RuleSet} {command : String} {i : Nat} (h : s.BlocksAt command i) :
    s.BlocksUpTo command i := ⟨i, Nat.le_refl i, h⟩

theorem blocksAt_of_isFirstAt {s : RuleSet} {command : String} {i : Nat} {g : CommandGuard}
    (h : IsFirstAt (·.Matches command) s.commands i g) : s.BlocksAt command i :=
  ⟨g, h, s.checkCommand_eq_block_iff.2 ⟨i, g, h, rfl⟩⟩

theorem unanchored_of_compile {governedSuffix : String} {content : List ContentRule}
    {commands : List CommandRule} {s : RuleSet} (h : compile governedSuffix content commands = .ok s)
    (hc : ∀ rule ∈ commands, rule.isUnanchored = true) : s.Unanchored := by
  obtain ⟨-, -, hcompiled⟩ := compile_eq_ok_iff.1 h
  intro g hg
  obtain ⟨rule, hm, hr⟩ := exists_of_forall₂ hcompiled hg
  exact ⟨rule, hr, hc rule hm⟩

theorem unanchored_builtin : builtin.Unanchored := by
  have hall : CommandRule.builtin.all (·.isUnanchored) = true := by decide +kernel
  exact unanchored_of_compile compile_builtin (List.all_eq_true.1 hall)

section
variable {s : RuleSet} (hs : s.Unanchored)
include hs

theorem isUnanchored_of_mem {g : CommandGuard} (hg : g ∈ s.commands) : g.pattern.expr.isUnanchored = true := by
  obtain ⟨rule, hc, hu⟩ := hs g hg
  unfold CommandRule.isUnanchored at hu
  cases hr : Tree.read rule.pattern.toList with
  | error f => rw [hr] at hu; cases hu
  | ok t =>
    rw [hr] at hu
    exact isUnanchored_of_compile (CommandRule.compile_eq_ok_iff.1 hc).2 hr hu

/-- The rule that matches the command matches it among other text as well, so one of them comes first. -/
theorem BlocksUpTo.surrounded {command : String} {i : Nat} (h : s.BlocksUpTo command i) {u v : String}
    (hu : NoWord u.toList.getLast?) (hv : NoWord v.toList.head?) : s.BlocksUpTo (u ++ command ++ v) i := by
  obtain ⟨j, hj, g, hg, -⟩ := h
  have hm : g.Matches (u ++ command ++ v) := by
    unfold CommandGuard.Matches
    rw [String.toList_append, String.toList_append]
    exact hg.2.1.surrounded (isUnanchored_of_mem hs hg.mem) hu hv
  obtain ⟨k, g', hk, hg'⟩ := exists_isFirstAt_le (P := (·.Matches (u ++ command ++ v))) hg.1 hm
  exact ⟨k, Nat.le_trans hk hj, blocksAt_of_isFirstAt hg'⟩

end
end RuleSet

/-! ### Commands that hold others -/

def separators : List String := [" && ", "; ", " | ", "\n"]

def wrappers : List (String × String) := [("\"", "\""), ("'", "'"), ("`", "`"), ("(", ")")]

/-- The text is the command, joined with others and wrapped any number of times. -/
inductive Holds (command : String) : String → Prop
  | self : Holds command command
  | after {text sep} (other : String) : sep ∈ separators → Holds command text →
      Holds command (other ++ sep ++ text)
  | before {text sep} (other : String) : sep ∈ separators → Holds command text →
      Holds command (text ++ sep ++ other)
  | wrap {text w} : w ∈ wrappers → Holds command text → Holds command (w.1 ++ text ++ w.2)

theorem holds_intercalate {command sep : String} (hsep : sep ∈ separators) {commands : List String}
    (h : command ∈ commands) : Holds command (sep.intercalate commands) := by
  induction commands with
  | nil => cases h
  | cons c cs ih =>
    cases cs with
    | nil =>
      rw [String.intercalate_singleton, ← List.mem_singleton.1 h]
      exact .self
    | cons d cs =>
      rw [String.intercalate_cons_cons]
      rcases List.mem_cons.1 h with rfl | h
      · exact .before _ hsep .self
      · exact .after c hsep (ih h)

def hasEdges (text : String) : Bool :=
  text.toList.head?.any (!Text.isWord ·) && text.toList.getLast?.any (!Text.isWord ·)

theorem hasEdges_of_mem_separators {sep : String} (h : sep ∈ separators) : hasEdges sep = true := by
  have hall : separators.all hasEdges = true := by decide
  exact List.all_eq_true.1 hall sep h

theorem hasEdges_of_mem_wrappers {w : String × String} (h : w ∈ wrappers) :
    hasEdges w.1 = true ∧ hasEdges w.2 = true := by
  have hall : wrappers.all (fun w => hasEdges w.1 && hasEdges w.2) = true := by decide
  have := List.all_eq_true.1 hall w h
  rwa [Bool.and_eq_true] at this

theorem noWord_none : NoWord none := fun d hd => by cases hd

theorem noWord_or_of_any {p : Option Char} (h : p.any (!Text.isWord ·) = true) (q : Option Char) : NoWord (p.or q) := by
  cases p with
  | none => cases h
  | some c =>
    intro d hd
    cases hd
    simpa using h

section
variable {edge : String} (h : hasEdges edge = true) (other : String)
include h

theorem noWord_getLast?_append : NoWord (other ++ edge).toList.getLast? := by
  unfold hasEdges at h
  rw [Bool.and_eq_true] at h
  rw [String.toList_append, List.getLast?_append]
  exact noWord_or_of_any h.2 _

theorem noWord_head?_append : NoWord (edge ++ other).toList.head? := by
  unfold hasEdges at h
  rw [Bool.and_eq_true] at h
  rw [String.toList_append, List.head?_append]
  exact noWord_or_of_any h.1 _

end

namespace RuleSet

theorem BlocksUpTo.of_holds {s : RuleSet} (hs : s.Unanchored) {command text : String} {i : Nat}
    (h : s.BlocksUpTo command i) (ht : Holds command text) : s.BlocksUpTo text i := by
  induction ht with
  | self => exact h
  | @after text sep other hsep _ ih =>
    have hu := noWord_getLast?_append (hasEdges_of_mem_separators hsep) other
    simpa using ih.surrounded hs hu (v := "") noWord_none
  | @before text sep other hsep _ ih =>
    have hv := noWord_head?_append (hasEdges_of_mem_separators hsep) other
    simpa [String.append_assoc] using ih.surrounded hs (u := "") noWord_none hv
  | @wrap text w hw _ ih =>
    obtain ⟨hopen, hclose⟩ := hasEdges_of_mem_wrappers hw
    have hu := noWord_getLast?_append hopen ""
    have hv := noWord_head?_append hclose ""
    rw [String.empty_append] at hu
    rw [String.append_empty] at hv
    exact ih.surrounded hs hu hv

/-- The built-in command patterns assert no end of the text, and whichever rules do not: a command that is
blocked at some index is blocked no later among other text that keeps words away from it, so in any list of
commands that holds it and within quotes and parentheses. -/
theorem checkCommand_surrounded :
    RuleSet.builtin.Unanchored ∧
      ∀ s : RuleSet, s.Unanchored → ∀ command i, s.BlocksAt command i →
        (∀ u v : String, NoWord u.toList.getLast? → NoWord v.toList.head? →
          s.BlocksUpTo (u ++ command ++ v) i) ∧
        (∀ sep ∈ separators, ∀ commands, command ∈ commands → s.BlocksUpTo (sep.intercalate commands) i) ∧
        ∀ text, Holds command text → s.BlocksUpTo text i := by
  refine ⟨unanchored_builtin, fun s hs command i h => ⟨?_, ?_, ?_⟩⟩
  · intro u v hu hv
    exact h.upTo.surrounded hs hu hv
  · intro sep hsep commands hc
    exact h.upTo.of_holds hs (holds_intercalate hsep hc)
  · intro text ht
    exact h.upTo.of_holds hs ht

/-- A command in parentheses after another one. -/
theorem checkCommand_surrounded_parenthesized :
    ∃ i, RuleSet.builtin.BlocksAt "sudo ls" i ∧ RuleSet.builtin.BlocksUpTo "echo hi && (sudo ls)" i := by
  have hblock : RuleSet.builtin.checkCommand "sudo ls" = .block "sudo" "[safety rule] sudo is forbidden" := by
    decide +kernel
  obtain ⟨i, g, hg, -⟩ := RuleSet.builtin.checkCommand_eq_block_iff.1 hblock
  have hi := blocksAt_of_isFirstAt hg
  have hwrapped : Holds "sudo ls" ("(" ++ "sudo ls" ++ ")") := .wrap (w := ("(", ")")) (by decide) .self
  have hjoined : Holds "sudo ls" ("echo hi" ++ " && " ++ ("(" ++ "sudo ls" ++ ")")) :=
    .after "echo hi" (by decide) hwrapped
  exact ⟨i, hi, (checkCommand_surrounded.2 RuleSet.builtin unanchored_builtin "sudo ls" i hi).2.2 _ hjoined⟩

end RuleSet

end HookGate
