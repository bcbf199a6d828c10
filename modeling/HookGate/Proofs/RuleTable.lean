import HookGate.Config
import HookGate.Proofs.Engine
import HookGate.Proofs.Except
import HookGate.Proofs.Pattern.Search

/-!
# Tables of rules

A table is searched from the front. What the search finds is stated here about the
rules as they are written: `CommandRule.Matches` and `ContentRule.Matches` say
when one matches, `IsFirst` which of them decides. A compiled table gives the
verdict of the first rule that matches, and allows what no rule matches
(`checkCommand_of_isFirst`, `checkContent_of_isFirst` and their companions).
-/

namespace HookGate

/-! ### First entries -/

inductive IsFirst {α : Type} (P : α → Prop) : List α → α → Prop
  | head {a l} : P a → IsFirst P (a :: l) a
  | tail {a b l} : ¬ P b → IsFirst P l a → IsFirst P (b :: l) a

namespace IsFirst
variable {α β : Type} {P : α → Prop}

theorem mem {l : List α} {a : α} (h : IsFirst P l a) : a ∈ l := by
  induction h with
  | head _ => exact List.mem_cons_self ..
  | tail _ _ ih => exact List.mem_cons_of_mem _ ih

theorem holds {l : List α} {a : α} (h : IsFirst P l a) : P a := by
  induction h with
  | head ha => exact ha
  | tail _ _ ih => exact ih

theorem append_left {l : List α} {a : α} (h : IsFirst P l a) (m : List α) : IsFirst P (l ++ m) a := by
  induction h with
  | head ha => exact .head ha
  | tail hb _ ih => exact .tail hb ih

theorem append_right {l m : List α} {a : α} (hl : ∀ b ∈ l, ¬ P b) (h : IsFirst P m a) :
    IsFirst P (l ++ m) a := by
  induction l with
  | nil => exact h
  | cons b l ih =>
    exact .tail (hl b (List.mem_cons_self ..)) (ih fun c hc => hl c (List.mem_cons_of_mem _ hc))

/-- The search of a table whose entries stand for those of a list finds the first that matches. -/
theorem find? {R : α → β → Prop} {p : β → Bool} (hR : ∀ a b, R a b → (p b = true ↔ P a))
    {l : List α} {m : List β} (hlm : List.Forall₂ R l m) {a : α} (h : IsFirst P l a) :
    ∃ b, m.find? p = some b ∧ R a b := by
  induction hlm with
  | nil => cases h
  | @cons c b l m hcb _ ih =>
    cases h with
    | head ha => exact ⟨b, List.find?_cons_of_pos ((hR a b hcb).2 ha), hcb⟩
    | tail hc hl =>
      obtain ⟨d, hd, had⟩ := ih hl
      refine ⟨d, ?_, had⟩
      rw [List.find?_cons_of_neg (fun hb => hc ((hR c b hcb).1 hb)), hd]

theorem exists_of_mem {l : List α} (h : ∃ a ∈ l, P a) : ∃ a, IsFirst P l a := by
  induction l with
  | nil =>
    obtain ⟨a, ha, _⟩ := h
    cases ha
  | cons b l ih =>
    by_cases hb : P b
    · exact ⟨b, .head hb⟩
    · obtain ⟨a, ha, hPa⟩ := h
      rcases List.mem_cons.1 ha with rfl | ha
      · exact absurd hPa hb
      · obtain ⟨c, hc⟩ := ih ⟨a, ha, hPa⟩
        exact ⟨c, .tail hb hc⟩

theorem not_nil {a : α} : ¬ IsFirst P [] a := by
  intro h
  cases h

theorem cons_iff {a b : α} {l : List α} : IsFirst P (b :: l) a ↔ P b ∧ b = a ∨ ¬ P b ∧ IsFirst P l a := by
  refine ⟨fun h => ?_, fun h => ?_⟩
  · cases h with
    | head ha => exact .inl ⟨ha, rfl⟩
    | tail hb hl => exact .inr ⟨hb, hl⟩
  · rcases h with ⟨hb, rfl⟩ | ⟨hb, hl⟩
    · exact .head hb
    · exact .tail hb hl

theorem append_iff {a : α} {l m : List α} :
    IsFirst P (l ++ m) a ↔ IsFirst P l a ∨ (∀ b ∈ l, ¬ P b) ∧ IsFirst P m a := by
  induction l with
  | nil => simp [not_nil]
  | cons b l ih =>
    rw [List.cons_append, cons_iff, cons_iff, ih, List.forall_mem_cons]
    by_cases hb : P b
    · simp [hb]
    · simp [hb]

theorem map_iff {f : β → α} {l : List β} {a : α} :
    IsFirst P (l.map f) a ↔ ∃ b, IsFirst (fun b => P (f b)) l b ∧ f b = a := by
  induction l with
  | nil => simp [not_nil]
  | cons b l ih =>
    simp only [List.map_cons, cons_iff, ih]
    refine ⟨fun h => ?_, fun h => ?_⟩
    · rcases h with ⟨hb, rfl⟩ | ⟨hb, c, hc, rfl⟩
      · exact ⟨b, .inl ⟨hb, rfl⟩, rfl⟩
      · exact ⟨c, .inr ⟨hb, hc⟩, rfl⟩
    · obtain ⟨c, ⟨hb, rfl⟩ | ⟨hb, hc⟩, rfl⟩ := h
      · exact .inl ⟨hb, rfl⟩
      · exact .inr ⟨hb, c, hc, rfl⟩

theorem skip_iff {a : α} {l m : List α} (hl : ∀ b ∈ l, ¬ P b) : IsFirst P (l ++ m) a ↔ IsFirst P m a := by
  rw [append_iff]
  refine ⟨fun h => ?_, fun h => .inr ⟨hl, h⟩⟩
  rcases h with h | ⟨_, h⟩
  · exact absurd h.holds (hl a h.mem)
  · exact h

open Classical in
theorem foldr {f : α → β} {z : β} {l : List α} {a : α} (h : IsFirst P l a) :
    l.foldr (fun b y => if P b then f b else y) z = f a := by
  induction h with
  | head ha => exact if_pos ha
  | tail hb _ ih => exact (if_neg hb).trans ih

end IsFirst

open Classical in
theorem foldr_of_forall_not {α β : Type} {P : α → Prop} {f : α → β} {z : β} {l : List α} (h : ∀ a ∈ l, ¬ P a) :
    l.foldr (fun b y => if P b then f b else y) z = z := by
  induction l with
  | nil => rfl
  | cons b l ih =>
    exact (if_neg (h b (List.mem_cons_self ..))).trans (ih fun a ha => h a (List.mem_cons_of_mem _ ha))

theorem find?_eq_none_of_forall₂ {α β : Type} {P : α → Prop} {R : α → β → Prop} {p : β → Bool}
    (hR : ∀ a b, R a b → (p b = true ↔ P a)) {l : List α} {m : List β} (hlm : List.Forall₂ R l m)
    (h : ∀ a ∈ l, ¬ P a) : m.find? p = none := by
  induction hlm with
  | nil => rfl
  | @cons a b l m hab _ ih =>
    have ha : ¬ P a := h a (List.mem_cons_self ..)
    rw [List.find?_cons_of_neg (fun hb => ha ((hR a b hab).1 hb))]
    exact ih fun c hc => h c (List.mem_cons_of_mem _ hc)

theorem exists_of_forall₂ {α β : Type} {R : α → β → Prop} {l : List α} {m : List β} (hlm : List.Forall₂ R l m)
    {b : β} (hb : b ∈ m) : ∃ a ∈ l, R a b := by
  induction hlm with
  | nil => cases hb
  | @cons a c l m hac _ ih =>
    rcases List.mem_cons.1 hb with rfl | hb
    · exact ⟨a, List.mem_cons_self .., hac⟩
    · obtain ⟨d, hd, hdb⟩ := ih hb
      exact ⟨d, List.mem_cons_of_mem _ hd, hdb⟩

/-! ### Compilation -/

theorem compileFor_eq_ok_iff {id source : String} {ignoreCase : Bool} {p : Pattern} :
    compileFor id ignoreCase source = .ok p ↔ Pattern.compile ignoreCase source = .ok p := by
  unfold compileFor
  cases Pattern.compile ignoreCase source with
  | ok q => simp
  | error f => simp

def CommandRule.Matches (r : CommandRule) (command : String) : Prop := Pattern.Finds false r.pattern command

/-- The rule's patterns are found in the path, in any letter case, and in the content. -/
def ContentRule.Matches (r : ContentRule) (path content : String) : Prop :=
  Pattern.Finds true r.path path ∧ Pattern.Finds false r.pattern content

def CommandRule.block (r : CommandRule) : Verdict := .block r.id ("[safety rule] " ++ r.message)

def ContentRule.block (r : ContentRule) : Verdict :=
  .block r.id ("[convention violation] " ++ r.message ++ "\nsuggested: " ++ r.suggestion)

theorem CommandRule.compile_eq_ok_iff {r : CommandRule} {g : CommandGuard} :
    r.compile = .ok g ↔ g.rule = r ∧ Pattern.compile false r.pattern = .ok g.pattern := by
  unfold compile
  rw [bind_eq_ok_iff]
  simp only [compileFor_eq_ok_iff]
  refine ⟨fun h => ?_, fun h => ?_⟩
  · obtain ⟨p, hp, h⟩ := h
    cases h; exact ⟨rfl, hp⟩
  · obtain ⟨rfl, hp⟩ := h
    exact ⟨g.pattern, hp, rfl⟩

theorem ContentRule.compile_eq_ok_iff {r : ContentRule} {g : ContentGuard} :
    r.compile = .ok g ↔ g.rule = r ∧ Pattern.compile true r.path = .ok g.path ∧
      Pattern.compile false r.pattern = .ok g.pattern := by
  unfold compile
  simp only [bind_eq_ok_iff, compileFor_eq_ok_iff]
  refine ⟨fun h => ?_, fun h => ?_⟩
  · obtain ⟨p, hp, q, hq, h⟩ := h
    cases h; exact ⟨rfl, hp, hq⟩
  · obtain ⟨rfl, hp, hq⟩ := h
    exact ⟨g.path, hp, g.pattern, hq, rfl⟩

theorem CommandGuard.fires_iff {r : CommandRule} {g : CommandGuard} (h : r.compile = .ok g)
    (command : String) : g.fires command = true ↔ r.Matches command := by
  obtain ⟨_, hp⟩ := CommandRule.compile_eq_ok_iff.1 h
  unfold CommandRule.Matches
  rw [Pattern.finds_iff hp]
  rfl

theorem ContentGuard.fires_iff {r : ContentRule} {g : ContentGuard} (h : r.compile = .ok g)
    (path content : String) : g.fires path content = true ↔ r.Matches path content := by
  obtain ⟨_, hp, hq⟩ := ContentRule.compile_eq_ok_iff.1 h
  unfold fires ContentRule.Matches
  rw [Pattern.finds_iff hp, Pattern.finds_iff hq, Bool.and_eq_true]

namespace RuleSet

theorem compile_eq_ok_iff {governedSuffix : String} {content : List ContentRule}
    {commands : List CommandRule} {r : RuleSet} :
    compile governedSuffix content commands = .ok r ↔
      r.governedSuffix = governedSuffix ∧
        List.Forall₂ (fun rule g => ContentRule.compile rule = .ok g) content r.content ∧
          List.Forall₂ (fun rule g => CommandRule.compile rule = .ok g) commands r.commands := by
  unfold compile
  simp only [bind_eq_ok_iff, mapM_eq_ok_iff]
  refine ⟨fun h => ?_, fun h => ?_⟩
  · obtain ⟨gs, hgs, cs, hcs, h⟩ := h
    cases h; exact ⟨rfl, hgs, hcs⟩
  · obtain ⟨rfl, hgs, hcs⟩ := h
    exact ⟨r.content, hgs, r.commands, hcs, rfl⟩

/-! ### Verdicts of compiled tables -/

section
variable {governedSuffix : String} {content : List ContentRule} {commands : List CommandRule}
  {r : RuleSet} (h : compile governedSuffix content commands = .ok r)
include h

theorem checkCommand_of_isFirst {command : String} {rule : CommandRule}
    (hr : IsFirst (·.Matches command) commands rule) : r.checkCommand command = rule.block := by
  obtain ⟨_, _, hc⟩ := compile_eq_ok_iff.1 h
  obtain ⟨g, hg, hrg⟩ :=
    hr.find? (p := (·.fires command)) (fun _ _ hab => CommandGuard.fires_iff hab command) hc
  unfold checkCommand
  rw [hg]
  obtain ⟨rfl, _⟩ := CommandRule.compile_eq_ok_iff.1 hrg
  rfl

theorem checkCommand_of_forall_not {command : String} (hr : ∀ rule ∈ commands, ¬ rule.Matches command) :
    r.checkCommand command = .allow := by
  obtain ⟨_, _, hc⟩ := compile_eq_ok_iff.1 h
  have hn : r.commands.find? (·.fires command) = none :=
    find?_eq_none_of_forall₂ (P := (·.Matches command)) (fun _ _ hab => CommandGuard.fires_iff hab command) hc hr
  unfold checkCommand
  rw [hn]

open Classical in
/-- The first rule that matches decides, and nothing else is blocked. -/
theorem checkCommand_eq_foldr (command : String) :
    r.checkCommand command =
      commands.foldr (fun rule v => if rule.Matches command then rule.block else v) .allow := by
  by_cases hr : ∃ rule ∈ commands, rule.Matches command
  · obtain ⟨rule, hfirst⟩ := IsFirst.exists_of_mem hr
    rw [checkCommand_of_isFirst h hfirst, hfirst.foldr]
  · simp only [not_exists, not_and] at hr
    rw [checkCommand_of_forall_not h hr, foldr_of_forall_not hr]

theorem governs_iff {path : String} : r.governs path = true ↔ governedSuffix.toList <:+ path.toList := by
  obtain ⟨hs, _⟩ := compile_eq_ok_iff.1 h
  unfold governs
  rw [hs, List.isSuffixOf_iff_suffix]

omit h in
theorem checkContent_empty (path : String) : r.checkContent path "" = .allow := if_pos rfl

theorem checkContent_of_not_governs {path content : String} (hp : ¬ governedSuffix.toList <:+ path.toList) :
    r.checkContent path content = .allow := by
  have hg : r.governs path = false := by
    rw [← Bool.not_eq_true, governs_iff h]
    exact hp
  unfold checkContent
  rw [if_pos (by simp [hg])]

theorem checkContent_of_isFirst {path text : String} (hp : governedSuffix.toList <:+ path.toList)
    (ht : text ≠ "") {rule : ContentRule} (hr : IsFirst (·.Matches path text) content rule) :
    r.checkContent path text = rule.block := by
  obtain ⟨_, hc, _⟩ := compile_eq_ok_iff.1 h
  obtain ⟨g, hg, hrg⟩ :=
    hr.find? (p := (·.fires path text)) (fun _ _ hab => ContentGuard.fires_iff hab path text) hc
  unfold checkContent
  rw [if_neg (by simp [(governs_iff h).2 hp, ht]), hg]
  obtain ⟨rfl, _⟩ := ContentRule.compile_eq_ok_iff.1 hrg
  rfl

theorem checkContent_of_forall_not {path text : String}
    (hr : ∀ rule ∈ content, ¬ rule.Matches path text) : r.checkContent path text = .allow := by
  obtain ⟨_, hc, _⟩ := compile_eq_ok_iff.1 h
  have hn : r.content.find? (·.fires path text) = none :=
    find?_eq_none_of_forall₂ (P := (·.Matches path text))
      (fun _ _ hab => ContentGuard.fires_iff hab path text) hc hr
  unfold checkContent
  rw [hn, ite_self]

open Classical in
/-- The first rule that matches decides, if there is a text and it goes to a governed file. -/
theorem checkContent_eq_foldr {path text : String} (hp : governedSuffix.toList <:+ path.toList) (ht : text ≠ "") :
    r.checkContent path text =
      content.foldr (fun rule v => if rule.Matches path text then rule.block else v) .allow := by
  by_cases hr : ∃ rule ∈ content, rule.Matches path text
  · obtain ⟨rule, hfirst⟩ := IsFirst.exists_of_mem hr
    rw [checkContent_of_isFirst h hp ht hfirst, hfirst.foldr]
  · simp only [not_exists, not_and] at hr
    rw [checkContent_of_forall_not h hr, foldr_of_forall_not hr]

end

end RuleSet

/-!
## The first rule that matches

Each table is searched for the rule of least index that matches. What a compiled
rule matches is a relation between its expressions and a text; `Forbids` says from
it which rule stands against a request, however the request was made, and the rules
block just what is forbidden (`evaluate_forbids`).
-/

open Pattern

/-! ### Least indices -/

/-- The entry at the index has the property, and no entry before it has. -/
def IsFirstAt {α : Type} (P : α → Prop) (l : List α) (i : Nat) (a : α) : Prop :=
  l[i]? = some a ∧ P a ∧ ∀ j b, j < i → l[j]? = some b → ¬ P b

section
variable {α : Type} {P : α → Prop} {l : List α}

theorem find?_eq_some_iff_isFirstAt {p : α → Bool} (hp : ∀ a, p a = true ↔ P a) {a : α} :
    l.find? p = some a ↔ ∃ i, IsFirstAt P l i a := by
  rw [List.find?_eq_some_iff_getElem]
  constructor
  · rintro ⟨ha, i, hi, rfl, hbefore⟩
    refine ⟨i, List.getElem?_eq_getElem hi, (hp _).1 ha, fun j b hj hb hPb => ?_⟩
    obtain ⟨hjl, rfl⟩ := List.getElem?_eq_some_iff.1 hb
    have hno := hbefore j hj
    rw [(hp _).2 hPb] at hno
    cases hno
  · rintro ⟨i, hi, hPa, hbefore⟩
    obtain ⟨hil, rfl⟩ := List.getElem?_eq_some_iff.1 hi
    refine ⟨(hp _).2 hPa, i, hil, rfl, fun j hj => ?_⟩
    have hno : ¬ P l[j] := hbefore j _ hj (List.getElem?_eq_getElem (Nat.lt_trans hj hil))
    rw [← hp, Bool.not_eq_true] at hno
    rw [hno]; rfl

theorem IsFirstAt.mem {i : Nat} {a : α} (h : IsFirstAt P l i a) : a ∈ l := List.mem_of_getElem? h.1

theorem exists_isFirstAt_le {i : Nat} {a : α} (hi : l[i]? = some a) (ha : P a) :
    ∃ j b, j ≤ i ∧ IsFirstAt P l j b := by
  induction i using Nat.strongRecOn generalizing a with
  | ind i ih =>
    by_cases h : ∃ j b, j < i ∧ l[j]? = some b ∧ P b
    · obtain ⟨j, b, hj, hb, hPb⟩ := h
      obtain ⟨k, c, hk, hc⟩ := ih j hj hb hPb
      exact ⟨k, c, Nat.le_trans hk (Nat.le_of_lt hj), hc⟩
    · exact ⟨i, a, Nat.le_refl i, hi, ha, fun j b hj hb hPb => h ⟨j, b, hj, hb, hPb⟩⟩

end

/-! ### What compiled rules match -/

def CommandGuard.Matches (g : CommandGuard) (command : String) : Prop := FoundIn g.pattern.expr command.toList

def ContentGuard.Matches (g : ContentGuard) (path content : String) : Prop :=
  FoundIn g.path.expr path.toList ∧ FoundIn g.pattern.expr content.toList

theorem CommandGuard.fires_iff_matches (g : CommandGuard) (command : String) :
    g.fires command = true ↔ g.Matches command :=
  isFoundIn_iff_foundIn g.pattern.expr command.toList

theorem ContentGuard.fires_iff_matches (g : ContentGuard) (path content : String) :
    g.fires path content = true ↔ g.Matches path content := by
  unfold fires Matches Pattern.isMatch
  rw [Bool.and_eq_true, isFoundIn_iff_foundIn, isFoundIn_iff_foundIn]

/-! ### What the tables block -/

theorem elim_find?_eq_block_iff {α : Type} {P : α → Prop} {p : α → Bool} (hp : ∀ a, p a = true ↔ P a)
    (l : List α) (block : α → Verdict) (ruleId reason : String) :
    (l.find? p).elim .allow block = .block ruleId reason ↔
      ∃ i a, IsFirstAt P l i a ∧ block a = .block ruleId reason := by
  constructor
  · intro h
    cases hf : l.find? p with
    | none => rw [hf] at h; cases h
    | some a =>
      obtain ⟨i, hi⟩ := (find?_eq_some_iff_isFirstAt hp).1 hf
      rw [hf] at h
      exact ⟨i, a, hi, h⟩
  · rintro ⟨i, a, hi, h⟩
    rw [(find?_eq_some_iff_isFirstAt hp).2 ⟨i, hi⟩]
    exact h

namespace RuleSet
variable (s : RuleSet) {ruleId reason : String}

theorem checkCommand_eq_block_iff {command : String} :
    s.checkCommand command = .block ruleId reason ↔
      ∃ i g, IsFirstAt (·.Matches command) s.commands i g ∧ commandBlock g = .block ruleId reason := by
  rw [← elim_find?_eq_block_iff (fun g => g.fires_iff_matches command)]
  unfold checkCommand
  cases s.commands.find? (·.fires command) <;> rfl

theorem checkContent_eq_block_iff {path text : String} :
    s.checkContent path text = .block ruleId reason ↔
      text ≠ "" ∧ s.governedSuffix.toList <:+ path.toList ∧
        ∃ i g, IsFirstAt (·.Matches path text) s.content i g ∧ contentBlock g = .block ruleId reason := by
  rw [← elim_find?_eq_block_iff (fun g => g.fires_iff_matches path text)]
  unfold checkContent governs
  by_cases ht : text = ""
  · simp [ht]
  · by_cases hp : s.governedSuffix.toList <:+ path.toList
    · simp only [ht, hp, String.isEmpty_iff, List.isSuffixOf_iff_suffix.2 hp, Bool.not_true, Bool.or_false,
        if_false, ne_eq, not_false_eq_true, true_and]
      cases s.content.find? (·.fires path text) <;> rfl
    · have hs : s.governedSuffix.toList.isSuffixOf path.toList = false := by
        rw [← Bool.not_eq_true, List.isSuffixOf_iff_suffix]; exact hp
      simp [hs, hp]

/-- A rule stands against the request: the first of its table that matches, if the request is one that
the table is about. -/
inductive Forbids (r : Request) : (ruleId reason : String) → Prop
  | command {i g} : r.kind = .shellExec → IsFirstAt (·.Matches (r.command.getD "")) s.commands i g →
      Forbids r g.rule.id ("[safety rule] " ++ g.rule.message)
  | content {path text i g} : r.kind = .fileWrite ∨ r.kind = .fileEdit →
      r.targetPath = some path → r.content = some text → text ≠ "" →
      s.governedSuffix.toList <:+ path.toList → IsFirstAt (·.Matches path text) s.content i g →
      Forbids r g.rule.id
        ("[convention violation] " ++ g.rule.message ++ "\nsuggested: " ++ g.rule.suggestion)

end RuleSet

namespace Engine
variable (e : Engine)

theorem forbids_of_evaluate {r : Request} {ruleId reason : String}
    (h : e.evaluate r = .block ruleId reason) : e.rules.Forbids r ruleId reason := by
  have hfile (hk : r.kind = .fileWrite ∨ r.kind = .fileEdit)
      (h : evaluate.fileChange e r = .block ruleId reason) : e.rules.Forbids r ruleId reason := by
    unfold evaluate.fileChange at h
    split at h
    · rename_i path text hp ht
      obtain ⟨hne, hs, i, g, hg, hb⟩ := e.rules.checkContent_eq_block_iff.1 h
      cases hb
      exact .content hk hp ht hne hs hg
    · cases h
  unfold evaluate at h
  cases hk : r.kind with
  | shellExec =>
    rw [hk] at h
    obtain ⟨i, g, hg, hb⟩ := e.rules.checkCommand_eq_block_iff.1 h
    cases hb
    exact .command hk hg
  | fileWrite => rw [hk] at h; exact hfile (.inl hk) h
  | fileEdit => rw [hk] at h; exact hfile (.inr hk) h
  | other => rw [hk] at h; cases h

theorem evaluate_of_forbids {r : Request} {ruleId reason : String}
    (h : e.rules.Forbids r ruleId reason) : e.evaluate r = .block ruleId reason := by
  cases h with
  | command hk hg =>
    rw [e.evaluate_shellExec hk]
    exact e.rules.checkCommand_eq_block_iff.2 ⟨_, _, hg, rfl⟩
  | content hk hp ht hne hs hg =>
    have hchange : r.kind.isFileChange = true := by rcases hk with hk | hk <;> rw [hk] <;> rfl
    rw [e.evaluate_fileChange hchange hp ht]
    exact e.rules.checkContent_eq_block_iff.2 ⟨hne, hs, _, _, hg, rfl⟩

/-- A request is blocked by the first rule of its table that matches, with the rule's name and its wording;
where none stands against it, it is allowed. The rules never warn. -/
theorem evaluate_forbids (r : Request) :
    (∀ ruleId reason, e.evaluate r = .block ruleId reason ↔ e.rules.Forbids r ruleId reason) ∧
      (e.evaluate r = .allow ↔ ¬ ∃ ruleId reason, e.rules.Forbids r ruleId reason) ∧
      ¬ ∃ ruleId reason, e.evaluate r = .warn ruleId reason := by
  refine ⟨fun ruleId reason => ⟨e.forbids_of_evaluate, e.evaluate_of_forbids⟩, ⟨?_, ?_⟩, ?_⟩
  · rintro h ⟨ruleId, reason, hf⟩
    rw [e.evaluate_of_forbids hf] at h
    cases h
  · intro h
    cases hv : e.evaluate r with
    | allow => rfl
    | block ruleId reason => exact absurd ⟨ruleId, reason, e.forbids_of_evaluate hv⟩ h
    | warn ruleId reason => exact absurd hv (e.evaluate_ne_warn r ruleId reason)
  · rintro ⟨ruleId, reason, h⟩
    exact e.evaluate_ne_warn r ruleId reason h

end Engine

end HookGate
