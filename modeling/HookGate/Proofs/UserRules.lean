import HookGate.Cli
import HookGate.Proofs.RuleTable

/-!
# What a configuration file does to the rules

A configuration file can add rules to the built-in ones and can switch those off,
each table for itself. It cannot hide a built-in rule, and a file that gives no
rules leaves the built-in ones as they are (`evaluate_of_configPath`).
-/

namespace HookGate

def Engine.builtin : Engine := { rules := .builtin }

theorem Engine.rules_builtin : Engine.builtin.rules = .builtin := by
  simp only [Engine.builtin]

namespace Config

/-! ### The tables of a configuration -/

theorem ruleSet_eq_ok_iff {c : Config} {r : RuleSet} :
    c.ruleSet = .ok r ↔ c.content.governedSuffix ≠ "" ∧
      RuleSet.compile c.content.governedSuffix c.contentRules c.commandRules = .ok r := by
  unfold ruleSet
  by_cases hs : c.content.governedSuffix = ""
  · simp [hs]
  · rw [if_neg (by simpa using hs)]
    cases RuleSet.compile c.content.governedSuffix c.contentRules c.commandRules with
    | ok r' => simp [hs]
    | error p => simp

theorem ruleSet_congr {c d : Config} (ht : c.content = d.content) (hm : c.commands = d.commands) :
    c.ruleSet = d.ruleSet := by
  unfold ruleSet contentRules commandRules
  rw [ht, hm]

theorem ruleSet_default : ({} : Config).ruleSet = .ok .builtin := by
  rw [ruleSet_eq_ok_iff]
  exact ⟨by decide, RuleSet.compile_builtin⟩

theorem rules_engineOrBuiltin_of_ok {c : Config} {r : RuleSet} (h : c.ruleSet = .ok r) :
    c.engineOrBuiltin.rules = r := by
  simp only [engineOrBuiltin, engine, h, Except.map]

theorem rules_engineOrBuiltin_of_error {c : Config} {e : BuildError} (h : c.ruleSet = .error e) :
    c.engineOrBuiltin.rules = .builtin := by
  simp only [engineOrBuiltin, engine, h, Except.map]

/-- No rule of the table that is on matches. -/
def Silent {α : Type} (on : Bool) (rules : List α) (P : α → Prop) : Prop := on = true → ∀ r ∈ rules, ¬ P r

theorem isFirst_of_builtin {α : Type} {P : α → Prop} {on : Bool} {builtin user : List α} {a : α}
    (hon : on = true) (h : IsFirst P builtin a) : IsFirst P ((if on then builtin else []) ++ user) a := by
  rw [if_pos hon]
  exact h.append_left user

theorem isFirst_of_user {α : Type} {P : α → Prop} {on : Bool} {builtin user : List α} {a : α}
    (hb : Silent on builtin P) (h : IsFirst P user a) : IsFirst P ((if on then builtin else []) ++ user) a := by
  refine h.append_right fun b hm => ?_
  cases on with
  | false => cases hm
  | true => exact hb rfl b hm

theorem forall_not_of_user {α : Type} {P : α → Prop} {on : Bool} {builtin user : List α}
    (hb : Silent on builtin P) (hu : ∀ a ∈ user, ¬ P a) :
    ∀ a ∈ (if on then builtin else []) ++ user, ¬ P a := by
  intro a ha
  rcases List.mem_append.1 ha with ha | ha
  · cases on with
    | false => cases ha
    | true => exact hb rfl a ha
  · exact hu a ha

end Config

namespace Cli

theorem Setting.ruleSet_config (s : Setting) (files : Config.Files) :
    (s.config files).ruleSet =
      (Config.search files ((Arguments.ofList s.arguments).configPaths s.home)).ruleSet :=
  Config.ruleSet_congr rfl rfl

section
variable {s : Setting} {files : Config.Files} {path : String}
  (hs : (Arguments.ofList s.arguments).configPath = some path)
include hs

theorem Setting.ruleSet_of_configPath :
    (s.config files).ruleSet = (Config.search files [path]).ruleSet := by
  rw [s.ruleSet_config files]
  simp only [Arguments.configPaths, hs]

theorem Setting.rules_of_load_error {f : Config.LoadError} (hl : Config.load files path = .error f) :
    (s.config files).engineOrBuiltin.rules = .builtin := by
  apply Config.rules_engineOrBuiltin_of_ok
  rw [Setting.ruleSet_of_configPath hs]
  simp only [Config.search, hl]
  exact Config.ruleSet_default

theorem Setting.rules_of_ruleSet_error {c : Config} {f : Config.BuildError}
    (hl : Config.load files path = .ok c) (hr : c.ruleSet = .error f) :
    (s.config files).engineOrBuiltin.rules = .builtin := by
  apply Config.rules_engineOrBuiltin_of_error (e := f)
  rw [Setting.ruleSet_of_configPath hs]
  simp only [Config.search, hl]
  exact hr

theorem Setting.rules_of_ruleSet_ok {c : Config} {rules : RuleSet}
    (hl : Config.load files path = .ok c) (hr : c.ruleSet = .ok rules) :
    (s.config files).engineOrBuiltin.rules = rules := by
  apply Config.rules_engineOrBuiltin_of_ok
  rw [Setting.ruleSet_of_configPath hs]
  simp only [Config.search, hl]
  exact hr

end

/-- A file on the command line that does not load, or whose rules cannot be built, leaves the built-in
rules as they are. Any other adds its rules: the first built-in rule of a table that is on decides where
one matches, else the first of the file's rules in file order, and where none matches nothing is blocked.
Content rules look only at files with the configured suffix. -/
theorem evaluate_of_configPath (s : Setting) (files : Config.Files) (path : String)
    (hs : (Arguments.ofList s.arguments).configPath = some path) :
    let e := (s.config files).engineOrBuiltin
    (∀ f, Config.load files path = .error f → ∀ r, e.evaluate r = Engine.builtin.evaluate r) ∧
    (∀ c f, Config.load files path = .ok c → c.ruleSet = .error f →
      ∀ r, e.evaluate r = Engine.builtin.evaluate r) ∧
    ∀ c rules, Config.load files path = .ok c → c.ruleSet = .ok rules →
      (∀ r, r.kind = .shellExec →
        let found (rule : CommandRule) : Prop := rule.Matches (r.command.getD "")
        (∀ rule, c.commands.builtinRules = true → IsFirst found CommandRule.builtin rule →
          e.evaluate r = rule.block ∧ Engine.builtin.evaluate r = rule.block) ∧
        (Config.Silent c.commands.builtinRules CommandRule.builtin found →
          (∀ rule, IsFirst found c.commands.rules rule → e.evaluate r = rule.block) ∧
          ((∀ rule ∈ c.commands.rules, ¬ found rule) → e.evaluate r = .allow))) ∧
      (∀ r p t, r.kind.isFileChange = true → r.targetPath = some p → r.content = some t → t ≠ "" →
        let found (rule : ContentRule) : Prop := rule.Matches p t
        (¬ c.content.governedSuffix.toList <:+ p.toList → e.evaluate r = .allow) ∧
        (c.content.governedSuffix.toList <:+ p.toList →
          (∀ rule, c.content.builtinRules = true → IsFirst found ContentRule.builtin rule →
            e.evaluate r = rule.block ∧
              (RuleSet.defaultSuffix.toList <:+ p.toList → Engine.builtin.evaluate r = rule.block)) ∧
          (Config.Silent c.content.builtinRules ContentRule.builtin found →
            (∀ rule, IsFirst found c.content.rules rule → e.evaluate r = rule.block) ∧
            ((∀ rule ∈ c.content.rules, ¬ found rule) → e.evaluate r = .allow)))) := by
  intro e
  refine ⟨?unreadable, ?unbuildable, ?built⟩
  case unreadable =>
    intro f hl r
    apply Engine.evaluate_congr
    rw [Engine.rules_builtin, Setting.rules_of_load_error hs hl]
  case unbuildable =>
    intro c f hl hr r
    apply Engine.evaluate_congr
    rw [Engine.rules_builtin, Setting.rules_of_ruleSet_error hs hl hr]
  case built =>
    intro c rules hl hr
    have he : e.rules = rules := Setting.rules_of_ruleSet_ok hs hl hr
    -- both engines are compiled from lists of rules: `hc` from the file, `hb` from the program
    obtain ⟨_, hc⟩ := Config.ruleSet_eq_ok_iff.1 hr
    have hb := RuleSet.compile_builtin
    constructor
    · intro r hk found
      rw [e.evaluate_shellExec hk, Engine.builtin.evaluate_shellExec hk, he, Engine.rules_builtin]
      refine ⟨fun rule hon hf => ⟨?_, ?_⟩, fun hsil => ⟨fun rule hf => ?_, fun hn => ?_⟩⟩
      · exact RuleSet.checkCommand_of_isFirst hc (Config.isFirst_of_builtin hon hf)
      · exact RuleSet.checkCommand_of_isFirst hb hf
      · exact RuleSet.checkCommand_of_isFirst hc (Config.isFirst_of_user hsil hf)
      · exact RuleSet.checkCommand_of_forall_not hc (Config.forall_not_of_user hsil hn)
    · intro r p t hk hp ht hne found
      rw [e.evaluate_fileChange hk hp ht, Engine.builtin.evaluate_fileChange hk hp ht, he,
        Engine.rules_builtin]
      refine ⟨RuleSet.checkContent_of_not_governs hc, fun hg => ⟨fun rule hon hf => ⟨?_, fun hg' => ?_⟩,
        fun hsil => ⟨fun rule hf => ?_, fun hn => ?_⟩⟩⟩
      · exact RuleSet.checkContent_of_isFirst hc hg hne (Config.isFirst_of_builtin hon hf)
      · exact RuleSet.checkContent_of_isFirst hb hg' hne hf
      · exact RuleSet.checkContent_of_isFirst hc hg hne (Config.isFirst_of_user hsil hf)
      · exact RuleSet.checkContent_of_forall_not hc (Config.forall_not_of_user hsil hn)

/-- A file that switches the built-in command rules off beside a rule that does not compile. -/
def brokenFiles (path : String) : Option (List UInt8) :=
  if path = "gate.toml" then
    some (Text.Utf8.encode ("[commands]\nbuiltin_rules = false\n\n[[commands.rules]]\nid = \"broken\"\n" ++
      "pattern = \"(\"\nmessage = \"never compiles\"\n").toList)
  else none

/-- With that file the built-in command rules still decide. -/
theorem evaluate_of_configPath_broken :
    (Arguments.ofList ["--config", "gate.toml"]).configPath = some "gate.toml" ∧
      (Setting.config ⟨["--config", "gate.toml"], fun _ => none, some "/home/me"⟩ brokenFiles).engineOrBuiltin.evaluate
          { kind := .shellExec, toolName := "Bash", command := some "sudo ls" } =
        Engine.builtin.evaluate { kind := .shellExec, toolName := "Bash", command := some "sudo ls" } := by
  have hs : (Arguments.ofList ["--config", "gate.toml"]).configPath = some "gate.toml" := by decide +kernel
  have hl : Config.load brokenFiles "gate.toml" =
      .ok { commands := ⟨false, [{ id := "broken", pattern := "(", message := "never compiles" }]⟩ } := by
    decide +kernel
  have hr : ({ commands := ⟨false, [{ id := "broken", pattern := "(", message := "never compiles" }]⟩ } :
      Config).ruleSet = .error (.invalidPattern ⟨"broken", .unclosedGroup⟩) := by
    decide +kernel
  exact ⟨hs, (evaluate_of_configPath ⟨["--config", "gate.toml"], fun _ => none, some "/home/me"⟩ brokenFiles
    "gate.toml" hs).2.1 _ _ hl hr _⟩

end Cli

/-!
## How tables are built

A configuration has all its rules built, or none of them and one reason why.
`Config.ruleSet_exact` says which: an empty suffix before anything else, then the
first of the user's rules with a pattern that does not compile, content rules
before command rules. The tables hold every rule once, the built-in ones first and
the user's in file order.
-/

/-! ### The first failure -/

section
variable {ε α β : Type} {f : α → Except ε β} {l : List α}

theorem mapM_eq_error_iff {e : ε} :
    l.mapM f = .error e ↔ ∃ a, IsFirst (fun a => ∃ e, f a = .error e) l a ∧ f a = .error e := by
  -- the list is read from the front, so the entries before the one that fails were all accepted
  induction l with
  | nil =>
    simp only [IsFirst.not_nil, false_and, exists_false, iff_false]
    intro h
    cases h
  | cons b l ih =>
    rw [List.mapM_cons, bind_eq_error_iff]
    refine ⟨fun h => ?_, fun h => ?_⟩
    · rcases h with hb | ⟨c, hc, h⟩
      · exact ⟨b, .head ⟨e, hb⟩, hb⟩
      · rcases bind_eq_error_iff.1 h with hl | ⟨cs, _, h⟩
        · obtain ⟨a, ha, hf⟩ := ih.1 hl
          exact ⟨a, .tail (by simp [hc]) ha, hf⟩
        · cases h
    · obtain ⟨a, ha, hf⟩ := h
      cases ha with
      | head _ => exact .inl hf
      | tail hb ha =>
        cases hc : f b with
        | error e' => exact absurd ⟨e', hc⟩ hb
        | ok c => exact .inr ⟨c, rfl, bind_eq_error_iff.2 (.inl (ih.2 ⟨a, ha, hf⟩))⟩

theorem exists_mapM_eq_ok_iff : (∃ m, l.mapM f = .ok m) ↔ ∀ a ∈ l, ¬ ∃ e, f a = .error e := by
  refine ⟨fun h a ha hf => ?_, fun h => ?_⟩
  · obtain ⟨m, hm⟩ := h
    obtain ⟨b, hb⟩ := IsFirst.exists_of_mem (P := fun a => ∃ e, f a = .error e) ⟨a, ha, hf⟩
    obtain ⟨e, he⟩ := hb.holds
    have herror := mapM_eq_error_iff.2 ⟨b, hb, he⟩
    rw [hm] at herror
    cases herror
  · cases hm : l.mapM f with
    | ok m => exact ⟨m, rfl⟩
    | error e =>
      obtain ⟨a, ha, _⟩ := mapM_eq_error_iff.1 hm
      exact absurd ha.holds (h a ha.mem)

end

/-! ### Rules with a pattern that does not compile -/

theorem compileFor_eq_error_iff {id source : String} {ignoreCase : Bool} {p : InvalidPattern} :
    compileFor id ignoreCase source = .error p ↔
      id = p.id ∧ Pattern.compile ignoreCase source = .error p.fault := by
  unfold compileFor
  cases Pattern.compile ignoreCase source with
  | ok q => simp
  | error f =>
    obtain ⟨id', f'⟩ := p
    simp

inductive Rule where
  | content (r : ContentRule)
  | command (r : CommandRule)

namespace Rule

def id : Rule → String
  | content r => r.id
  | command r => r.id

def Broken : Rule → Prop
  | content r => (∃ f, Pattern.compile true r.path = .error f) ∨ ∃ f, Pattern.compile false r.pattern = .error f
  | command r => ∃ f, Pattern.compile false r.pattern = .error f

/-- The fault of a rule is that of its first pattern that does not compile; the path comes before the
content. -/
inductive HasFault : Rule → Pattern.Fault → Prop
  | path {r f} : Pattern.compile true r.path = .error f → HasFault (.content r) f
  | content {r p f} : Pattern.compile true r.path = .ok p → Pattern.compile false r.pattern = .error f →
      HasFault (.content r) f
  | command {r f} : Pattern.compile false r.pattern = .error f → HasFault (.command r) f

end Rule

theorem ContentRule.compile_eq_error_iff (r : ContentRule) (p : InvalidPattern) :
    r.compile = .error p ↔ (Rule.content r).id = p.id ∧ (Rule.content r).HasFault p.fault := by
  unfold compile
  simp only [bind_eq_error_iff, compileFor_eq_error_iff, compileFor_eq_ok_iff]
  refine ⟨fun h => ?_, fun h => ?_⟩
  · rcases h with ⟨hid, hf⟩ | ⟨q, hq, ⟨hid, hf⟩ | ⟨_, _, h⟩⟩
    · exact ⟨hid, .path hf⟩
    · exact ⟨hid, .content hq hf⟩
    · cases h
  · obtain ⟨hid, hf⟩ := h
    cases hf with
    | path hf => exact .inl ⟨hid, hf⟩
    | content hq hf => exact .inr ⟨_, hq, .inl ⟨hid, hf⟩⟩

theorem CommandRule.compile_eq_error_iff (r : CommandRule) (p : InvalidPattern) :
    r.compile = .error p ↔ (Rule.command r).id = p.id ∧ (Rule.command r).HasFault p.fault := by
  unfold compile
  simp only [bind_eq_error_iff, compileFor_eq_error_iff]
  refine ⟨fun h => ?_, fun h => ?_⟩
  · rcases h with ⟨hid, hf⟩ | ⟨_, _, h⟩
    · exact ⟨hid, .command hf⟩
    · cases h
  · obtain ⟨hid, hf⟩ := h
    cases hf with
    | command hf => exact .inl ⟨hid, hf⟩

theorem Rule.broken_iff {r : Rule} : r.Broken ↔ ∃ f, r.HasFault f := by
  refine ⟨fun h => ?_, fun h => ?_⟩
  · cases r with
    | command r =>
      obtain ⟨f, hf⟩ := h
      exact ⟨f, .command hf⟩
    | content r =>
      cases hp : Pattern.compile true r.path with
      | error f => exact ⟨f, .path hp⟩
      | ok p =>
        rcases h with ⟨f, hf⟩ | ⟨f, hf⟩
        · rw [hp] at hf; cases hf
        · exact ⟨f, .content hp hf⟩
  · obtain ⟨f, hf⟩ := h
    cases hf with
    | path hf => exact .inl ⟨f, hf⟩
    | content _ hf => exact .inr ⟨f, hf⟩
    | command hf => exact ⟨f, hf⟩

/-! ### Tables -/

section
variable {α β : Type} {rule : α → Rule} {compile : α → Except InvalidPattern β}
  (hc : ∀ a p, compile a = .error p ↔ (rule a).id = p.id ∧ (rule a).HasFault p.fault)
include hc

theorem broken_iff_compile (a : α) : (rule a).Broken ↔ ∃ p, compile a = .error p := by
  rw [Rule.broken_iff]
  refine ⟨fun h => ?_, fun h => ?_⟩
  · obtain ⟨f, hf⟩ := h
    exact ⟨⟨(rule a).id, f⟩, (hc a _).2 ⟨rfl, hf⟩⟩
  · obtain ⟨p, hp⟩ := h
    exact ⟨p.fault, ((hc a p).1 hp).2⟩

theorem mapM_compile_eq_error_iff {l : List α} {p : InvalidPattern} :
    l.mapM compile = .error p ↔
      ∃ r, IsFirst Rule.Broken (l.map rule) r ∧ r.id = p.id ∧ r.HasFault p.fault := by
  simp only [mapM_eq_error_iff, IsFirst.map_iff, broken_iff_compile hc]
  refine ⟨fun h => ?_, fun h => ?_⟩
  · obtain ⟨a, ha, hp⟩ := h
    exact ⟨rule a, ⟨a, ha, rfl⟩, (hc a p).1 hp⟩
  · obtain ⟨_, ⟨a, ha, rfl⟩, hp⟩ := h
    exact ⟨a, ha, (hc a p).2 hp⟩

theorem exists_mapM_compile_iff {l : List α} :
    (∃ m, l.mapM compile = .ok m) ↔ ∀ r ∈ l.map rule, ¬ r.Broken := by
  simp only [exists_mapM_eq_ok_iff, List.forall_mem_map, broken_iff_compile hc]

end

namespace RuleSet
variable {content : List ContentRule} {commands : List CommandRule}

theorem compile_eq_error_iff (governedSuffix : String) {p : InvalidPattern} :
    compile governedSuffix content commands = .error p ↔
      ∃ r, IsFirst Rule.Broken (content.map .content ++ commands.map .command) r ∧
        r.id = p.id ∧ r.HasFault p.fault := by
  have hcontent := ContentRule.compile_eq_error_iff
  have hcommand := CommandRule.compile_eq_error_iff
  unfold compile
  refine ⟨fun h => ?_, fun h => ?_⟩
  -- a failure among the command rules is reported only where all content rules compile
  · rcases bind_eq_error_iff.1 h with h | ⟨gs, hgs, h⟩
    · obtain ⟨r, hr, hp⟩ := (mapM_compile_eq_error_iff hcontent).1 h
      exact ⟨r, hr.append_left _, hp⟩
    · rcases bind_eq_error_iff.1 h with h | ⟨_, _, h⟩
      · obtain ⟨r, hr, hp⟩ := (mapM_compile_eq_error_iff hcommand).1 h
        exact ⟨r, hr.append_right ((exists_mapM_compile_iff hcontent).1 ⟨gs, hgs⟩), hp⟩
      · cases h
  · obtain ⟨r, hr, hp⟩ := h
    rcases IsFirst.append_iff.1 hr with hr | ⟨hsound, hr⟩
    · exact bind_eq_error_iff.2 (.inl ((mapM_compile_eq_error_iff hcontent).2 ⟨r, hr, hp⟩))
    · obtain ⟨gs, hgs⟩ := (exists_mapM_compile_iff hcontent).2 hsound
      have h := (mapM_compile_eq_error_iff hcommand).2 ⟨r, hr, hp⟩
      exact bind_eq_error_iff.2 (.inr ⟨gs, hgs, bind_eq_error_iff.2 (.inl h)⟩)

theorem not_broken_of_compile {governedSuffix : String} {r : RuleSet}
    (h : compile governedSuffix content commands = .ok r) :
    ∀ rule ∈ content.map Rule.content ++ commands.map Rule.command, ¬ rule.Broken := by
  intro rule hm hb
  obtain ⟨first, hfirst⟩ := IsFirst.exists_of_mem ⟨rule, hm, hb⟩
  obtain ⟨f, hf⟩ := Rule.broken_iff.1 hfirst.holds
  have herror : compile governedSuffix content commands = .error ⟨first.id, f⟩ :=
    (compile_eq_error_iff _).2 ⟨first, hfirst, rfl, hf⟩
  rw [h] at herror
  cases herror

end RuleSet

/-- The patterns of the guard are those of its rule. -/
def ContentGuard.IsCompiled (g : ContentGuard) : Prop :=
  Pattern.compile true g.rule.path = .ok g.path ∧ Pattern.compile false g.rule.pattern = .ok g.pattern

def CommandGuard.IsCompiled (g : CommandGuard) : Prop := Pattern.compile false g.rule.pattern = .ok g.pattern

theorem ContentRule.compile_iff_isCompiled (r : ContentRule) (g : ContentGuard) :
    r.compile = .ok g ↔ g.rule = r ∧ g.IsCompiled := by
  rw [compile_eq_ok_iff, ContentGuard.IsCompiled]
  refine and_congr_right fun h => ?_
  rw [h]

theorem CommandRule.compile_iff_isCompiled (r : CommandRule) (g : CommandGuard) :
    r.compile = .ok g ↔ g.rule = r ∧ g.IsCompiled := by
  rw [compile_eq_ok_iff, CommandGuard.IsCompiled]
  refine and_congr_right fun h => ?_
  rw [h]

theorem forall₂_iff_map {α β : Type} {R : α → β → Prop} {f : β → α} {P : β → Prop}
    (hR : ∀ a b, R a b ↔ f b = a ∧ P b) {l : List α} {m : List β} :
    List.Forall₂ R l m ↔ m.map f = l ∧ ∀ b ∈ m, P b := by
  have hflip : List.Forall₂ R l m ↔ List.Forall₂ (fun b a => P b ∧ f b = a) m l := by
    refine ⟨fun h => .flip (h.imp fun a b hab => ?_), fun h => .flip (h.imp fun b a hab => ?_)⟩
    · exact ((hR a b).1 hab).symm
    · exact (hR a b).2 hab.symm
  rw [hflip, List.forall₂_and_left, ← List.forall₂_map_left_iff (R := Eq), List.forall₂_eq_eq_eq, and_comm]

namespace RuleSet

/-- A table holds its rules once each, in their order and with their patterns compiled. -/
theorem compile_eq_ok_iff_map {governedSuffix : String} {content : List ContentRule}
    {commands : List CommandRule} {r : RuleSet} :
    compile governedSuffix content commands = .ok r ↔
      r.governedSuffix = governedSuffix ∧
        (r.content.map (·.rule) = content ∧ ∀ g ∈ r.content, g.IsCompiled) ∧
          r.commands.map (·.rule) = commands ∧ ∀ g ∈ r.commands, g.IsCompiled := by
  rw [compile_eq_ok_iff, forall₂_iff_map ContentRule.compile_iff_isCompiled,
    forall₂_iff_map CommandRule.compile_iff_isCompiled]

end RuleSet

/-! ### Configurations -/

namespace Config

/-- The rules of the configuration itself, in the order in which they are compiled. -/
def userRules (c : Config) : List Rule := c.content.rules.map .content ++ c.commands.rules.map .command

theorem not_broken_builtin :
    ∀ r ∈ ContentRule.builtin.map Rule.content ++ CommandRule.builtin.map Rule.command, ¬ r.Broken :=
  RuleSet.not_broken_of_compile RuleSet.compile_builtin

theorem not_broken_of_switch {α : Type} {rule : α → Rule} {builtin : List α}
    (h : ∀ r ∈ builtin.map rule, ¬ r.Broken) (on : Bool) :
    ∀ r ∈ (if on then builtin else []).map rule, ¬ r.Broken := by
  cases on with
  | true => exact h
  | false =>
    intro r hr
    cases hr

theorem isFirst_broken_iff {c : Config} {r : Rule} :
    IsFirst Rule.Broken (c.contentRules.map .content ++ c.commandRules.map .command) r ↔
      IsFirst Rule.Broken c.userRules r := by
  have hcontent := not_broken_of_switch (fun r hr => not_broken_builtin r (List.mem_append_left _ hr))
    c.content.builtinRules
  have hcommand := not_broken_of_switch (fun r hr => not_broken_builtin r (List.mem_append_right _ hr))
    c.commands.builtinRules
  -- the built-in rules lie before the user's in either table, and none of them is broken
  unfold contentRules commandRules userRules
  rw [List.map_append, List.map_append, List.append_assoc, IsFirst.skip_iff hcontent, IsFirst.append_iff,
    IsFirst.skip_iff hcommand, ← IsFirst.append_iff]

theorem ruleSet_eq_emptySuffix_iff {c : Config} :
    c.ruleSet = .error .emptySuffix ↔ c.content.governedSuffix = "" := by
  unfold ruleSet
  by_cases hs : c.content.governedSuffix = ""
  · simp [hs]
  · rw [if_neg (by simpa using hs)]
    cases RuleSet.compile c.content.governedSuffix c.contentRules c.commandRules with
    | ok r => simp [hs]
    | error p => simp [hs]

theorem ruleSet_eq_invalidPattern_iff {c : Config} {p : InvalidPattern} :
    c.ruleSet = .error (.invalidPattern p) ↔ c.content.governedSuffix ≠ "" ∧
      ∃ r, IsFirst Rule.Broken c.userRules r ∧ r.id = p.id ∧ r.HasFault p.fault := by
  simp only [← isFirst_broken_iff, ← RuleSet.compile_eq_error_iff c.content.governedSuffix]
  unfold ruleSet
  by_cases hs : c.content.governedSuffix = ""
  · simp [hs]
  · rw [if_neg (by simpa using hs)]
    cases RuleSet.compile c.content.governedSuffix c.contentRules c.commandRules with
    | ok r => simp
    | error q => simp [hs]

theorem exists_ruleSet_eq_invalidPattern_iff {c : Config} :
    (∃ p, c.ruleSet = .error (.invalidPattern p)) ↔
      c.content.governedSuffix ≠ "" ∧ ∃ r ∈ c.userRules, r.Broken := by
  simp only [ruleSet_eq_invalidPattern_iff]
  refine ⟨fun h => ?_, fun h => ?_⟩
  · obtain ⟨_, hs, r, hr, _⟩ := h
    exact ⟨hs, r, hr.mem, hr.holds⟩
  · obtain ⟨hs, hb⟩ := h
    obtain ⟨r, hr⟩ := IsFirst.exists_of_mem hb
    obtain ⟨f, hf⟩ := Rule.broken_iff.1 hr.holds
    exact ⟨⟨r.id, f⟩, hs, r, hr, rfl, hf⟩

theorem exists_ruleSet_eq_ok_iff {c : Config} :
    (∃ rules, c.ruleSet = .ok rules) ↔
      c.content.governedSuffix ≠ "" ∧ ∀ r ∈ c.userRules, ¬ r.Broken := by
  refine ⟨fun h => ?_, fun h => ?_⟩
  · obtain ⟨rules, h⟩ := h
    refine ⟨(ruleSet_eq_ok_iff.1 h).1, fun r hm hb => ?_⟩
    obtain ⟨p, hp⟩ := exists_ruleSet_eq_invalidPattern_iff.2 ⟨(ruleSet_eq_ok_iff.1 h).1, r, hm, hb⟩
    rw [h] at hp
    cases hp
  · obtain ⟨hs, hsound⟩ := h
    cases hr : c.ruleSet with
    | ok rules => exact ⟨rules, rfl⟩
    | error e =>
      cases e with
      | emptySuffix => exact absurd (ruleSet_eq_emptySuffix_iff.1 hr) hs
      | invalidPattern p =>
        obtain ⟨_, r, hm, hb⟩ := exists_ruleSet_eq_invalidPattern_iff.1 ⟨p, hr⟩
        exact absurd hb (hsound r hm)

/-- What becomes of a configuration's rules. An empty suffix refuses them all, whatever else is wrong; then
the first of the user's rules that does not compile does. Otherwise both tables hold the built-in rules
that are switched on and after them the user's, each once, in file order and with nothing changed. The
engine is refused for the same reason, or has these tables and the switches of the configuration. -/
theorem ruleSet_exact (c : Config) :
    (c.ruleSet = .error .emptySuffix ↔ c.content.governedSuffix = "") ∧
    ((∃ p, c.ruleSet = .error (.invalidPattern p)) ↔
      c.content.governedSuffix ≠ "" ∧ ∃ r ∈ c.userRules, r.Broken) ∧
    (∀ p, c.ruleSet = .error (.invalidPattern p) ↔ c.content.governedSuffix ≠ "" ∧
      ∃ r, IsFirst Rule.Broken c.userRules r ∧ r.id = p.id ∧ r.HasFault p.fault) ∧
    ((∃ rules, c.ruleSet = .ok rules) ↔
      c.content.governedSuffix ≠ "" ∧ ∀ r ∈ c.userRules, ¬ r.Broken) ∧
    (∀ rules, c.ruleSet = .ok rules ↔ c.content.governedSuffix ≠ "" ∧
      rules.governedSuffix = c.content.governedSuffix ∧
        (rules.content.map (·.rule) =
            (if c.content.builtinRules then ContentRule.builtin else []) ++ c.content.rules ∧
          ∀ g ∈ rules.content, g.IsCompiled) ∧
        rules.commands.map (·.rule) =
            (if c.commands.builtinRules then CommandRule.builtin else []) ++ c.commands.rules ∧
          ∀ g ∈ rules.commands, g.IsCompiled) ∧
    (∀ e, c.engine = .error e ↔ c.ruleSet = .error e) ∧
    ∀ e, c.engine = .ok e ↔ c.ruleSet = .ok e.rules ∧ e.switches.enabled = c.general.enabled ∧
      e.switches.warnOnly = c.general.warnOnly ∧ e.switches.failClosed = c.general.failClosed := by
  refine ⟨ruleSet_eq_emptySuffix_iff, exists_ruleSet_eq_invalidPattern_iff,
    fun _ => ruleSet_eq_invalidPattern_iff, exists_ruleSet_eq_ok_iff, fun rules => ?built,
    fun _ => map_eq_error_iff, fun e => ?engine⟩
  case built => rw [ruleSet_eq_ok_iff, RuleSet.compile_eq_ok_iff_map]; rfl
  case engine =>
    unfold engine
    rw [map_eq_ok_iff]
    refine ⟨fun h => ?_, fun h => ?_⟩
    · obtain ⟨rules, hr, rfl⟩ := h
      exact ⟨hr, rfl, rfl, rfl⟩
    · obtain ⟨rules, enabled, warnOnly, failClosed⟩ := e
      obtain ⟨hr, rfl, rfl, rfl⟩ := h
      exact ⟨rules, hr, rfl⟩

/-- Of two rules that do not compile the content rule is named. -/
example : Config.ruleSet
    { content := { builtinRules := false, rules := [⟨"reader", "io", "(", "no readers", ""⟩] }
      commands := { builtinRules := false, rules := [⟨"shell", "(", "no shells"⟩] } } =
    .error (.invalidPattern ⟨"reader", .unclosedGroup⟩) := by decide +kernel

end Config

end HookGate
