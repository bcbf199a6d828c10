import HookGate.Proofs.PathCase
import HookGate.Proofs.UserRules
import Mathlib.Data.List.TakeWhile

/-!
# The configuration in force

A run works with one file's settings, or the defaults, and a few switches on top of
them. `Setting.Base` says which file that is and `Setting.Layered` what the
environment and the options add; `Setting.config_layered` puts them together. The
switches only add up, so neither their order nor their number counts, and they
leave the rules alone.
-/

namespace HookGate

/-! ## Values of switches -/

namespace Text

theorem isBlank_toLower (c : Char) : isBlank c.toLower = isBlank c := by
  unfold isBlank
  rw [toNat_toLower]
  by_cases hc : 0x41 ≤ c.toNat ∧ c.toNat ≤ 0x5A
  · rw [if_pos hc]
    have hupper : inRanges c.toNat blankRanges = false := by simp [inRanges, blankRanges]; omega
    have hlower : inRanges (c.toNat + 0x20) blankRanges = false := by simp [inRanges, blankRanges]; omega
    rw [hupper, hlower]
  · rw [if_neg hc]

theorem exists_trim (cs : List Char) :
    ∃ u v, cs = u ++ trim cs ++ v ∧ (∀ c ∈ u, isBlank c = true) ∧ ∀ c ∈ v, isBlank c = true := by
  refine ⟨cs.takeWhile isBlank, ((cs.dropWhile isBlank).reverse.takeWhile isBlank).reverse, ?_,
    fun c hc => ?_, fun c hc => ?_⟩
  · unfold trim
    rw [List.append_assoc, ← List.reverse_append, List.takeWhile_append_dropWhile, List.reverse_reverse,
      List.takeWhile_append_dropWhile]
  · exact List.mem_takeWhile_imp hc
  · exact List.mem_takeWhile_imp (List.mem_reverse.1 hc)

theorem dropWhile_blanks {u w : List Char} (hu : ∀ c ∈ u, isBlank c = true) (hw : ∀ c ∈ w, isBlank c = false)
    (hne : w ≠ []) (v : List Char) : (u ++ w ++ v).dropWhile isBlank = w ++ v := by
  rw [List.append_assoc, List.dropWhile_append_of_pos hu]
  cases w with
  | nil => exact absurd rfl hne
  | cons c w =>
    have hc : isBlank c = false := hw c (List.mem_cons_self ..)
    rw [List.cons_append, List.dropWhile_cons_of_neg (by simp [hc])]

theorem trim_of_surrounded {u w v : List Char} (hu : ∀ c ∈ u, isBlank c = true)
    (hw : ∀ c ∈ w, isBlank c = false) (hne : w ≠ []) (hv : ∀ c ∈ v, isBlank c = true) :
    trim (u ++ w ++ v) = w := by
  unfold trim
  -- read backwards, it is the white space after it that comes first
  have hback := dropWhile_blanks (u := v.reverse) (w := w.reverse) (by simpa using hv) (by simpa using hw)
    (by simpa using hne) []
  rw [List.append_nil, List.append_nil] at hback
  rw [dropWhile_blanks hu hw hne, List.reverse_append, hback, List.reverse_reverse]

end Text

namespace Config

/-- Between white space the value is one of four words, in any letter case. -/
def Truthy (value : String) : Prop :=
  ∃ u w v, value.toList = u ++ w ++ v ∧ (∀ c ∈ u, Text.isBlank c = true) ∧ (∀ c ∈ v, Text.isBlank c = true) ∧
    String.ofList (w.map Char.toLower) ∈ ["1", "true", "yes", "on"]

theorem isTruthy_iff (value : String) : isTruthy value = true ↔ Truthy value := by
  unfold isTruthy
  rw [decide_eq_true_eq]
  refine ⟨fun h => ?_, fun h => ?_⟩
  · obtain ⟨u, v, heq, hu, hv⟩ := Text.exists_trim value.toList
    exact ⟨u, _, v, heq, hu, hv, h⟩
  · obtain ⟨u, w, v, heq, hu, hv, hword⟩ := h
    -- none of the words has white space in it, and lower case makes none
    have hplain : (["1", "true", "yes", "on"].all fun word =>
        word.toList != [] && word.toList.all (!Text.isBlank ·)) = true := by decide
    have hthis := List.all_eq_true.1 hplain _ hword
    simp only [String.toList_ofList, Bool.and_eq_true, bne_iff_ne, List.all_eq_true, Bool.not_eq_true'] at hthis
    obtain ⟨hne, hlower⟩ := hthis
    have hw : ∀ c ∈ w, Text.isBlank c = false := by
      intro c hc
      rw [← Text.isBlank_toLower]
      exact hlower _ (List.mem_map_of_mem hc)
    rw [heq, Text.trim_of_surrounded hu hw (by simpa using hne) hv]
    exact hword

def On (environment : String → Option String) (name : String) : Prop :=
  ∃ value, environment name = some value ∧ Truthy value

theorem isOn_iff (environment : String → Option String) (name : String) :
    isOn environment name = true ↔ On environment name := by
  unfold isOn On
  simp only [Option.any_eq_true, isTruthy_iff]

/-! ## The file that counts -/

def Loads (files : Files) (path : String) : Prop := ∃ c, load files path = .ok c

theorem search_eq_of_isFirst {files : Files} {paths : List String} {path : String} {c : Config}
    (hp : IsFirst (Loads files) paths path) (hc : load files path = .ok c) : search files paths = c := by
  induction hp with
  | head _ => simp only [search, hc]
  | @tail p q paths hq _ ih =>
    cases hl : load files q with
    | ok d => exact absurd ⟨d, hl⟩ hq
    | error f =>
      simp only [search, hl]
      exact ih hc

theorem search_eq_default {files : Files} {paths : List String} (hn : ∀ path ∈ paths, ¬ Loads files path) :
    search files paths = {} := by
  induction paths with
  | nil => rfl
  | cons path paths ih =>
    cases hl : load files path with
    | ok c => exact absurd ⟨c, hl⟩ (hn path (List.mem_cons_self ..))
    | error f =>
      simp only [search, hl]
      exact ih fun p hp => hn p (List.mem_cons_of_mem _ hp)

theorem search_congr {files files' : Files} {paths : List String}
    (h : ∀ path ∈ paths, ∀ c, load files' path = .ok c ↔ load files path = .ok c) :
    search files' paths = search files paths := by
  induction paths with
  | nil => rfl
  | cons path paths ih =>
    have hhere := h path (List.mem_cons_self ..)
    have hrest := ih fun p hp => h p (List.mem_cons_of_mem _ hp)
    cases hl : load files path with
    | ok c => simp only [search, hl, (hhere c).2 hl]
    | error f =>
      cases hl' : load files' path with
      | ok c =>
        rw [(hhere c).1 hl'] at hl
        cases hl
      | error f' => simp only [search, hl, hl', hrest]

/-! ## Switches of the environment -/

section
variable (f g : String → Option String) (c : Config)

theorem override_override : (c.override f).override f = c.override f := by
  simp [override]

theorem override_comm : (c.override f).override g = (c.override g).override f := by
  simp [override, Bool.and_right_comm, Bool.or_right_comm]

theorem ruleSet_override : (c.override f).ruleSet = c.ruleSet := ruleSet_congr rfl rfl

theorem rules_engine_override : (c.override f).engine.map (·.rules) = c.engine.map (·.rules) := by
  unfold engine
  rw [ruleSet_override]
  cases c.ruleSet with
  | ok rules => rfl
  | error e => rfl

end

end Config

/-! ## The configuration of a run -/

namespace Cli

theorem Arguments.override_comm (a : Arguments) (f : String → Option String) (c : Config) :
    (a.override c).override f = a.override (c.override f) := by
  simp [Arguments.override, Config.override, Bool.or_right_comm]

namespace Setting

/-- The configuration below the switches: the one that the command line names and no other, or else the
first at one of the standard places. A file that none can be read from counts as if it were not there. -/
inductive Base (s : Setting) (files : Config.Files) : Config → Prop
  | named {path c} : (Arguments.ofList s.arguments).configPath = some path → Config.load files path = .ok c →
      s.Base files c
  | unloaded {path} : (Arguments.ofList s.arguments).configPath = some path → ¬ Config.Loads files path →
      s.Base files {}
  | found {path c} : (Arguments.ofList s.arguments).configPath = none →
      IsFirst (Config.Loads files) (Config.searchPaths s.home) path → Config.load files path = .ok c →
      s.Base files c
  | nowhere : (Arguments.ofList s.arguments).configPath = none →
      (∀ path ∈ Config.searchPaths s.home, ¬ Config.Loads files path) → s.Base files {}

/-- The switches of the environment and of the options on top of a configuration, and nothing else. -/
structure Layered (s : Setting) (base c : Config) : Prop where
  enabled : c.general.enabled = true ↔
    base.general.enabled = true ∧ ¬ Config.On s.environment Config.disabledVariable
  warnOnly : c.general.warnOnly = true ↔
    base.general.warnOnly = true ∨ Config.On s.environment Config.warnOnlyVariable ∨
      (Arguments.ofList s.arguments).dryRun = true
  failClosed : c.general.failClosed = true ↔
    base.general.failClosed = true ∨ Config.On s.environment Config.failClosedVariable ∨
      (Arguments.ofList s.arguments).failClosed = true
  auditLog : c.general.auditLog = base.general.auditLog
  auditPath : c.general.auditPath = base.general.auditPath
  content : c.content = base.content
  commands : c.commands = base.commands

variable (s : Setting) (files : Config.Files)

def base : Config := Config.search files ((Arguments.ofList s.arguments).configPaths s.home)

theorem isBase_base : s.Base files (s.base files) := by
  unfold base Arguments.configPaths
  cases hp : (Arguments.ofList s.arguments).configPath with
  | some path =>
    by_cases hl : Config.Loads files path
    · obtain ⟨c, hc⟩ := hl
      have hfirst : IsFirst (Config.Loads files) [path] path := .head ⟨c, hc⟩
      simp only [Config.search_eq_of_isFirst hfirst hc]
      exact .named hp hc
    · have hnone : ∀ p ∈ [path], ¬ Config.Loads files p := by simpa using hl
      simp only [Config.search_eq_default hnone]
      exact .unloaded hp hl
  | none =>
    by_cases hl : ∃ path ∈ Config.searchPaths s.home, Config.Loads files path
    · obtain ⟨path, hfirst⟩ := IsFirst.exists_of_mem hl
      obtain ⟨c, hc⟩ := hfirst.holds
      simp only [Config.search_eq_of_isFirst hfirst hc]
      exact .found hp hfirst hc
    · simp only [not_exists, not_and] at hl
      simp only [Config.search_eq_default hl]
      exact .nowhere hp hl

variable {s files}

theorem config_congr {files' : Config.Files}
    (h : ∀ path ∈ (Arguments.ofList s.arguments).configPaths s.home,
      ∀ c, Config.load files' path = .ok c ↔ Config.load files path = .ok c) :
    s.config files' = s.config files := by
  unfold config
  simp only [Config.search_congr h]

theorem Base.eq_base {c : Config} (h : s.Base files c) : c = s.base files := by
  unfold base Arguments.configPaths
  cases h with
  | named hp hc => rw [hp]; exact (Config.search_eq_of_isFirst (.head ⟨c, hc⟩) hc).symm
  | unloaded hp hl => rw [hp]; exact (Config.search_eq_default (by simpa using hl)).symm
  | found hp hfirst hc => rw [hp]; exact (Config.search_eq_of_isFirst hfirst hc).symm
  | nowhere hp hl => rw [hp]; exact (Config.search_eq_default hl).symm

theorem layered_base : s.Layered (s.base files) (s.config files) where
  enabled := by
    rw [← Config.isOn_iff, Bool.not_eq_true, ← Bool.not_eq_true', ← Bool.and_eq_true]
    rfl
  warnOnly := by
    rw [← Config.isOn_iff, ← or_assoc, ← Bool.or_eq_true, ← Bool.or_eq_true]
    rfl
  failClosed := by
    rw [← Config.isOn_iff, ← or_assoc, ← Bool.or_eq_true, ← Bool.or_eq_true]
    rfl
  auditLog := rfl
  auditPath := rfl
  content := rfl
  commands := rfl

/-- The configuration in force. One file, or the defaults, gives the settings, and the environment and the
options change the switches alone. Files from which no configuration can be read are as good as none, and
beside a file on the command line no other counts. Switches of the environment may come again, in any order
and before or after the options, and they leave the rules, or the reason why there are none, as they are. -/
theorem config_layered (s : Setting) (files : Config.Files) :
    (∃ base, s.Base files base ∧ (∀ other, s.Base files other → other = base) ∧
      s.Layered base (s.config files)) ∧
    (∀ files', (∀ path c, Config.load files' path = .ok c ↔ Config.load files path = .ok c) →
      s.config files' = s.config files) ∧
    (∀ files' path, (Arguments.ofList s.arguments).configPath = some path → files' path = files path →
      s.config files' = s.config files) ∧
    ∀ (c : Config) (f g : String → Option String),
      (c.override f).override f = c.override f ∧
      (c.override f).override g = (c.override g).override f ∧
      (∀ a : Arguments, (a.override c).override f = a.override (c.override f)) ∧
      (c.override f).ruleSet = c.ruleSet ∧
      (c.override f).engine.map (·.rules) = c.engine.map (·.rules) := by
  refine ⟨⟨s.base files, s.isBase_base files, fun _ h => h.eq_base, layered_base⟩, fun files' h => ?broken,
    fun files' path hp h => ?named, fun c f g => ?switches⟩
  case broken => exact config_congr fun path _ => h path
  case named =>
    refine config_congr fun p hm c => ?_
    simp only [Arguments.configPaths, hp, List.mem_singleton] at hm
    subst hm
    unfold Config.load
    rw [h]
  case switches =>
    exact ⟨c.override_override f, c.override_comm f g, fun a => a.override_comm f c, c.ruleSet_override f,
      c.rules_engine_override f⟩

def cutOffFiles (path : String) : Option (List UInt8) :=
  if path = ".claude/convention-gate.toml" then some (Text.Utf8.encode "[general]\nenabled = ".toList)
  else if path = "/home/me/.claude/convention-gate/config.toml" then
    some (Text.Utf8.encode "[general]\nwarn_only = true\n".toList)
  else none

/-- The cut off file counts as little as one that is not there, and a variable that says `Off` does nothing. -/
theorem config_layered_cutOff :
    let s : Setting := ⟨["--fail-closed"], fun _ => some " Off\t", some "/home/me"⟩
    let userFiles (path : String) := if path = ".claude/convention-gate.toml" then none else cutOffFiles path
    (∀ path c, Config.load userFiles path = .ok c ↔ Config.load cutOffFiles path = .ok c) ∧
      s.config userFiles = s.config cutOffFiles ∧
      s.config cutOffFiles = { general.warnOnly := true, general.failClosed := true } := by
  intro s userFiles
  have hload : ∀ path c, Config.load userFiles path = .ok c ↔ Config.load cutOffFiles path = .ok c := by
    intro path c
    by_cases hp : path = ".claude/convention-gate.toml"
    · subst hp
      -- neither side loads, the one for want of a file, the other for want of a value
      have hcut : (Config.load cutOffFiles ".claude/convention-gate.toml").toBool = false := by decide +kernel
      refine ⟨fun h => ?_, fun h => ?_⟩
      · cases h
      · rw [h] at hcut
        cases hcut
    · have hsame : userFiles path = cutOffFiles path := if_neg hp
      unfold Config.load
      rw [hsame]
  obtain ⟨-, hbroken, -⟩ := config_layered s cutOffFiles
  refine ⟨hload, hbroken userFiles hload, ?_⟩
  decide +kernel

end Setting

end Cli

end HookGate
