import HookGate.Config
import HookGate.Proofs.Toml.Names

/-!
# What a document sets

`Config.Describes` says which configuration a document stands for: the defaults, with what
it says under the known names in their place, name by name. That is the one that is decoded
(`ofDocument_eq_ok_iff`), and there is one exactly when all that stands under known names
has its type (`exists_describes_iff`).
-/

namespace HookGate

open Toml (Value Document)

namespace Config

abbrev Members := List (String × Value)

/-! ## Names -/

/-- What a table gives for a name: what its value is, or the default if it has none. -/
inductive Given {α : Type} (is : Value → α → Prop) (ms : Members) (name : String) (default : α) : α → Prop
  | present {v a} : (name, v) ∈ ms → is v a → Given is ms name default a
  | absent : (∀ v, (name, v) ∉ ms) → Given is ms name default default

def IsTable {α : Type} (describes : Members → α → Prop) (v : Value) (a : α) : Prop :=
  ∃ ms, v = .table ms ∧ describes ms a

def IsList {α : Type} (describes : Members → α → Prop) (v : Value) (as : List α) : Prop :=
  ∃ items, v = .array items ∧ List.Forall₂ (IsTable describes) items as

/-- What a table has for a name, if anything, is of a type. -/
def Typed (ok : Value → Prop) (ms : Members) (name : String) : Prop := ∀ v, (name, v) ∈ ms → ok v

def IsText (v : Value) : Prop := ∃ s, v = .string s

def IsSwitch (v : Value) : Prop := ∃ b, v = .boolean b

def IsTyped (ok : Members → Prop) (v : Value) : Prop := ∃ ms, v = .table ms ∧ ok ms

def AreTyped (ok : Members → Prop) (v : Value) : Prop := ∃ items, v = .array items ∧ ∀ item ∈ items, IsTyped ok item

section
variable {α : Type} {is : Value → α → Prop} {ms : Members} {name : String} {index : Nat} {a default : α}
  {read : Value → Except Fault α}

theorem lookup_eq_none_iff : ms.lookup name = none ↔ ∀ v, (name, v) ∉ ms := by
  rw [Toml.lookup_eq_none_iff, List.mem_map]
  refine ⟨fun h v hv => h ⟨_, hv, rfl⟩, fun h => ?_⟩
  rintro ⟨⟨_, v⟩, hv, rfl⟩
  exact h v hv

theorem Given.of_mem {v : Value} (h : Given is ms name default a) (hn : (ms.map (·.1)).Nodup)
    (hm : (name, v) ∈ ms) : is v a := by
  cases h with
  | present hm' hv =>
    have hl := (Toml.lookup_eq_some_iff hn).2 hm
    rw [(Toml.lookup_eq_some_iff hn).2 hm'] at hl
    cases hl
    exact hv
  | absent habsent => exact absurd hm (habsent v)

theorem get_eq_ok_iff (hn : (ms.map (·.1)).Nodup) (hr : ∀ v, (name, v) ∈ ms → ∀ a, read v = .ok a ↔ is v a) :
    (Record.named ms).get name index read default = .ok a ↔ Given is ms name default a := by
  simp only [Record.get, Record.field?]
  cases hl : ms.lookup name with
  | none =>
    have habsent := lookup_eq_none_iff.1 hl
    refine ⟨fun h => ?_, fun h => ?_⟩
    · cases h; exact .absent habsent
    · cases h with
      | present hm _ => exact absurd hm (habsent _)
      | absent _ => rfl
  | some v =>
    have hm := Toml.mem_of_lookup hl
    exact ⟨fun h => .present hm ((hr v hm a).1 h), fun h => (hr v hm a).2 (h.of_mem hn hm)⟩

theorem require_eq_ok_iff (hn : (ms.map (·.1)).Nodup) (hr : ∀ v a, read v = .ok a ↔ is v a) :
    (Record.named ms).require name index read = .ok a ↔ ∃ v, (name, v) ∈ ms ∧ is v a := by
  unfold Record.require Record.field?
  simp only [← Toml.lookup_eq_some_iff hn]
  cases hl : ms.lookup name with
  | none => simp
  | some v => simp [hr]

theorem exists_given_iff (hn : (ms.map (·.1)).Nodup) :
    (∃ a, Given is ms name default a) ↔ Typed (fun v => ∃ a, is v a) ms name := by
  refine ⟨fun ⟨a, h⟩ v hv => ⟨a, h.of_mem hn hv⟩, fun h => ?_⟩
  by_cases habsent : ∀ v, (name, v) ∉ ms
  · exact ⟨default, .absent habsent⟩
  · obtain ⟨v, hv⟩ := not_forall_not.1 habsent
    obtain ⟨a, ha⟩ := h v hv
    exact ⟨a, .present hv ha⟩

end

theorem text_eq_ok_iff {field s : String} {v : Value} : text field v = .ok s ↔ v = .string s := by
  cases v <;> simp [text, typed, Value.string?]

theorem switch_eq_ok_iff {field : String} {b : Bool} {v : Value} : switch field v = .ok b ↔ v = .boolean b := by
  cases v <;> simp [switch, typed, Value.boolean?]

section
variable {ms : Members} {name field : String} {index : Nat}

theorem requireText_eq_ok_iff (hn : (ms.map (·.1)).Nodup) {s : String} :
    (Record.named ms).require name index (text field) = .ok s ↔ (name, .string s) ∈ ms := by
  rw [require_eq_ok_iff hn fun v a => text_eq_ok_iff]
  simp

theorem getText_eq_ok_iff (hn : (ms.map (·.1)).Nodup) {default s : String} :
    (Record.named ms).get name index (text field) default = .ok s ↔ Given (· = .string ·) ms name default s :=
  get_eq_ok_iff hn fun _ _ _ => text_eq_ok_iff

theorem getSwitch_eq_ok_iff (hn : (ms.map (·.1)).Nodup) {default b : Bool} :
    (Record.named ms).get name index (switch field) default = .ok b ↔ Given (· = .boolean ·) ms name default b :=
  get_eq_ok_iff hn fun _ _ _ => switch_eq_ok_iff

end

section
variable {α : Type} {read : Record → Except Fault α} {describes : Members → α → Prop} {field : String} {v : Value}

theorem record_eq_ok_iff {a : α} (ht : ∃ ms, v = .table ms ∧ ∀ a, read (.named ms) = .ok a ↔ describes ms a) :
    record field read v = .ok a ↔ IsTable describes v a := by
  obtain ⟨ms, rfl, hr⟩ := ht
  have heq : record field read (.table ms) = read (.named ms) := rfl
  simp [heq, hr, IsTable]

theorem list_eq_ok_iff {as : List α} (ht : ∀ items, v = .array items → ∀ item ∈ items, ∃ ms, item = .table ms ∧
    ∀ a, read (.named ms) = .ok a ↔ describes ms a) : list field read v = .ok as ↔ IsList describes v as := by
  unfold list IsList
  rw [bind_eq_ok_iff]
  cases v with
  | array items =>
    -- what holds of every item goes along with the pairs of items and results
    have hitems := ht items rfl
    have hforall : items.mapM (record field read) = .ok as ↔ List.Forall₂ (IsTable describes) items as := by
      rw [mapM_eq_ok_iff]
      refine ⟨fun h => ?_, fun h => ?_⟩
      · exact ((List.forall₂_and_left _ _).2 ⟨hitems, h⟩).imp fun item a h => (record_eq_ok_iff h.1).1 h.2
      · exact ((List.forall₂_and_left _ _).2 ⟨hitems, h⟩).imp fun item a h => (record_eq_ok_iff h.1).2 h.2
    simp [typed, Value.array?, hforall]
  | _ => simp [typed, Value.array?]

variable {ms : Members} {name : String} {index : Nat}

theorem getTable_eq_ok_iff (hd : (Value.table ms).Distinct) (ht : ∀ v, (name, v) ∈ ms → ∃ e, v = .table e)
    (hr : ∀ e, (name, .table e) ∈ ms → (Value.table e).Distinct → ∀ a, read (.named e) = .ok a ↔ describes e a)
    {default a : α} : (Record.named ms).get name index (record field read) default = .ok a ↔
      Given (IsTable describes) ms name default a := by
  obtain ⟨hn, hmembers⟩ := Value.distinct_table_iff.1 hd
  refine get_eq_ok_iff hn fun v hv a => record_eq_ok_iff ?_
  obtain ⟨e, rfl⟩ := ht v hv
  exact ⟨e, rfl, hr e hv (hmembers _ hv)⟩

theorem getList_eq_ok_iff (hd : (Value.table ms).Distinct)
    (ht : ∀ items, (name, .array items) ∈ ms → ∀ item ∈ items, ∃ e, item = .table e)
    (hr : ∀ e, (Value.table e).Distinct → ∀ a, read (.named e) = .ok a ↔ describes e a)
    {default as : List α} : (Record.named ms).get name index (list field read) default = .ok as ↔
      Given (IsList describes) ms name default as := by
  obtain ⟨hn, hmembers⟩ := Value.distinct_table_iff.1 hd
  refine get_eq_ok_iff hn fun v hv as => list_eq_ok_iff fun items hitems item hitem => ?_
  subst hitems
  obtain ⟨e, rfl⟩ := ht items hv item hitem
  exact ⟨e, rfl, hr e (Value.distinct_array_iff.1 (hmembers _ hv) _ hitem)⟩

end

end Config

/-! ## Sections and rules -/

@[mk_iff]
structure ContentRule.Describes (ms : Config.Members) (r : ContentRule) : Prop where
  id : ("id", .string r.id) ∈ ms
  path : ("path", .string r.path) ∈ ms
  pattern : ("pattern", .string r.pattern) ∈ ms
  message : ("message", .string r.message) ∈ ms
  suggestion : Config.Given (· = .string ·) ms "suggestion" "" r.suggestion

@[mk_iff]
structure CommandRule.Describes (ms : Config.Members) (r : CommandRule) : Prop where
  id : ("id", .string r.id) ∈ ms
  pattern : ("pattern", .string r.pattern) ∈ ms
  message : ("message", .string r.message) ∈ ms

namespace Config

@[mk_iff]
structure General.Describes (ms : Members) (g : General) : Prop where
  enabled : Given (· = .boolean ·) ms "enabled" ({} : Config).general.enabled g.enabled
  warnOnly : Given (· = .boolean ·) ms "warn_only" ({} : Config).general.warnOnly g.warnOnly
  failClosed : Given (· = .boolean ·) ms "fail_closed" ({} : Config).general.failClosed g.failClosed
  auditLog : Given (· = .boolean ·) ms "audit_log" ({} : Config).general.auditLog g.auditLog
  auditPath : Given (fun v path => ∃ s, v = .string s ∧ path = some s) ms "audit_path"
    ({} : Config).general.auditPath g.auditPath

@[mk_iff]
structure Content.Describes (ms : Members) (c : Content) : Prop where
  governedSuffix : Given (· = .string ·) ms "governed_suffix" ({} : Config).content.governedSuffix c.governedSuffix
  builtinRules : Given (· = .boolean ·) ms "builtin_rules" ({} : Config).content.builtinRules c.builtinRules
  rules : Given (IsList ContentRule.Describes) ms "rules" ({} : Config).content.rules c.rules

@[mk_iff]
structure Commands.Describes (ms : Members) (c : Commands) : Prop where
  builtinRules : Given (· = .boolean ·) ms "builtin_rules" ({} : Config).commands.builtinRules c.builtinRules
  rules : Given (IsList CommandRule.Describes) ms "rules" ({} : Config).commands.rules c.rules

/-- The configuration has what the document says, and the defaults where it says nothing. -/
@[mk_iff]
structure Describes (d : Document) (c : Config) : Prop where
  general : Given (IsTable General.Describes) d "general" ({} : Config).general c.general
  content : Given (IsTable Content.Describes) d "content" ({} : Config).content c.content
  commands : Given (IsTable Commands.Describes) d "commands" ({} : Config).commands c.commands

end Config

theorem ContentRule.ofRecord_eq_ok_iff {ms : Config.Members} {r : ContentRule} (hn : (ms.map (·.1)).Nodup) :
    ContentRule.ofRecord (.named ms) = .ok r ↔ r.Describes ms := by
  simp only [ContentRule.ofRecord, bind_eq_ok_iff, Config.requireText_eq_ok_iff hn, Config.getText_eq_ok_iff hn]
  refine ⟨fun h => ?_, fun h => ⟨_, h.id, _, h.path, _, h.pattern, _, h.message, _, h.suggestion, rfl⟩⟩
  obtain ⟨_, hid, _, hpath, _, hpattern, _, hmessage, _, hsuggestion, h⟩ := h
  cases h
  exact ⟨hid, hpath, hpattern, hmessage, hsuggestion⟩

theorem CommandRule.ofRecord_eq_ok_iff {ms : Config.Members} {r : CommandRule} (hn : (ms.map (·.1)).Nodup) :
    CommandRule.ofRecord (.named ms) = .ok r ↔ r.Describes ms := by
  simp only [CommandRule.ofRecord, bind_eq_ok_iff, Config.requireText_eq_ok_iff hn]
  refine ⟨fun h => ?_, fun h => ⟨_, h.id, _, h.pattern, _, h.message, rfl⟩⟩
  obtain ⟨_, hid, _, hpattern, _, hmessage, h⟩ := h
  cases h
  exact ⟨hid, hpattern, hmessage⟩

namespace Config

structure Tabular (d : Document) : Prop where
  general : ∀ v, ("general", v) ∈ d → ∃ ms, v = .table ms
  content : ∀ v, ("content", v) ∈ d → ∃ ms, v = .table ms
  commands : ∀ v, ("commands", v) ∈ d → ∃ ms, v = .table ms
  contentRules : ∀ ms items, ("content", .table ms) ∈ d → ("rules", .array items) ∈ ms →
    ∀ item ∈ items, ∃ ms, item = .table ms
  commandRules : ∀ ms items, ("commands", .table ms) ∈ d → ("rules", .array items) ∈ ms →
    ∀ item ∈ items, ∃ ms, item = .table ms

theorem General.ofRecord_eq_ok_iff {ms : Members} {g : General} (hn : (ms.map (·.1)).Nodup) :
    General.ofRecord (.named ms) = .ok g ↔ g.Describes ms := by
  have hpath {name : String} {index : Nat} {default path : Option String} :
      (Record.named ms).get name index (fun v => some <$> text "audit_path" v) default = .ok path ↔
        Given (fun v path => ∃ s, v = .string s ∧ path = some s) ms name default path := by
    refine get_eq_ok_iff hn fun v _ path => ?_
    have hmap : (some <$> text "audit_path" v) = (text "audit_path" v).map some := rfl
    simp only [hmap, map_eq_ok_iff, text_eq_ok_iff, eq_comm (b := path)]
  simp only [General.ofRecord, bind_eq_ok_iff, getSwitch_eq_ok_iff hn, hpath]
  refine ⟨fun h => ?_, fun h => ⟨_, h.enabled, _, h.warnOnly, _, h.failClosed, _, h.auditLog, _, h.auditPath, rfl⟩⟩
  obtain ⟨_, henabled, _, hwarn, _, hfail, _, hlog, _, hpath, h⟩ := h
  cases h
  exact ⟨henabled, hwarn, hfail, hlog, hpath⟩

theorem Content.ofRecord_eq_ok_iff {ms : Members} {c : Content} (hd : (Value.table ms).Distinct)
    (ht : ∀ items, ("rules", .array items) ∈ ms → ∀ item ∈ items, ∃ e, item = .table e) :
    Content.ofRecord (.named ms) = .ok c ↔ c.Describes ms := by
  have hn := (Value.distinct_table_iff.1 hd).1
  have hrules {default rules : List ContentRule} :
      (Record.named ms).get "rules" 2 (list "rules" ContentRule.ofRecord) default = .ok rules ↔
        Given (IsList ContentRule.Describes) ms "rules" default rules :=
    getList_eq_ok_iff hd ht fun e he a => ContentRule.ofRecord_eq_ok_iff (Value.distinct_table_iff.1 he).1
  simp only [Content.ofRecord, bind_eq_ok_iff, getText_eq_ok_iff hn, getSwitch_eq_ok_iff hn, hrules]
  refine ⟨fun h => ?_, fun h => ⟨_, h.governedSuffix, _, h.builtinRules, _, h.rules, rfl⟩⟩
  obtain ⟨_, hsuffix, _, hbuiltin, _, hrules, h⟩ := h
  cases h
  exact ⟨hsuffix, hbuiltin, hrules⟩

theorem Commands.ofRecord_eq_ok_iff {ms : Members} {c : Commands} (hd : (Value.table ms).Distinct)
    (ht : ∀ items, ("rules", .array items) ∈ ms → ∀ item ∈ items, ∃ e, item = .table e) :
    Commands.ofRecord (.named ms) = .ok c ↔ c.Describes ms := by
  have hn := (Value.distinct_table_iff.1 hd).1
  have hrules {default rules : List CommandRule} :
      (Record.named ms).get "rules" 1 (list "rules" CommandRule.ofRecord) default = .ok rules ↔
        Given (IsList CommandRule.Describes) ms "rules" default rules :=
    getList_eq_ok_iff hd ht fun e he a => CommandRule.ofRecord_eq_ok_iff (Value.distinct_table_iff.1 he).1
  simp only [Commands.ofRecord, bind_eq_ok_iff, getSwitch_eq_ok_iff hn, hrules]
  refine ⟨fun h => ?_, fun h => ⟨_, h.builtinRules, _, h.rules, rfl⟩⟩
  obtain ⟨_, hbuiltin, _, hrules, h⟩ := h
  cases h
  exact ⟨hbuiltin, hrules⟩

theorem ofDocument_eq_ok_iff {d : Document} {c : Config} (hd : (Value.table d).Distinct) (ht : Tabular d) :
    ofDocument d = .ok c ↔ c.Describes d := by
  have hgeneral {default g : General} :
      (Record.named d).get "general" 0 (record "general" General.ofRecord) default = .ok g ↔
        Given (IsTable General.Describes) d "general" default g :=
    getTable_eq_ok_iff hd ht.general fun e _ he a => General.ofRecord_eq_ok_iff (Value.distinct_table_iff.1 he).1
  have hcontent {default c : Content} :
      (Record.named d).get "content" 1 (record "content" Content.ofRecord) default = .ok c ↔
        Given (IsTable Content.Describes) d "content" default c :=
    getTable_eq_ok_iff hd ht.content fun e hm he a => Content.ofRecord_eq_ok_iff he (ht.contentRules e · hm)
  have hcommands {default c : Commands} :
      (Record.named d).get "commands" 2 (record "commands" Commands.ofRecord) default = .ok c ↔
        Given (IsTable Commands.Describes) d "commands" default c :=
    getTable_eq_ok_iff hd ht.commands fun e hm he a => Commands.ofRecord_eq_ok_iff he (ht.commandRules e · hm)
  simp only [ofDocument, ofRecord, bind_eq_ok_iff, hgeneral, hcontent, hcommands]
  refine ⟨fun h => ?_, fun h => ⟨_, h.general, _, h.content, _, h.commands, rfl⟩⟩
  obtain ⟨_, hgeneral, _, hcontent, _, hcommands, h⟩ := h
  cases h
  exact ⟨hgeneral, hcontent, hcommands⟩

/-! ## Types -/

theorem typed_congr {ok ok' : Value → Prop} {ms : Members} {name : String} (h : ∀ v, (name, v) ∈ ms → (ok v ↔ ok' v)) :
    Typed ok ms name ↔ Typed ok' ms name :=
  forall₂_congr fun v hv => h v hv

section
variable {α : Type} {describes : Members → α → Prop} {ok : Members → Prop} {v : Value}

theorem exists_isTable_iff (h : ∀ ms, v = .table ms → ((∃ a, describes ms a) ↔ ok ms)) :
    (∃ a, IsTable describes v a) ↔ IsTyped ok v := by
  refine ⟨fun ⟨a, ms, hv, ha⟩ => ⟨ms, hv, (h ms hv).1 ⟨a, ha⟩⟩, fun ⟨ms, hv, hok⟩ => ?_⟩
  obtain ⟨a, ha⟩ := (h ms hv).2 hok
  exact ⟨a, ms, hv, ha⟩

theorem exists_forall₂_iff {β : Type} {R : α → β → Prop} {l : List α} :
    (∃ m, List.Forall₂ R l m) ↔ ∀ a ∈ l, ∃ b, R a b := by
  induction l with
  | nil => exact ⟨fun _ => List.forall_mem_nil _, fun _ => ⟨[], .nil⟩⟩
  | cons a l ih =>
    rw [List.forall_mem_cons, ← ih]
    refine ⟨fun ⟨m, h⟩ => ?_, fun ⟨⟨b, hb⟩, m, hm⟩ => ⟨b :: m, .cons hb hm⟩⟩
    cases h with
    | cons hb hm => exact ⟨⟨_, hb⟩, _, hm⟩

theorem exists_isList_iff (h : ∀ items, v = .array items → ∀ ms, .table ms ∈ items → ((∃ a, describes ms a) ↔ ok ms)) :
    (∃ as, IsList describes v as) ↔ AreTyped ok v := by
  have hitems (items : List Value) (hv : v = .array items) :
      (∃ as, List.Forall₂ (IsTable describes) items as) ↔ ∀ item ∈ items, IsTyped ok item := by
    rw [exists_forall₂_iff]
    refine forall₂_congr fun item hitem => exists_isTable_iff fun ms hms => h items hv ms ?_
    rwa [← hms]
  refine ⟨fun ⟨as, items, hv, h⟩ => ⟨items, hv, (hitems items hv).1 ⟨as, h⟩⟩, fun ⟨items, hv, hok⟩ => ?_⟩
  obtain ⟨as, h⟩ := (hitems items hv).2 hok
  exact ⟨as, items, hv, h⟩

end

end Config

structure ContentRule.WellTyped (ms : Config.Members) : Prop where
  id : ∃ s, ("id", .string s) ∈ ms
  path : ∃ s, ("path", .string s) ∈ ms
  pattern : ∃ s, ("pattern", .string s) ∈ ms
  message : ∃ s, ("message", .string s) ∈ ms
  suggestion : Config.Typed Config.IsText ms "suggestion"

structure CommandRule.WellTyped (ms : Config.Members) : Prop where
  id : ∃ s, ("id", .string s) ∈ ms
  pattern : ∃ s, ("pattern", .string s) ∈ ms
  message : ∃ s, ("message", .string s) ∈ ms

theorem ContentRule.exists_describes_iff {ms : Config.Members} (hd : (Value.table ms).Distinct) :
    (∃ r : ContentRule, r.Describes ms) ↔ ContentRule.WellTyped ms := by
  have hn := (Value.distinct_table_iff.1 hd).1
  refine ⟨fun ⟨r, h⟩ => ?_, fun h => ?_⟩
  · exact ⟨⟨_, h.id⟩, ⟨_, h.path⟩, ⟨_, h.pattern⟩, ⟨_, h.message⟩, (Config.exists_given_iff hn).1 ⟨_, h.suggestion⟩⟩
  · obtain ⟨⟨id, hid⟩, ⟨path, hpath⟩, ⟨pattern, hpattern⟩, ⟨message, hmessage⟩, hsuggestion⟩ := h
    obtain ⟨suggestion, hsuggestion⟩ := (Config.exists_given_iff hn).2 hsuggestion
    exact ⟨⟨id, path, pattern, message, suggestion⟩, hid, hpath, hpattern, hmessage, hsuggestion⟩

theorem CommandRule.exists_describes_iff {ms : Config.Members} :
    (∃ r : CommandRule, r.Describes ms) ↔ CommandRule.WellTyped ms := by
  refine ⟨fun ⟨r, h⟩ => ⟨⟨_, h.id⟩, ⟨_, h.pattern⟩, ⟨_, h.message⟩⟩, fun h => ?_⟩
  obtain ⟨⟨id, hid⟩, ⟨pattern, hpattern⟩, ⟨message, hmessage⟩⟩ := h
  exact ⟨⟨id, pattern, message⟩, hid, hpattern, hmessage⟩

namespace Config

structure General.WellTyped (ms : Members) : Prop where
  enabled : Typed IsSwitch ms "enabled"
  warnOnly : Typed IsSwitch ms "warn_only"
  failClosed : Typed IsSwitch ms "fail_closed"
  auditLog : Typed IsSwitch ms "audit_log"
  auditPath : Typed IsText ms "audit_path"

structure Content.WellTyped (ms : Members) : Prop where
  governedSuffix : Typed IsText ms "governed_suffix"
  builtinRules : Typed IsSwitch ms "builtin_rules"
  rules : Typed (AreTyped ContentRule.WellTyped) ms "rules"

structure Commands.WellTyped (ms : Members) : Prop where
  builtinRules : Typed IsSwitch ms "builtin_rules"
  rules : Typed (AreTyped CommandRule.WellTyped) ms "rules"

/-- What the document has under known names is of their types, and every rule has what it needs. -/
structure WellTyped (d : Document) : Prop where
  general : Typed (IsTyped General.WellTyped) d "general"
  content : Typed (IsTyped Content.WellTyped) d "content"
  commands : Typed (IsTyped Commands.WellTyped) d "commands"

theorem General.exists_describes_iff {ms : Members} (hd : (Value.table ms).Distinct) :
    (∃ g : General, g.Describes ms) ↔ General.WellTyped ms := by
  have hn := (Value.distinct_table_iff.1 hd).1
  have hpath {default : Option String} :
      (∃ path, Given (fun v path => ∃ s, v = .string s ∧ path = some s) ms "audit_path" default path) ↔
        Typed IsText ms "audit_path" := by
    rw [exists_given_iff hn]
    exact typed_congr fun v _ => ⟨fun ⟨_, s, hs, _⟩ => ⟨s, hs⟩, fun ⟨s, hs⟩ => ⟨_, s, hs, rfl⟩⟩
  refine ⟨fun ⟨g, h⟩ => ?_, fun h => ?_⟩
  · exact ⟨(exists_given_iff hn).1 ⟨_, h.enabled⟩, (exists_given_iff hn).1 ⟨_, h.warnOnly⟩,
      (exists_given_iff hn).1 ⟨_, h.failClosed⟩, (exists_given_iff hn).1 ⟨_, h.auditLog⟩, hpath.1 ⟨_, h.auditPath⟩⟩
  · obtain ⟨enabled, henabled⟩ := (exists_given_iff hn).2 h.enabled
    obtain ⟨warnOnly, hwarn⟩ := (exists_given_iff hn).2 h.warnOnly
    obtain ⟨failClosed, hfail⟩ := (exists_given_iff hn).2 h.failClosed
    obtain ⟨auditLog, hlog⟩ := (exists_given_iff hn).2 h.auditLog
    obtain ⟨auditPath, hpath⟩ := hpath.2 h.auditPath
    exact ⟨{ enabled, warnOnly, failClosed, auditLog, auditPath }, henabled, hwarn, hfail, hlog, hpath⟩

theorem exists_rules_iff {α : Type} {describes : Members → α → Prop} {ok : Members → Prop} {ms : Members}
    {name : String} (hd : (Value.table ms).Distinct)
    (h : ∀ e, (Value.table e).Distinct → ((∃ a, describes e a) ↔ ok e)) {default : List α} :
    (∃ as, Given (IsList describes) ms name default as) ↔ Typed (AreTyped ok) ms name := by
  obtain ⟨hn, hmembers⟩ := Value.distinct_table_iff.1 hd
  rw [exists_given_iff hn]
  refine typed_congr fun v hv => exists_isList_iff fun items hitems e he => h e ?_
  subst hitems
  exact Value.distinct_array_iff.1 (hmembers _ hv) _ he

theorem exists_section_iff {α : Type} {describes : Members → α → Prop} {ok : Members → Prop} {ms : Members}
    {name : String} (hd : (Value.table ms).Distinct)
    (h : ∀ e, (Value.table e).Distinct → ((∃ a, describes e a) ↔ ok e)) {default : α} :
    (∃ a, Given (IsTable describes) ms name default a) ↔ Typed (IsTyped ok) ms name := by
  obtain ⟨hn, hmembers⟩ := Value.distinct_table_iff.1 hd
  rw [exists_given_iff hn]
  refine typed_congr fun v hv => exists_isTable_iff fun e he => h e ?_
  subst he
  exact hmembers _ hv

theorem Content.exists_describes_iff {ms : Members} (hd : (Value.table ms).Distinct) :
    (∃ c : Content, c.Describes ms) ↔ Content.WellTyped ms := by
  have hn := (Value.distinct_table_iff.1 hd).1
  have hrules {default : List ContentRule} :
      (∃ rules, Given (IsList ContentRule.Describes) ms "rules" default rules) ↔ _ :=
    exists_rules_iff hd fun e he => ContentRule.exists_describes_iff he
  refine ⟨fun ⟨c, h⟩ => ?_, fun h => ?_⟩
  · exact ⟨(exists_given_iff hn).1 ⟨_, h.governedSuffix⟩, (exists_given_iff hn).1 ⟨_, h.builtinRules⟩,
      hrules.1 ⟨_, h.rules⟩⟩
  · obtain ⟨governedSuffix, hsuffix⟩ := (exists_given_iff hn).2 h.governedSuffix
    obtain ⟨builtinRules, hbuiltin⟩ := (exists_given_iff hn).2 h.builtinRules
    obtain ⟨rules, hrules⟩ := hrules.2 h.rules
    exact ⟨⟨governedSuffix, builtinRules, rules⟩, hsuffix, hbuiltin, hrules⟩

theorem Commands.exists_describes_iff {ms : Members} (hd : (Value.table ms).Distinct) :
    (∃ c : Commands, c.Describes ms) ↔ Commands.WellTyped ms := by
  have hn := (Value.distinct_table_iff.1 hd).1
  have hrules {default : List CommandRule} :
      (∃ rules, Given (IsList CommandRule.Describes) ms "rules" default rules) ↔ _ :=
    exists_rules_iff hd fun _ _ => CommandRule.exists_describes_iff
  refine ⟨fun ⟨c, h⟩ => ?_, fun h => ?_⟩
  · exact ⟨(exists_given_iff hn).1 ⟨_, h.builtinRules⟩, hrules.1 ⟨_, h.rules⟩⟩
  · obtain ⟨builtinRules, hbuiltin⟩ := (exists_given_iff hn).2 h.builtinRules
    obtain ⟨rules, hrules⟩ := hrules.2 h.rules
    exact ⟨⟨builtinRules, rules⟩, hbuiltin, hrules⟩

theorem exists_describes_iff {d : Document} (hd : (Value.table d).Distinct) :
    (∃ c : Config, c.Describes d) ↔ WellTyped d := by
  have hgeneral {default : General} : (∃ g, Given (IsTable General.Describes) d "general" default g) ↔ _ :=
    exists_section_iff hd fun _ => General.exists_describes_iff
  have hcontent {default : Content} : (∃ c, Given (IsTable Content.Describes) d "content" default c) ↔ _ :=
    exists_section_iff hd fun _ => Content.exists_describes_iff
  have hcommands {default : Commands} : (∃ c, Given (IsTable Commands.Describes) d "commands" default c) ↔ _ :=
    exists_section_iff hd fun _ => Commands.exists_describes_iff
  refine ⟨fun ⟨c, h⟩ => ?_, fun h => ?_⟩
  · exact ⟨hgeneral.1 ⟨_, h.general⟩, hcontent.1 ⟨_, h.content⟩, hcommands.1 ⟨_, h.commands⟩⟩
  · obtain ⟨general, hg⟩ := hgeneral.2 h.general
    obtain ⟨content, hc⟩ := hcontent.2 h.content
    obtain ⟨commands, hm⟩ := hcommands.2 h.commands
    exact ⟨⟨general, content, commands⟩, hg, hc, hm⟩

end Config

end HookGate
