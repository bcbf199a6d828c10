import HookGate.Proofs.ConfigDocument
import HookGate.Proofs.EffectiveConfig
import HookGate.Proofs.Text.Utf8
import HookGate.Proofs.Toml.Headers

/-!
# Configuration files

A file is taken as a whole or not at all (`Config.load_document`). What it sets does not
depend on the order of names and tables nor on names that are not known, and rules keep
the order in which they are written.
-/

namespace HookGate

open Toml (Value Document plain)

namespace Config

/-! ## Order and unknown names -/

/-- The tables have the same for a name, up to what `alike` leaves open. -/
def SameAt (alike : Value → Value → Prop) (ms ms' : Members) (name : String) : Prop :=
  (∀ v, (name, v) ∈ ms → ∃ v', (name, v') ∈ ms' ∧ alike v v') ∧
    ∀ v', (name, v') ∈ ms' → ∃ v, (name, v) ∈ ms ∧ alike v v'

def SameIn (names : List String) (ms ms' : Members) : Prop := ∀ name ∈ names, SameAt (· = ·) ms ms' name

def SameTable (same : Members → Members → Prop) (v v' : Value) : Prop :=
  ∃ ms ms', v = .table ms ∧ v' = .table ms' ∧ same ms ms'

def SameList (same : Members → Members → Prop) (v v' : Value) : Prop :=
  v = v' ∨ ∃ items items', v = .array items ∧ v' = .array items' ∧ List.Forall₂ (SameTable same) items items'

structure Content.Same (ms ms' : Members) : Prop where
  governedSuffix : SameAt (· = ·) ms ms' "governed_suffix"
  builtinRules : SameAt (· = ·) ms ms' "builtin_rules"
  rules : SameAt (SameList (SameIn ["id", "path", "pattern", "message", "suggestion"])) ms ms' "rules"

structure Commands.Same (ms ms' : Members) : Prop where
  builtinRules : SameAt (· = ·) ms ms' "builtin_rules"
  rules : SameAt (SameList (SameIn ["id", "pattern", "message"])) ms ms' "rules"

/-- The documents say the same under known names, in whatever order, and anything under others. -/
structure Same (d d' : Document) : Prop where
  general : SameAt (SameTable (SameIn ["enabled", "warn_only", "fail_closed", "audit_log", "audit_path"])) d d'
    "general"
  content : SameAt (SameTable Content.Same) d d' "content"
  commands : SameAt (SameTable Commands.Same) d d' "commands"

section
variable {α : Type} {ms ms' : Members} {name : String}

theorem SameAt.mem_iff (h : SameAt (· = ·) ms ms' name) (v : Value) : (name, v) ∈ ms ↔ (name, v) ∈ ms' := by
  refine ⟨fun hv => ?_, fun hv => ?_⟩
  · obtain ⟨_, hv', rfl⟩ := h.1 v hv
    exact hv'
  · obtain ⟨_, hv', rfl⟩ := h.2 v hv
    exact hv'

theorem SameAt.given_iff {alike : Value → Value → Prop} (h : SameAt alike ms ms' name) {is : Value → α → Prop}
    (hi : ∀ v v', alike v v' → ∀ a, is v a ↔ is v' a) {default a : α} :
    Given is ms name default a ↔ Given is ms' name default a := by
  refine ⟨fun hg => ?_, fun hg => ?_⟩
  · cases hg with
    | present hv ha =>
      obtain ⟨v', hv', halike⟩ := h.1 _ hv
      exact .present hv' ((hi _ _ halike _).1 ha)
    | absent habsent =>
      refine .absent fun v' hv' => ?_
      obtain ⟨v, hv, -⟩ := h.2 v' hv'
      exact habsent v hv
  · cases hg with
    | present hv' ha =>
      obtain ⟨v, hv, halike⟩ := h.2 _ hv'
      exact .present hv ((hi _ _ halike _).2 ha)
    | absent habsent =>
      refine .absent fun v hv => ?_
      obtain ⟨v', hv', -⟩ := h.1 v hv
      exact habsent v' hv'

theorem SameAt.given_iff_of_eq (h : SameAt (· = ·) ms ms' name) {is : Value → α → Prop} {default a : α} :
    Given is ms name default a ↔ Given is ms' name default a :=
  h.given_iff fun v v' heq a => by rw [heq]

variable {describes : Members → α → Prop} {same : Members → Members → Prop}

theorem isTable_congr (hs : ∀ ms ms', same ms ms' → ∀ a, describes ms a ↔ describes ms' a) (v v' : Value)
    (h : SameTable same v v') (a : α) : IsTable describes v a ↔ IsTable describes v' a := by
  obtain ⟨ms, ms', rfl, rfl, h⟩ := h
  simp [IsTable, hs ms ms' h]

theorem isList_congr (hs : ∀ ms ms', same ms ms' → ∀ a, describes ms a ↔ describes ms' a) (v v' : Value)
    (h : SameList same v v') (as : List α) : IsList describes v as ↔ IsList describes v' as := by
  rcases h with rfl | ⟨items, items', rfl, rfl, h⟩
  · rfl
  · suffices List.Forall₂ (IsTable describes) items as ↔ List.Forall₂ (IsTable describes) items' as by
      simpa [IsList] using this
    induction h generalizing as with
    | nil => rfl
    | cons hv _ ih => simp only [List.forall₂_cons_left_iff, isTable_congr hs _ _ hv, ih]

end

end Config

theorem ContentRule.describes_congr (ms ms' : Config.Members)
    (h : Config.SameIn ["id", "path", "pattern", "message", "suggestion"] ms ms') (r : ContentRule) :
    r.Describes ms ↔ r.Describes ms' := by
  rw [describes_iff, describes_iff, (h "id" (by decide)).mem_iff, (h "path" (by decide)).mem_iff,
    (h "pattern" (by decide)).mem_iff, (h "message" (by decide)).mem_iff,
    (h "suggestion" (by decide)).given_iff_of_eq]

theorem CommandRule.describes_congr (ms ms' : Config.Members)
    (h : Config.SameIn ["id", "pattern", "message"] ms ms') (r : CommandRule) :
    r.Describes ms ↔ r.Describes ms' := by
  rw [describes_iff, describes_iff, (h "id" (by decide)).mem_iff, (h "pattern" (by decide)).mem_iff,
    (h "message" (by decide)).mem_iff]

namespace Config

theorem General.describes_congr (ms ms' : Members)
    (h : SameIn ["enabled", "warn_only", "fail_closed", "audit_log", "audit_path"] ms ms') (g : General) :
    g.Describes ms ↔ g.Describes ms' := by
  rw [describes_iff, describes_iff, (h "enabled" (by decide)).given_iff_of_eq,
    (h "warn_only" (by decide)).given_iff_of_eq, (h "fail_closed" (by decide)).given_iff_of_eq,
    (h "audit_log" (by decide)).given_iff_of_eq, (h "audit_path" (by decide)).given_iff_of_eq]

theorem Content.describes_congr (ms ms' : Members) (h : Content.Same ms ms') (c : Content) :
    c.Describes ms ↔ c.Describes ms' := by
  rw [describes_iff, describes_iff, h.governedSuffix.given_iff_of_eq, h.builtinRules.given_iff_of_eq,
    h.rules.given_iff (isList_congr ContentRule.describes_congr)]

theorem Commands.describes_congr (ms ms' : Members) (h : Commands.Same ms ms') (c : Commands) :
    c.Describes ms ↔ c.Describes ms' := by
  rw [describes_iff, describes_iff, h.builtinRules.given_iff_of_eq,
    h.rules.given_iff (isList_congr CommandRule.describes_congr)]

theorem describes_congr {d d' : Document} (h : Same d d') (c : Config) : c.Describes d ↔ c.Describes d' := by
  rw [describes_iff, describes_iff, h.general.given_iff (isTable_congr General.describes_congr),
    h.content.given_iff (isTable_congr Content.describes_congr),
    h.commands.given_iff (isTable_congr Commands.describes_congr)]

end Config

/-! ## Rules in tables of their own -/

theorem Config.Given.of_extends {pairs table : Config.Members} {name default s : String}
    (h : Config.Given (· = .string ·) table name default s) (he : Toml.Extends pairs table) :
    Config.Given (· = .string ·) pairs name default s := by
  cases h with
  | present hm hv =>
    subst hv
    exact .present (he.mem_of_string hm) rfl
  | absent habsent => exact .absent fun v hv => habsent v (he.kept _ hv)

theorem ContentRule.Describes.of_extends {pairs table : Config.Members} {r : ContentRule} (h : r.Describes table)
    (he : Toml.Extends pairs table) : r.Describes pairs :=
  ⟨he.mem_of_string h.id, he.mem_of_string h.path, he.mem_of_string h.pattern, he.mem_of_string h.message,
    h.suggestion.of_extends he⟩

theorem CommandRule.Describes.of_extends {pairs table : Config.Members} {r : CommandRule} (h : r.Describes table)
    (he : Toml.Extends pairs table) : r.Describes pairs :=
  ⟨he.mem_of_string h.id, he.mem_of_string h.pattern, he.mem_of_string h.message⟩

namespace Config

/-- The sections are entries of the rules, one each. -/
def Enters {α : Type} (describes : Members → α → Prop) (sections : List Toml.Section) (rules : List α) : Prop :=
  List.Forall₂ (fun s r => describes (plain s.pairs) r) sections rules

theorem enters_of_items {α : Type} {describes : Members → α → Prop}
    (hdesc : ∀ pairs table r, Toml.Extends pairs table → describes table r → describes pairs r)
    {sections : List Toml.Section} {items : List Value} {rules : List α}
    (hs : List.Forall₂ (fun s item => ∃ table, item = .table table ∧ Toml.Extends (plain s.pairs) table) sections
      items)
    (hr : List.Forall₂ (IsTable describes) items rules) : Enters describes sections rules := by
  induction hs generalizing rules with
  | nil => cases hr; exact .nil
  | cons h _ ih =>
    cases hr with
    | cons hr hrs =>
      obtain ⟨table, rfl, he⟩ := h
      obtain ⟨_, heq, hr⟩ := hr
      cases heq
      exact .cons (hdesc _ _ _ he hr) (ih hrs)

theorem enters_of_read {α β : Type} {text : List Char} {d : Document} {pairs : List (Toml.Key × Value)}
    {sections : List Toml.Section} {outer : String} {describes : Members → α → Prop}
    {describesAll : Members → β → Prop} {default b : β} {empty rules : List α} (hread : Document.read text = .ok d)
    (hdivide : Document.divide text = .ok (pairs, sections)) (ht : ∀ v, (outer, v) ∈ d → ∃ ms, v = .table ms)
    (hb : Given (IsTable describesAll) d outer default b)
    (hrules : ∀ ms, describesAll ms b → Given (IsList describes) ms "rules" empty rules)
    (hdesc : ∀ pairs table r, Toml.Extends pairs table → describes table r → describes pairs r)
    (hne : Document.sharing ⟨[outer], "rules"⟩ sections ≠ []) :
    Enters describes (Document.sharing ⟨[outer], "rules"⟩ sections) rules := by
  obtain ⟨inner, items, ho, hi, hs⟩ := Document.items_of_read hread hdivide ht hne
  obtain ⟨hn, hmembers⟩ := Value.distinct_table_iff.1 (Document.distinct_read hread)
  have hinner := (Value.distinct_table_iff.1 (hmembers _ ho)).1
  obtain ⟨_, heq, hb⟩ := hb.of_mem hn ho
  cases heq
  obtain ⟨_, heq, hr⟩ := (hrules _ hb).of_mem hinner hi
  cases heq
  exact enters_of_items hdesc hs hr

/-! ## Files -/

end Config

theorem Cli.Setting.config_of_error {files : Config.Files} {path : String} {e : Config.LoadError}
    (he : Config.load files path = .error e) (s : Cli.Setting) :
    s.config files = s.config fun other => if other = path then none else files other := by
  refine Cli.Setting.config_congr fun other _ c => ?_
  by_cases ho : other = path
  · subst ho
    have hnone : Config.load (fun p => if p = other then none else files p) other = .error .unreadable := by
      simp [Config.load]
    simp [he, hnone]
  · simp [Config.load, ho]

namespace Config

/-- The file holds the text of a document in which sections and rules are tables. -/
structure Holds (files : Files) (path : String) (text : List Char) (d : Document) : Prop where
  decodes : ∃ bytes, files path = some bytes ∧ Text.Utf8.decode bytes = .ok text
  reads : Document.read text = .ok d
  tabular : Tabular d

section
variable {files : Files} {path : String} {text : List Char} {d : Document}

theorem Holds.load_eq (h : Holds files path text d) : load files path = (ofDocument d).mapError .malformed := by
  obtain ⟨bytes, hfile, htext⟩ := h.decodes
  simp only [load, ofBytes, ofText, hfile, htext, h.reads]
  cases ofDocument d with
  | ok c => rfl
  | error f => rfl

theorem Holds.load_eq_ok_iff (h : Holds files path text d) (c : Config) :
    load files path = .ok c ↔ c.Describes d := by
  rw [h.load_eq, mapError_eq_ok_iff, ofDocument_eq_ok_iff (Document.distinct_read h.reads) h.tabular]

theorem Holds.exists_load_iff (h : Holds files path text d) : (∃ c, load files path = .ok c) ↔ WellTyped d := by
  simp only [h.load_eq_ok_iff]
  exact exists_describes_iff (Document.distinct_read h.reads)

theorem Holds.load_eq_malformed (h : Holds files path text d) (hn : ¬ WellTyped d) :
    ∃ f, load files path = .error (.malformed f) := by
  rw [← h.exists_load_iff] at hn
  cases hd : ofDocument d with
  | ok c => exact absurd ⟨c, by rw [h.load_eq, hd]; rfl⟩ hn
  | error f => exact ⟨f, by rw [h.load_eq, hd]; rfl⟩

/-- A file is taken as a whole or not at all. It is taken exactly when all that its document has under known
names is of the right type, and then each setting is what the document says or, where it says nothing, the
default. Neither order nor unknown names count, and rules keep the order in which they are written, tables of
their own with whatever comes between them, too. If it is not taken, it is as good as not there. -/
theorem load_document (h : Holds files path text d) :
    ((∃ c, load files path = .ok c) ↔ WellTyped d) ∧
    (∀ c, load files path = .ok c ↔ c.Describes d) ∧
    (∀ files' path' text' d', Holds files' path' text' d' → Same d d' →
      ∀ c, load files' path' = .ok c ↔ load files path = .ok c) ∧
    (∃ pairs sections, Document.divide text = .ok (pairs, sections) ∧ ∀ c, load files path = .ok c →
      (Document.sharing ⟨["content"], "rules"⟩ sections ≠ [] →
        Enters ContentRule.Describes (Document.sharing ⟨["content"], "rules"⟩ sections) c.content.rules) ∧
      (Document.sharing ⟨["commands"], "rules"⟩ sections ≠ [] →
        Enters CommandRule.Describes (Document.sharing ⟨["commands"], "rules"⟩ sections) c.commands.rules)) ∧
    (¬ WellTyped d → (∃ f, load files path = .error (.malformed f)) ∧
      ∀ s : Cli.Setting, s.config files = s.config fun other => if other = path then none else files other) := by
  obtain ⟨pairs, sections, _, hdivide, -⟩ := Document.builds_of_read h.reads
  refine ⟨h.exists_load_iff, h.load_eq_ok_iff, fun files' path' text' d' h' hs c => ?same,
    ⟨pairs, sections, hdivide, fun c hc => ?rules⟩, fun hn => ?refused⟩
  case same => rw [h.load_eq_ok_iff, h'.load_eq_ok_iff, describes_congr hs]
  case rules =>
    have hdesc := (h.load_eq_ok_iff c).1 hc
    refine ⟨?content, ?commands⟩
    case content =>
      exact enters_of_read h.reads hdivide h.tabular.content hdesc.content (fun _ hms => hms.rules)
        fun _ _ _ he hr => hr.of_extends he
    case commands =>
      exact enters_of_read h.reads hdivide h.tabular.commands hdesc.commands (fun _ hms => hms.rules)
        fun _ _ _ he hr => hr.of_extends he
  case refused =>
    obtain ⟨f, hf⟩ := h.load_eq_malformed hn
    exact ⟨⟨f, hf⟩, Cli.Setting.config_of_error hf⟩

end

/-- Two rules, between them a section that sets one switch and has a name that is not known. -/
def interleaved : String := "[[commands.rules]]
id='a'
pattern='x'
message='m'
[general]
enabled=false
note=1
[[commands.rules]]
message='n'
pattern='y'
id='b'
"

theorem load_document_interleaved :
    let first : Members := [("id", .string "a"), ("pattern", .string "x"), ("message", .string "m")]
    let second : Members := [("message", .string "n"), ("pattern", .string "y"), ("id", .string "b")]
    let d : Document := [("commands", .table [("rules", .array [.table first, .table second])]),
      ("general", .table [("enabled", .boolean false), ("note", .integer 1)])]
    let files : Files := fun _ => some (Text.Utf8.encode interleaved.toList)
    Holds files "gate.toml" interleaved.toList d ∧
      load files "gate.toml" =
        .ok { general.enabled := false, commands.rules := [⟨"a", "x", "m"⟩, ⟨"b", "y", "n"⟩] } := by
  intro first second d files
  have htabular : Tabular d := by
    refine ⟨?_, ?_, ?_, ?_, ?_⟩
    · simp [d]
    · simp [d]
    · simp [d]
    · simp [d]
    · intro ms items hms hitems
      obtain rfl : ms = [("rules", .array [.table first, .table second])] := by simpa [d] using hms
      obtain rfl : items = [.table first, .table second] := by simpa using hitems
      simp
  have hdesc : Describes d { general.enabled := false, commands.rules := [⟨"a", "x", "m"⟩, ⟨"b", "y", "n"⟩] } := by
    refine ⟨.present (.tail _ (.head _)) ⟨_, rfl, ?general⟩, .absent (by simp [d]),
      .present (.head _) ⟨_, rfl, ?commands⟩⟩
    case general =>
      exact ⟨.present (.head _) rfl, .absent (by simp), .absent (by simp), .absent (by simp), .absent (by simp)⟩
    case commands =>
      refine ⟨.absent (by simp), .present (.head _) ⟨_, rfl, .cons ⟨first, rfl, ?_⟩ (.cons ⟨second, rfl, ?_⟩ .nil)⟩⟩
      · exact ⟨by simp [first], by simp [first], by simp [first]⟩
      · exact ⟨by simp [second], by simp [second], by simp [second]⟩
  have h : Holds files "gate.toml" interleaved.toList d := ⟨⟨_, rfl, Text.Utf8.decode_encode _⟩, by decide +kernel, htabular⟩
  exact ⟨h, ((load_document h).2.1 _).2 hdesc⟩

end Config

end HookGate
