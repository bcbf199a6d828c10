import HookGate.Proofs.Audit
import HookGate.Proofs.Decision

/-!
# The log of a hook run and its answer

A hook run logs one entry, which tells the same as the answer that the caller gets
(`Agrees`); a run that decides nothing leaves every file alone (`run_audits`).
-/

namespace HookGate

/-- The entry and the members of the answer tell the same. -/
structure Agrees (enabled : Bool) (answer : List (String × Json.Value)) (e : Audit.Entry) : Prop where
  disabled_iff : e.outcome = .disabled ↔ enabled = false
  disabled : enabled = false → answer = [] ∧ e.ruleId = none ∧ e.reason = none
  blocked_iff : e.outcome = .blocked ↔ Json.lookup? answer "decision" = some (.string "block")
  blocked : e.outcome = .blocked →
    ∃ reason, e.reason = some reason ∧ Json.lookup? answer "reason" = some (.string reason)
  warned_iff : e.outcome = .warned ↔ (Json.lookup? answer "systemMessage").isSome = true
  warned : e.outcome = .warned →
    ∃ ruleId reason, e.ruleId = some ruleId ∧ e.reason = some reason ∧
      Json.lookup? answer "systemMessage" =
        some (.string ("[convention-gate:" ++ ruleId ++ "] dry-run, would block: " ++ reason))
  allowed_iff : enabled = true → (e.outcome = .allowed ↔ answer = [])
  allowed : e.outcome = .allowed → e.ruleId = none ∧ e.reason = none

theorem agrees_make {enabled : Bool} {v : Verdict} (h : enabled = false → v = .allow) (timestamp : String)
    (r : Request) (sessionId : Option String) :
    Agrees enabled (Response.ofVerdict v).members (.make timestamp r v sessionId (!enabled)) := by
  cases enabled with
  | false =>
    obtain rfl := h rfl
    constructor <;> simp [Audit.Entry.make, Response.ofVerdict, Response.members, Verdict.ruleId?,
      Verdict.reason?]
  | true =>
    cases v with
    | allow =>
      constructor <;> simp [Audit.Entry.make, Audit.Outcome.ofVerdict, Response.ofVerdict, Response.members,
        Verdict.ruleId?, Verdict.reason?]
    | block ruleId reason =>
      constructor <;> simp [Audit.Entry.make, Audit.Outcome.ofVerdict, Response.ofVerdict, Response.members,
        Verdict.ruleId?, Verdict.reason?, Json.lookup?_cons]
    | warn ruleId reason =>
      constructor <;> simp [Audit.Entry.make, Audit.Outcome.ofVerdict, Response.ofVerdict, Response.members,
        Verdict.ruleId?, Verdict.reason?, Json.lookup?_cons]

theorem Payload.toolName_request (p : Payload) : p.request.toolName = p.toolName := by
  unfold request
  split <;> rfl

theorem Engine.decide_of_not_enabled {e : Engine} (h : e.switches.enabled = false)
    (input : Except DecodeError Payload) : (e.decide input).2 = .allow := by
  simp [decide_eq_allow_iff, h]

namespace Cli

theorem Decision.entry_make_of_ok (e : Engine) (timestamp : String) {input : Input} {p : Payload}
    (h : payload input = .ok p) :
    (Decision.make e timestamp input).entry.tool = p.toolName ∧
      (Decision.make e timestamp input).entry.sessionId = p.sessionId := by
  simp only [make, h, Engine.decide, Audit.Entry.make, p.toolName_request]
  trivial

theorem Decision.entry_make_of_error (e : Engine) (timestamp : String) {input : Input} {d : DecodeError}
    (h : payload input = .error d) :
    (Decision.make e timestamp input).entry.tool = "" ∧
      (Decision.make e timestamp input).entry.sessionId = none ∧
        (Decision.make e timestamp input).entry.inputSummary = "Unknown tool" := by
  simp only [make, h]
  exact ⟨rfl, rfl, rfl⟩

theorem Setting.task_of_not_isHook {s : Setting} (hs : (Arguments.ofList s.arguments).isHook = false)
    (files : Config.Files) : ∃ text, s.task files = .print text := by
  unfold task
  dsimp only
  split
  · exact ⟨_, rfl⟩
  split
  · exact ⟨_, rfl⟩
  split
  · exact ⟨_, rfl⟩
  split
  · exact ⟨_, rfl⟩
  · simp_all [Arguments.isHook]

theorem files_run_of_not_isHook {s : Setting} (hs : (Arguments.ofList s.arguments).isHook = false)
    (directory : Location) (timestamp : String) (files : FileTree) (input : Input) :
    (run s directory timestamp files input).files = files := by
  obtain ⟨text, htask⟩ := Setting.task_of_not_isHook hs (files.read directory)
  simp only [run, htask]

/-- What is logged is made from the verdict and from the switch that turns the gate off. -/
theorem Decision.entry_make (c : Config) (timestamp : String) (input : Input) :
    let d := Decision.make c.engineOrBuiltin timestamp input
    d.entry = .make timestamp (c.engineOrBuiltin.decide (payload input)).1 d.verdict
      ((payload input).toOption.bind (·.sessionId)) (!c.general.enabled) := by
  have hsw : c.engineOrBuiltin.switches.enabled = c.general.enabled := by rw [c.switches_engineOrBuiltin]
  simp only [make, hsw]

section
variable {s : Setting} (hs : (Arguments.ofList s.arguments).isHook = true) {directory l : Location}
  (timestamp : String) {files opened : FileTree} (input : Input) {path : String}
  (hpath : (s.config (files.read directory)).auditPath s.home = some path)
  (hopen : files.openAppend directory path = (some l, opened))

include hs hpath hopen

/-- A hook run whose log is open logs its decision and gives the log up; nothing else happens to the files. -/
theorem files_run_of_isHook :
    let c := s.config (files.read directory)
    (run s directory timestamp files input).files =
      (Audit.Trail.run directory ⟨⟨some { target := l }⟩, opened⟩
        [.log timestamp (c.engineOrBuiltin.decide (payload input)).1
          (Decision.make c.engineOrBuiltin timestamp input).verdict
          ((payload input).toOption.bind (·.sessionId)) (!c.general.enabled), .openAt none]).files := by
  intro c
  simp only [Audit.Trail.run, List.foldl_cons, List.foldl_nil, Audit.Trail.next]
  rw [← Decision.entry_make]
  simp only [run, Setting.task_of_isHook hs, hpath, Audit.Logger.openAt, hopen]
  rfl

/-- Of the line of its decision a hook run writes a beginning, and all of it unless the system refuses to take
it. It writes nothing else. -/
theorem exists_part_run {bytes : List UInt8} (hfile : opened.get? l = some (.file bytes)) :
    let e := (Decision.make (s.config (files.read directory)).engineOrBuiltin timestamp input).entry
    let report := run s directory timestamp files input
    ∃ part, part <+: Audit.Logger.line e ∧
      (part = Audit.Logger.line e ∨ ∃ a ∈ files.answers, a.refuses = true) ∧
      report.files.get? l = some (.file (files.content l ++ part)) ∧
      ∀ m, m ≠ l → FileTree.Grown [] (files.get? m) (report.files.get? m) := by
  intro e report
  obtain ⟨⟨hkeeps, hanswers⟩, -⟩ := FileTree.openAppend_spec hopen
  have hbytes : bytes = files.content l := by
    rw [(hkeeps l).content_eq hfile, List.append_nil]
  have hopened : Audit.Trail.Sound ⟨⟨some { target := l }⟩, opened⟩ := by
    intro w hw
    cases hw
    exact ⟨_, hfile, by simp⟩
  have hpart := Audit.Trail.exists_part_log directory hopened
    (fun m => by rw [Audit.Trail.held_of_some rfl]; split <;> rfl) rfl hfile timestamp
  rw [hanswers] at hpart
  simp only [report, e]
  rw [files_run_of_isHook hs timestamp input hpath hopen, Decision.entry_make]
  obtain ⟨part, hprefix, hwhole, hline, hothers⟩ := hpart _ _ _ _
  refine ⟨part, hprefix, hwhole, ?_, fun m hm => (hkeeps m).trans (hothers m hm)⟩
  rw [← hbytes]
  exact hline

end

/-- The audit law. A hook run whose log opens as a regular file makes one entry, whose line it appends to that
file, or a beginning of the line if the system refuses to take more, and it writes nothing to any other file.
A whole line after finished lines is a line of its own. What is read in the entry's line and in the answer on
standard output agrees, and the entry names the tool and the session of the payload, if there is one. A run that
is asked for something else leaves every file as it is. -/
theorem run_audits (s : Setting) (directory : Location) (timestamp : String) (files : FileTree)
    (input : Input) :
    let c := s.config (files.read directory)
    let e := (Decision.make c.engineOrBuiltin timestamp input).entry
    let report := run s directory timestamp files input
    ((Arguments.ofList s.arguments).isHook = true → ∀ path l opened bytes,
      c.auditPath s.home = some path → files.openAppend directory path = (some l, opened) →
      opened.get? l = some (.file bytes) →
        ∃ part answer members,
          report.files.get? l = some (.file (files.content l ++ part)) ∧
          part <+: Audit.Logger.line e ∧
          (part = Audit.Logger.line e ∨ ∃ a ∈ files.answers, a.refuses = true) ∧
          (part = Audit.Logger.line e → Audit.Ended (files.content l) →
            Audit.lines (files.content l ++ part) =
              Audit.lines (files.content l) ++ [Text.Utf8.encode e.text.toList]) ∧
          (∀ m, m ≠ l → FileTree.Grown [] (files.get? m) (report.files.get? m)) ∧
          Json.Value.read e.text = .ok (.object members) ∧ e.Says members ∧
          Json.Value.read report.stdout = .ok (.object answer) ∧ Agrees c.general.enabled answer e ∧
          (∀ p, payload input = .ok p → e.tool = p.toolName ∧ e.sessionId = p.sessionId) ∧
          ∀ d, payload input = .error d →
            e.tool = "" ∧ e.sessionId = none ∧ e.inputSummary = "Unknown tool") ∧
      ((Arguments.ofList s.arguments).isHook = false → report.files = files) := by
  intro c e report
  refine ⟨fun hs path l opened bytes hpath hopen hfile => ?_,
    fun hs => files_run_of_not_isHook hs directory timestamp files input⟩
  let d := Decision.make c.engineOrBuiltin timestamp input
  obtain ⟨part, hpart, hwhole, hfile, hothers⟩ := exists_part_run hs timestamp input hpath hopen hfile
  have hstdout : report.stdout = (Response.ofVerdict d.verdict).text ++ "\n" :=
    (run_of_isHook hs directory timestamp files input).2
  refine ⟨part, (Response.ofVerdict d.verdict).members, e.members, hfile, hpart, hwhole, ?line, hothers,
    e.read_text, e.says_members, ?answer, ?agrees, fun p hp => Decision.entry_make_of_ok _ timestamp hp,
    fun d hd => Decision.entry_make_of_error _ timestamp hd⟩
  case line =>
    intro hall hended
    rw [hall]
    simpa using Audit.lines_log hended [e]
  case answer =>
    rw [hstdout]
    exact Response.read_text_append _ (by decide)
  -- both sides are made from the verdict of the same engine
  case agrees =>
    have hallow : c.general.enabled = false → d.verdict = .allow := by
      intro h
      refine Engine.decide_of_not_enabled ?_ (payload input)
      rw [c.switches_engineOrBuiltin]
      exact h
    change Agrees c.general.enabled (Response.ofVerdict d.verdict).members d.entry
    rw [Decision.entry_make]
    exact agrees_make hallow timestamp _ _

def loggingConfig : List UInt8 :=
  Text.Utf8.encode "[general]\naudit_log = true\naudit_path = \"audit.jsonl\"\n".toList

/-- A forbidden command is logged as blocked, with the reason that the caller is given. -/
theorem run_audits_blocked :
    let files := ({} : FileTree).set ["gate.toml"] (.file loggingConfig)
    let report := run ⟨["-c", "gate.toml"], fun _ => none, some "/home/me"⟩ [] "" files (.ok sudoPayload)
    report.stdout = (Response.stop "[safety rule] sudo is forbidden").text ++ "\n" ∧
      ∃ e, report.files.get? ["audit.jsonl"] = some (.file (Audit.Logger.line e)) ∧ e.outcome = .blocked ∧
        e.reason = some "[safety rule] sudo is forbidden" := by
  intro files report
  have hstdout : report.stdout = (Response.stop "[safety rule] sudo is forbidden").text ++ "\n" := by
    decide +kernel
  obtain ⟨part, answer, -, hfile, -, hwhole, -, -, -, -, hanswer, hagrees, -⟩ :=
    (run_audits ⟨["-c", "gate.toml"], fun _ => none, some "/home/me"⟩ [] "" files (.ok sudoPayload)).1
      (by decide) "audit.jsonl" ["audit.jsonl"] (files.set ["audit.jsonl"] (.file [])) []
      (by decide +kernel) (by decide) (by decide)
  have hline := hwhole.resolve_right fun ⟨a, ha, _⟩ => by cases ha
  have hnew : files.content ["audit.jsonl"] = [] := by decide
  rw [hnew, List.nil_append, hline] at hfile
  rw [hstdout, Response.read_text_append _ (by decide)] at hanswer
  cases hanswer
  have hblocked := hagrees.blocked_iff.2 rfl
  obtain ⟨reason, hreason, hsame⟩ := hagrees.blocked hblocked
  cases hsame
  exact ⟨hstdout, _, hfile, hblocked, hreason⟩

/-- On a device without room nothing of the entry is written, and after an unfinished line it is no line of its
own, though the log opens as a regular file. -/
theorem run_audits_unfinished :
    let s : Setting := ⟨["-c", "gate.toml"], fun _ => none, some "/home/me"⟩
    let configured := ({} : FileTree).set ["gate.toml"] (.file loggingConfig)
    let noRoom := { configured with answers := [.fails .noSpace, .fails .noSpace] }
    let unfinished := configured.set ["audit.jsonl"] (.file [0x78])
    let e := (Decision.make (s.config (configured.read [])).engineOrBuiltin "" (.ok [])).entry
    (Arguments.ofList s.arguments).isHook = true ∧
      (s.config (noRoom.read [])).auditPath s.home = some "audit.jsonl" ∧
      (noRoom.openAppend [] "audit.jsonl").1 = some ["audit.jsonl"] ∧
      (noRoom.openAppend [] "audit.jsonl").2.get? ["audit.jsonl"] = some (.file []) ∧
      (run s [] "" noRoom (.ok [])).files.get? ["audit.jsonl"] = some (.file []) ∧
      (s.config (unfinished.read [])).auditPath s.home = some "audit.jsonl" ∧
      (unfinished.openAppend [] "audit.jsonl").1 = some ["audit.jsonl"] ∧
      (unfinished.openAppend [] "audit.jsonl").2.get? ["audit.jsonl"] = some (.file [0x78]) ∧
      (run s [] "" unfinished (.ok [])).files.get? ["audit.jsonl"] = some (.file (0x78 :: Audit.Logger.line e)) ∧
      Audit.lines (0x78 :: Audit.Logger.line e) = [0x78 :: Text.Utf8.encode e.text.toList] := by
  decide +kernel

end Cli

end HookGate
