import HookGate.Cli
import HookGate.Proofs.Engine
import HookGate.Proofs.Json.Writing

/-!
# What a hook run answers

A hook run prints one line: a decision to block, a notice, or nothing to say. Which of
them it is, the objection to what was read and the switches settle alone
(`run_answers`).
-/

namespace HookGate

/-! ### Responses -/

namespace Response

theorem ofVerdict_eq_proceed_iff {v : Verdict} : ofVerdict v = .proceed ↔ v = .allow := by
  cases v <;> simp [ofVerdict]

theorem ofVerdict_eq_stop_iff {v : Verdict} {reason : String} :
    ofVerdict v = .stop reason ↔ ∃ ruleId, v = .block ruleId reason := by
  cases v <;> simp [ofVerdict]

theorem ofVerdict_eq_notice_iff {v : Verdict} {message : String} :
    ofVerdict v = .notice message ↔
      ∃ ruleId reason, v = .warn ruleId reason ∧
        message = "[convention-gate:" ++ ruleId ++ "] dry-run, would block: " ++ reason := by
  cases v with
  | allow => simp [ofVerdict]
  | block ruleId reason => simp [ofVerdict]
  | warn ruleId reason =>
    simp only [ofVerdict, notice.injEq]
    refine ⟨fun h => ?_, fun h => ?_⟩
    · exact ⟨ruleId, reason, rfl, h.symm⟩
    · obtain ⟨i, m, hv, h⟩ := h
      cases hv; exact h.symm

theorem allStrings_members (r : Response) : Json.AllStrings r.members := by
  intro m hm
  cases r with
  | proceed => cases hm
  | stop reason =>
    simp only [members, List.mem_cons, List.not_mem_nil, or_false] at hm
    rcases hm with rfl | rfl
    · exact ⟨_, rfl⟩
    · exact ⟨_, rfl⟩
  | notice message =>
    simp only [members, List.mem_cons, List.not_mem_nil, or_false] at hm
    subst hm
    exact ⟨_, rfl⟩

/-- Whatever a rule or an error says, the response takes one line. -/
theorem printable_text (r : Response) : Json.Printable r.text.toList :=
  Json.printable_text r.allStrings_members

end Response

/-! ### Hook runs -/

theorem DecodeError.isEmptyInput_eq_false_iff {d : DecodeError} : d.isEmptyInput = false ↔ d ≠ .empty := by
  cases d <;> simp [isEmptyInput]

theorem Config.switches_engineOrBuiltin (c : Config) : c.engineOrBuiltin.switches = c.general.toSwitches := by
  unfold engineOrBuiltin engine
  cases c.ruleSet <;> rfl

theorem Config.engineOrBuiltin_warnOnly (c : Config) (warnOnly : Bool) :
    ({ c with general.warnOnly := warnOnly } : Config).engineOrBuiltin =
      { c.engineOrBuiltin with switches.warnOnly := warnOnly } := by
  have hr : ({ c with general.warnOnly := warnOnly } : Config).ruleSet = c.ruleSet := rfl
  unfold engineOrBuiltin engine
  rw [hr]
  cases c.ruleSet with
  | ok rules => rfl
  | error f => simp only [Except.map]

namespace Cli

/-- No argument asks for anything but a decision. -/
def Arguments.isHook (a : Arguments) : Bool := !a.help && !a.version && !a.printConfig && !a.listRules

theorem Setting.task_of_isHook {s : Setting} (hs : (Arguments.ofList s.arguments).isHook = true)
    (files : Config.Files) :
    s.task files = .decide (s.config files).engineOrBuiltin ((s.config files).auditPath s.home) := by
  simp only [Arguments.isHook, Bool.and_eq_true, Bool.not_eq_true'] at hs
  obtain ⟨⟨⟨hh, hv⟩, hp⟩, hl⟩ := hs
  simp [task, hh, hv, hp, hl]

theorem payload_of_blank {bytes : List UInt8} {cs : List Char} (hd : Text.Utf8.decode bytes = .ok cs)
    (hb : ∀ c ∈ cs, Text.isBlank c = true) : payload (.ok bytes) = .error .empty := by
  have hblank : Text.isBlankText (String.ofList cs) = true := by
    simpa [Text.isBlankText] using hb
  simp [payload, Payload.ofBytes, hd, Payload.ofText, hblank]

theorem Decision.verdict_make (e : Engine) (timestamp : String) (input : Input) :
    (Decision.make e timestamp input).verdict = (e.decide (payload input)).2 := rfl

theorem run_of_isHook {s : Setting} (hs : (Arguments.ofList s.arguments).isHook = true)
    (directory : Location) (timestamp : String) (files : FileTree) (input : Input) :
    let d := Decision.make (s.config (files.read directory)).engineOrBuiltin timestamp input
    (run s directory timestamp files input).exitCode = 0 ∧
      (run s directory timestamp files input).stdout = (Response.ofVerdict d.verdict).text ++ "\n" := by
  simp only [run, Setting.task_of_isHook hs, Decision.output, Verdict.output, and_self]

/-- The decision law. A hook run exits with zero and prints one line, one response. With the switches of
the configuration in force it is a decision to block, a notice of what would be blocked, or empty. A
notice names the rule and the reason for which the same run blocks when the gate does more than warn.
Blank input is never blocked, and other input that makes no request just when the gate fails closed. -/
theorem run_answers (s : Setting) (directory : Location) (timestamp : String) (files : FileTree)
    (input : Input) (hs : (Arguments.ofList s.arguments).isHook = true) :
    let c := s.config (files.read directory)
    let e := c.engineOrBuiltin
    let report := run s directory timestamp files input
    e.switches = c.general.toSwitches ∧ report.exitCode = 0 ∧
      ∃ r : Response, report.stdout = r.text ++ "\n" ∧ Json.Printable r.text.toList ∧
        (∀ reason, r = .stop reason ↔
          c.general.enabled = true ∧ c.general.warnOnly = false ∧
            ∃ ruleId, e.Objects (payload input) ruleId reason) ∧
        (∀ message, r = .notice message ↔
          c.general.enabled = true ∧ c.general.warnOnly = true ∧
            ∃ ruleId reason, e.Objects (payload input) ruleId reason ∧
              message = "[convention-gate:" ++ ruleId ++ "] dry-run, would block: " ++ reason) ∧
        (r = .proceed ↔
          ¬ (c.general.enabled = true ∧ ∃ ruleId reason, e.Objects (payload input) ruleId reason)) ∧
        (∀ ruleId reason, c.general.enabled = true → e.Objects (payload input) ruleId reason →
          let c' : Config := { c with general.warnOnly := false }
          (Decision.make c'.engineOrBuiltin timestamp input).verdict = .block ruleId reason ∧
            ∀ s' directory' timestamp' files', (Arguments.ofList s'.arguments).isHook = true →
              s'.config (FileTree.read files' directory') = c' →
              (run s' directory' timestamp' files' input).stdout = (Response.stop reason).text ++ "\n") ∧
        (∀ bytes cs, input = .ok bytes → Text.Utf8.decode bytes = .ok cs →
          (∀ c ∈ cs, Text.isBlank c = true) → r = .proceed) ∧
        (∀ d, payload input = .error d → d ≠ .empty →
          ((∃ reason, r = .stop reason) ↔
            c.general.enabled = true ∧ c.general.warnOnly = false ∧ c.general.failClosed = true)) := by
  intro c e report
  have hsw : e.switches = c.general.toSwitches := c.switches_engineOrBuiltin
  have hrun := run_of_isHook hs directory timestamp files input
  refine ⟨hsw, hrun.1, Response.ofVerdict (e.decide (payload input)).2, hrun.2,
    Response.printable_text _, ?stop, ?notice, ?proceed, ?unwarned, ?blank, ?malformed⟩
  case stop =>
    intro reason
    simp only [Response.ofVerdict_eq_stop_iff, Engine.decide_eq_block_iff, hsw, exists_and_left]
  case notice =>
    intro message
    simp only [Response.ofVerdict_eq_notice_iff, Engine.decide_eq_warn_iff, hsw, exists_and_left, and_assoc]
  case proceed => rw [Response.ofVerdict_eq_proceed_iff, Engine.decide_eq_allow_iff, hsw]
  -- the other configuration has the same rules, so it objects to the same input
  case unwarned =>
    intro ruleId reason he ho c'
    have hc' : c'.engineOrBuiltin = { e with switches.warnOnly := false } :=
      c.engineOrBuiltin_warnOnly false
    have hblock : (c'.engineOrBuiltin.decide (payload input)).2 = .block ruleId reason := by
      rw [hc', Engine.decide_eq_block_iff]
      refine ⟨by simpa [hsw] using he, rfl, ?_⟩
      apply ho.congr <;> rfl
    refine ⟨hblock, fun s' directory' timestamp' files' hs' hconf => ?_⟩
    rw [(run_of_isHook hs' directory' timestamp' files' input).2, hconf, Decision.verdict_make, hblock]
    rfl
  case blank =>
    intro bytes cs hin hd hb
    rw [hin, payload_of_blank hd hb, Response.ofVerdict_eq_proceed_iff, Engine.decide_eq_allow_iff]
    rintro ⟨_, _, _, ho⟩
    exact Engine.not_objects_empty ho
  case malformed =>
    intro d hp hd
    have hx := Engine.objects_error_iff (e := e) (DecodeError.isEmptyInput_eq_false_iff.2 hd)
    rw [hp]
    simp only [Response.ofVerdict_eq_stop_iff, Engine.decide_eq_block_iff, exists_and_left]
    rw [exists_comm, hx, hsw]

def sudoPayload : List UInt8 :=
  Text.Utf8.encode
    "\x7b\"tool_name\":\"Bash\",\"tool_input\":\x7b\"command\":\"sudo ls\"\x7d\x7d".toList

/-- Without a configuration file and with the option to only warn, a forbidden command is named in a
notice. -/
theorem run_answers_dryRun :
    (Arguments.ofList ["--dry-run"]).isHook = true ∧ ∃ r : Response,
      (run ⟨["--dry-run"], fun _ => none, some "/home/me"⟩ [] "" {} (.ok sudoPayload)).stdout = r.text ++ "\n" ∧
        r = .notice "[convention-gate:sudo] dry-run, would block: [safety rule] sudo is forbidden" := by
  have hs : (Arguments.ofList ["--dry-run"]).isHook = true := by decide +kernel
  obtain ⟨-, -, r, hr, -, -, hnotice, -⟩ :=
    run_answers ⟨["--dry-run"], fun _ => none, some "/home/me"⟩ [] "" {} (.ok sudoPayload) hs
  refine ⟨hs, r, hr, (hnotice _).2 ⟨?_, ?_, "sudo", "[safety rule] sudo is forbidden", ?objects, ?_⟩⟩
  case objects => exact Engine.objection_eq_block_iff.1 (by decide +kernel)
  all_goals decide +kernel

end Cli

/-!
## What a caller reads in a response

The text of a response is one line, and a JSON reader finds in it the members that the
verdict calls for and no others (`read_output`): no rule and no message can add a
decision or take one away.
-/

theorem Response.read_text_append (r : Response) {blanks : String}
    (hb : Json.Reader.dropBlanks blanks.toList = []) :
    Json.Value.read (r.text ++ blanks) = .ok (.object r.members) :=
  Json.read_text_append (Json.fits_of_allStrings r.allStrings_members) (by decide) hb

theorem Response.read_text (r : Response) : Json.Value.read r.text = .ok (.object r.members) :=
  Json.read_text (Json.fits_of_allStrings r.allStrings_members) (by decide)

namespace Verdict

/-- Whatever characters the rule's name and the reason hold, the response to a verdict has no character below
U+0020, is JSON, and is read as an object with the members that belong to the verdict. In particular it
carries a decision just when the verdict is to block. -/
theorem read_output (v : Verdict) :
    let members : List (String × Json.Value) := match v with
      | allow => []
      | block _ reason => [("decision", .string "block"), ("reason", .string reason)]
      | warn ruleId reason =>
        [("systemMessage", .string ("[convention-gate:" ++ ruleId ++ "] dry-run, would block: " ++ reason))]
    Json.Printable v.output.toList ∧ Json.Value.read v.output = .ok (.object members) ∧
      ((Json.lookup? members "decision").isSome = true ↔ ∃ ruleId reason, v = .block ruleId reason) := by
  have hline : Json.Printable v.output.toList := (Response.ofVerdict v).printable_text
  have hread : Json.Value.read v.output = .ok (.object (Response.ofVerdict v).members) :=
    (Response.ofVerdict v).read_text
  cases v with
  | allow => exact ⟨hline, hread, by simp⟩
  | block ruleId reason => exact ⟨hline, hread, by simp [Json.lookup?_cons]⟩
  | warn ruleId reason => exact ⟨hline, hread, by simp [Json.lookup?_cons]⟩

/-- A reason that tries to close the object and to open another. -/
example : (block "x" "\"\x7d\n\x7b\"decision\":null").output =
    "\x7b\"decision\":\"block\",\"reason\":\"\\\"\x7d\\n\x7b\\\"decision\\\":null\"\x7d" := by
  decide

end Verdict

end HookGate
