import HookGate.Engine

/-!
# What an engine decides

The rules alone block or allow. With the fail-closed switch they settle whether there
is an objection to what was read (`Engine.Objects`); the other two switches settle
what becomes of it (`decide_eq_block_iff`, `decide_eq_warn_iff`,
`decide_eq_allow_iff`).
-/

namespace HookGate

/-! ## Verdicts of the rules -/

theorem RuleSet.checkCommand_ne_warn (r : RuleSet) (command ruleId reason : String) :
    r.checkCommand command ≠ .warn ruleId reason := by
  unfold RuleSet.checkCommand
  split
  · unfold commandBlock; intro h; cases h
  · intro h; cases h

theorem RuleSet.checkContent_ne_warn (r : RuleSet) (path content ruleId reason : String) :
    r.checkContent path content ≠ .warn ruleId reason := by
  unfold RuleSet.checkContent
  split
  · intro h; cases h
  · split
    · unfold contentBlock; intro h; cases h
    · intro h; cases h

theorem Engine.evaluate_ne_warn (e : Engine) (r : Request) (ruleId reason : String) :
    e.evaluate r ≠ .warn ruleId reason := by
  have hfile : Engine.evaluate.fileChange e r ≠ .warn ruleId reason := by
    unfold evaluate.fileChange
    split
    · exact e.rules.checkContent_ne_warn _ _ _ _
    · intro h; cases h
  unfold evaluate
  cases r.kind with
  | shellExec => exact e.rules.checkCommand_ne_warn _ _ _
  | fileWrite => exact hfile
  | fileEdit => exact hfile
  | other => intro h; cases h

namespace Engine

theorem evaluate_shellExec (e : Engine) {r : Request} (hk : r.kind = .shellExec) :
    e.evaluate r = e.rules.checkCommand (r.command.getD "") := by
  simp only [evaluate, hk]

theorem evaluate_fileChange (e : Engine) {r : Request} {path text : String} (hk : r.kind.isFileChange = true)
    (hp : r.targetPath = some path) (ht : r.content = some text) :
    e.evaluate r = e.rules.checkContent path text := by
  unfold evaluate evaluate.fileChange
  cases hr : r.kind with
  | fileWrite => simp only [hp, ht]
  | fileEdit => simp only [hp, ht]
  | shellExec => rw [hr] at hk; cases hk
  | other => rw [hr] at hk; cases hk

theorem evaluate_congr {e f : Engine} (h : e.rules = f.rules) (r : Request) : e.evaluate r = f.evaluate r := by
  unfold evaluate evaluate.fileChange
  rw [h]

end Engine

/-! ## Switches -/

namespace Switches

theorem apply_eq_block_iff {s : Switches} {v : Verdict} {ruleId reason : String} :
    s.apply v = .block ruleId reason ↔ s.enabled = true ∧ s.warnOnly = false ∧ v = .block ruleId reason := by
  unfold apply
  cases s.enabled with
  | false => simp
  | true =>
    cases s.warnOnly with
    | false => simp
    | true => cases v <;> simp [Verdict.toWarning]

theorem apply_eq_warn_iff {s : Switches} {v : Verdict} {ruleId reason : String}
    (hv : v ≠ .warn ruleId reason) :
    s.apply v = .warn ruleId reason ↔ s.enabled = true ∧ s.warnOnly = true ∧ v = .block ruleId reason := by
  unfold apply
  cases s.enabled with
  | false => simp
  | true =>
    cases s.warnOnly with
    | false => simpa using hv
    | true => cases v <;> simp_all [Verdict.toWarning]

end Switches

/-! ## Objections -/

namespace Engine

/-- There is something against what was read: the rules block the request that it makes, or it makes
none, is not empty, and the gate fails closed. -/
inductive Objects (e : Engine) : Except DecodeError Payload → String → String → Prop
  | request {p ruleId reason} : e.evaluate p.request = .block ruleId reason → e.Objects (.ok p) ruleId reason
  | malformed {d} : d.isEmptyInput = false → e.switches.failClosed = true →
      e.Objects (.error d) malformedInput ("[convention-gate] unreadable hook input: " ++ d.message)

/-- The verdict before the gate is switched off or only warns. -/
def objection (e : Engine) : Except DecodeError Payload → Verdict
  | .ok p => e.evaluate p.request
  | .error d => if !e.switches.failClosed || d.isEmptyInput then .allow else malformedBlock d

theorem decide_eq (e : Engine) (input : Except DecodeError Payload) :
    (e.decide input).2 = e.switches.apply (e.objection input) := by
  cases input with
  | ok p => rfl
  | error d =>
    simp only [decide, onDecodeFailure, objection]
    split
    · rw [Switches.apply_allow]
    · rfl

theorem objection_ne_warn (e : Engine) (input : Except DecodeError Payload) (ruleId reason : String) :
    e.objection input ≠ .warn ruleId reason := by
  cases input with
  | ok p => exact e.evaluate_ne_warn p.request ruleId reason
  | error d =>
    simp only [objection, malformedBlock]
    split
    · intro h; cases h
    · intro h; cases h

theorem objection_eq_block_iff {e : Engine} {input : Except DecodeError Payload} {ruleId reason : String} :
    e.objection input = .block ruleId reason ↔ e.Objects input ruleId reason := by
  refine ⟨fun h => ?_, fun h => ?_⟩
  · cases input with
    | ok p => exact .request h
    | error d =>
      simp only [objection, malformedBlock] at h
      split at h
      · cases h
      · rename_i hc
        simp only [Bool.or_eq_true, Bool.not_eq_true', not_or, Bool.not_eq_false, Bool.not_eq_true] at hc
        cases h
        exact .malformed hc.2 hc.1
  · cases h with
    | request h => exact h
    | malformed he hf => simp [objection, malformedBlock, he, hf]

theorem Objects.unique {e : Engine} {input : Except DecodeError Payload} {i j m n : String}
    (h : e.Objects input i m) (h' : e.Objects input j n) : i = j ∧ m = n := by
  rw [← objection_eq_block_iff] at h h'
  rw [h] at h'
  cases h'
  exact ⟨rfl, rfl⟩

/-- An objection does not depend on the switches that act on verdicts. -/
theorem Objects.congr {e f : Engine} (hr : e.rules = f.rules)
    (hf : e.switches.failClosed = f.switches.failClosed) {input : Except DecodeError Payload}
    {ruleId reason : String} (h : e.Objects input ruleId reason) : f.Objects input ruleId reason := by
  cases h with
  | request h => exact .request (by rw [← evaluate_congr hr, h])
  | malformed he hc => exact .malformed he (by rw [← hf, hc])

theorem objects_error_iff {e : Engine} {d : DecodeError} (hd : d.isEmptyInput = false) :
    (∃ ruleId reason, e.Objects (.error d) ruleId reason) ↔ e.switches.failClosed = true := by
  refine ⟨fun h => ?_, fun hc => ?_⟩
  · obtain ⟨_, _, h⟩ := h
    cases h with
    | malformed _ hc => exact hc
  · exact ⟨_, _, .malformed hd hc⟩

theorem not_objects_empty {e : Engine} {ruleId reason : String} : ¬ e.Objects (.error .empty) ruleId reason := by
  intro h
  cases h with
  | malformed he _ => simp [DecodeError.isEmptyInput] at he

section
variable {e : Engine} {input : Except DecodeError Payload} {ruleId reason : String}

theorem decide_eq_block_iff :
    (e.decide input).2 = .block ruleId reason ↔
      e.switches.enabled = true ∧ e.switches.warnOnly = false ∧ e.Objects input ruleId reason := by
  rw [decide_eq, Switches.apply_eq_block_iff, objection_eq_block_iff]

theorem decide_eq_warn_iff :
    (e.decide input).2 = .warn ruleId reason ↔
      e.switches.enabled = true ∧ e.switches.warnOnly = true ∧ e.Objects input ruleId reason := by
  rw [decide_eq, Switches.apply_eq_warn_iff (e.objection_ne_warn _ _ _), objection_eq_block_iff]

end

theorem decide_eq_allow_iff {e : Engine} {input : Except DecodeError Payload} :
    (e.decide input).2 = .allow ↔
      ¬ (e.switches.enabled = true ∧ ∃ ruleId reason, e.Objects input ruleId reason) := by
  constructor
  · rintro h ⟨he, ruleId, reason, ho⟩
    cases hw : e.switches.warnOnly with
    | false => rw [decide_eq_block_iff.2 ⟨he, hw, ho⟩] at h; cases h
    | true => rw [decide_eq_warn_iff.2 ⟨he, hw, ho⟩] at h; cases h
  · intro h
    cases hv : (e.decide input).2 with
    | allow => rfl
    | block ruleId reason =>
      obtain ⟨he, _, ho⟩ := decide_eq_block_iff.1 hv
      exact absurd ⟨he, ruleId, reason, ho⟩ h
    | warn ruleId reason =>
      obtain ⟨he, _, ho⟩ := decide_eq_warn_iff.1 hv
      exact absurd ⟨he, ruleId, reason, ho⟩ h

end Engine

end HookGate
