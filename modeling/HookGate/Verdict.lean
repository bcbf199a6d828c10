import HookGate.Json

/-!
# Verdicts and responses

An allowed action is answered with an empty object, a blocked one with a decision
and its reason, and one that would have been blocked with a message only.
-/

namespace HookGate

inductive Verdict where
  | allow
  | block (ruleId reason : String)
  /-- Would be blocked, but the gate only warns. -/
  | warn (ruleId reason : String)
  deriving DecidableEq, Repr

namespace Verdict

def isBlocked : Verdict → Bool
  | block _ _ => true
  | _ => false

def isAllow : Verdict → Bool
  | allow => true
  | _ => false

def ruleId? : Verdict → Option String
  | allow => none
  | block ruleId _ => some ruleId
  | warn ruleId _ => some ruleId

def reason? : Verdict → Option String
  | allow => none
  | block _ reason => some reason
  | warn _ reason => some reason

/-- A block becomes a warning; the others stay. -/
def toWarning : Verdict → Verdict
  | block ruleId reason => warn ruleId reason
  | v => v

@[simp] theorem toWarning_toWarning (v : Verdict) : v.toWarning.toWarning = v.toWarning := by
  cases v <;> rfl

end Verdict

inductive Response where
  /-- Nothing to say, so the action goes ahead. -/
  | proceed
  | stop (reason : String)
  /-- A message for the user, which does not affect the action. -/
  | notice (message : String)
  deriving DecidableEq, Repr

namespace Response

def ofVerdict : Verdict → Response
  | .allow => proceed
  | .block _ reason => stop reason
  | .warn ruleId reason => notice ("[convention-gate:" ++ ruleId ++ "] dry-run, would block: " ++ reason)

def members : Response → List (String × Json.Value)
  | proceed => []
  | stop reason => [("decision", .string "block"), ("reason", .string reason)]
  | notice message => [("systemMessage", .string message)]

def text (r : Response) : String := (Json.Value.object r.members).text

end Response

def Verdict.output (v : Verdict) : String := (Response.ofVerdict v).text

/-!
## Switches

The three settings that act on every verdict, whatever the rules say.
-/

structure Switches where
  enabled : Bool := true
  /-- Warn instead of blocking. -/
  warnOnly : Bool := false
  /-- Block input that cannot be decoded. -/
  failClosed : Bool := false
  deriving DecidableEq, Repr

namespace Switches

def apply (s : Switches) (v : Verdict) : Verdict :=
  if !s.enabled then .allow else if s.warnOnly then v.toWarning else v

@[simp] theorem apply_allow (s : Switches) : s.apply .allow = .allow := by
  simp [apply, Verdict.toWarning]

/-- Applying the switches again changes nothing. -/
@[simp] theorem apply_apply (s : Switches) (v : Verdict) : s.apply (s.apply v) = s.apply v := by
  cases he : s.enabled <;> cases hw : s.warnOnly <;> simp [apply, he, hw]

end Switches

end HookGate
