import HookGate.Pattern
import HookGate.Payload
import HookGate.Verdict

/-!
# The policy engine

An engine is a rule set with three switches. `evaluate` asks the rules alone;
`check` and `onDecodeFailure` apply the switches, one for requests and the other
for input that makes none.
-/

namespace HookGate

/-!
## Rules

A content rule forbids a pattern in files whose path matches another pattern; a
command rule forbids a pattern in shell commands. A guard is a rule whose patterns
are compiled.
-/

structure ContentRule where
  id : String
  /-- Searched for in the path; letter case does not count. -/
  path : String
  /-- Searched for in the content. -/
  pattern : String
  message : String
  /-- What to do instead. -/
  suggestion : String := ""
  deriving DecidableEq, Repr

structure CommandRule where
  id : String
  pattern : String
  message : String
  deriving DecidableEq, Repr

structure InvalidPattern where
  id : String
  fault : Pattern.Fault
  deriving DecidableEq, Repr

structure ContentGuard where
  rule : ContentRule
  path : Pattern
  pattern : Pattern
  deriving DecidableEq, Repr

structure CommandGuard where
  rule : CommandRule
  pattern : Pattern
  deriving DecidableEq, Repr

def compileFor (id : String) (ignoreCase : Bool) (source : String) : Except InvalidPattern Pattern :=
  match Pattern.compile ignoreCase source with
  | .ok p => .ok p
  | .error fault => .error ⟨id, fault⟩

def ContentRule.compile (r : ContentRule) : Except InvalidPattern ContentGuard := do
  let path ← compileFor r.id true r.path
  let pattern ← compileFor r.id false r.pattern
  return ⟨r, path, pattern⟩

def CommandRule.compile (r : CommandRule) : Except InvalidPattern CommandGuard := do
  return ⟨r, ← compileFor r.id false r.pattern⟩

def ContentGuard.fires (g : ContentGuard) (path content : String) : Bool :=
  g.path.isMatch path && g.pattern.isMatch content

def CommandGuard.fires (g : CommandGuard) (command : String) : Bool := g.pattern.isMatch command

/-!
## Built-in rules

Layering conventions of a coroutine-native hexagonal service, and shell commands
that destroy work or take privileges. The order counts: of several rules that
match, the first one is reported.
-/

def ContentRule.builtin : List ContentRule :=
  [{ id := "service-annotation"
     path := "application[/\\\\]service[/\\\\]"
     pattern := "@(Service|Component)\\b"
     message := "@Service/@Component is forbidden in application/service/"
     suggestion := "declare the bean with @Bean inside a @Configuration class" },
   { id := "transactional-annotation"
     path := "\\.kt$"
     pattern := "@Transactional\\b"
     message := "@Transactional is forbidden"
     suggestion := "use transactionExecutor.execute \x7b \x7d (see CLAUDE.md)" },
   { id := "suspend-in-domain-model"
     path := "domain[/\\\\]model[/\\\\]"
     pattern := "\\bsuspend\\s+fun\\b"
     message := "suspend fun is forbidden in domain/model/"
     suggestion := "keep domain models pure; do I/O in the port/adapter layers" },
   { id := "reactive-in-domain"
     path := "domain[/\\\\]"
     pattern := "\\b(Mono|Flux)<"
     message := "Mono/Flux is forbidden in domain/"
     suggestion := "return from a suspend fun instead (coroutine-native)" },
   { id := "dispatchers-io-in-persistence"
     path := "adapter[/\\\\]out[/\\\\]persistence[/\\\\]"
     pattern := "Dispatchers\\.IO\\b"
     message := "Dispatchers.IO is forbidden in adapter/out/persistence/"
     suggestion := "R2DBC is already non-blocking; withContext(Dispatchers.IO) is unnecessary" }]

def CommandRule.builtin : List CommandRule :=
  [{ id := "rm-rf", pattern := "\\brm\\s+-rf\\b", message := "rm -rf is forbidden" },
   { id := "git-push-force"
     pattern := "\\bgit\\s+push\\s+.*--force\\b"
     message := "git push --force is forbidden" },
   { id := "git-reset-hard"
     pattern := "\\bgit\\s+reset\\s+--hard\\b"
     message := "git reset --hard is forbidden" },
   { id := "sudo", pattern := "\\bsudo\\b", message := "sudo is forbidden" }]

/-!
## Rule sets

A rule set holds two ordered tables of guards and the suffix that puts a file under
the content rules. Tables are searched from the front, and the first guard that
fires gives the verdict.
-/

structure RuleSet where
  /-- Only files whose path ends in it are governed by content rules. -/
  governedSuffix : String
  content : List ContentGuard
  commands : List CommandGuard
  deriving DecidableEq, Repr

namespace RuleSet

def defaultSuffix : String := ".kt"

def empty (governedSuffix : String) : RuleSet := ⟨governedSuffix, [], []⟩

def isEmpty (r : RuleSet) : Bool := r.content.isEmpty && r.commands.isEmpty

/-- Compiles both tables, the content rules first; the first rule with an invalid pattern is
reported. -/
def compile (governedSuffix : String) (content : List ContentRule) (commands : List CommandRule) :
    Except InvalidPattern RuleSet := do
  let content ← content.mapM ContentRule.compile
  let commands ← commands.mapM CommandRule.compile
  return ⟨governedSuffix, content, commands⟩

def builtin : RuleSet :=
  match compile defaultSuffix ContentRule.builtin CommandRule.builtin with
  | .ok rules => rules
  | .error _ => empty defaultSuffix

theorem toBool_compile_builtin :
    (compile defaultSuffix ContentRule.builtin CommandRule.builtin).toBool = true := by decide +kernel

theorem compile_builtin : compile defaultSuffix ContentRule.builtin CommandRule.builtin = .ok builtin := by
  have h := toBool_compile_builtin
  unfold builtin
  cases hc : compile defaultSuffix ContentRule.builtin CommandRule.builtin with
  | ok rules => rfl
  | error e => simp [hc, Except.toBool] at h

/-- Whether content rules apply to the path, which is a matter of its last characters. -/
def governs (r : RuleSet) (path : String) : Bool := r.governedSuffix.toList.isSuffixOf path.toList

def safetyLead : String := "[safety rule]"

def violationLead : String := "[convention violation]"

def commandBlock (g : CommandGuard) : Verdict :=
  .block g.rule.id (safetyLead ++ " " ++ g.rule.message)

def contentBlock (g : ContentGuard) : Verdict :=
  .block g.rule.id (violationLead ++ " " ++ g.rule.message ++ "\nsuggested: " ++ g.rule.suggestion)

def checkCommand (r : RuleSet) (command : String) : Verdict :=
  match r.commands.find? (·.fires command) with
  | some g => commandBlock g
  | none => .allow

/-- The verdict on a text that is written to a file. Only governed files with some content are
checked. -/
def checkContent (r : RuleSet) (path content : String) : Verdict :=
  if content.isEmpty || !r.governs path then .allow
  else
    match r.content.find? (·.fires path content) with
    | some g => contentBlock g
    | none => .allow

end RuleSet

/-! ## The policy engine -/

structure Engine where
  rules : RuleSet
  switches : Switches := {}
  deriving DecidableEq, Repr

namespace Engine

/-- The verdict of the rules, whatever the switches. A missing command is an empty one; a file
change without path or content is nothing to check. -/
def evaluate (e : Engine) (r : Request) : Verdict :=
  match r.kind with
  | .shellExec => e.rules.checkCommand (r.command.getD "")
  | .fileWrite => fileChange r
  | .fileEdit => fileChange r
  | .other => .allow
where
  fileChange (r : Request) : Verdict :=
    match r.targetPath, r.content with
    | some path, some content => e.rules.checkContent path content
    | _, _ => .allow

def check (e : Engine) (r : Request) : Verdict := e.switches.apply (e.evaluate r)

def malformedInput : String := "malformed-input"

def malformedBlock (d : DecodeError) : Verdict :=
  .block malformedInput ("[convention-gate] unreadable hook input: " ++ d.message)

/-- The verdict on undecodable input: it passes unless the gate fails closed, and empty input
always passes. -/
def onDecodeFailure (e : Engine) (d : DecodeError) : Verdict :=
  if !e.switches.failClosed || d.isEmptyInput then .allow else e.switches.apply (malformedBlock d)

def decide (e : Engine) (input : Except DecodeError Payload) : Request × Verdict :=
  match input with
  | .ok p => (p.request, e.check p.request)
  | .error d => (.other "", e.onDecodeFailure d)

end Engine

end HookGate
