import HookGate.Engine
import HookGate.FileTree
import HookGate.Toml.Reader

/-!
# Configuration

What a user can set. Environment variables can only turn the gate off or make it
stricter or more lenient on top of it (`override`), never undo what a file set.
-/

namespace HookGate

namespace Config

structure General extends Switches where
  auditLog : Bool := false
  /-- Where the audit log goes, if it is on. -/
  auditPath : Option String := some "~/.claude/convention-gate/audit.jsonl"
  deriving DecidableEq, Repr

structure Content where
  /-- Files whose path ends in it are under content rules. -/
  governedSuffix : String := RuleSet.defaultSuffix
  /-- Put the built-in rules before the user's. -/
  builtinRules : Bool := true
  rules : List ContentRule := []
  deriving DecidableEq, Repr

structure Commands where
  /-- Put the built-in rules before the user's. -/
  builtinRules : Bool := true
  rules : List CommandRule := []
  deriving DecidableEq, Repr

end Config

structure Config where
  general : Config.General := {}
  content : Config.Content := {}
  commands : Config.Commands := {}
  deriving DecidableEq, Repr

namespace Config

def isTruthy (value : String) : Bool :=
  String.ofList ((Text.trim value.toList).map Char.toLower) ∈ ["1", "true", "yes", "on"]

/-- Turns every check off; requests are still logged. -/
def disabledVariable : String := "CONVENTION_GATE_DISABLED"

def warnOnlyVariable : String := "CONVENTION_GATE_WARN_ONLY"

def failClosedVariable : String := "CONVENTION_GATE_FAIL_CLOSED"

def isOn (environment : String → Option String) (name : String) : Bool :=
  (environment name).any isTruthy

/-- The configuration with the switches of the environment on top. A variable that is not on
leaves its switch alone. -/
def override (environment : String → Option String) (c : Config) : Config :=
  { c with
    general.enabled := c.general.enabled && !isOn environment disabledVariable
    general.warnOnly := c.general.warnOnly || isOn environment warnOnlyVariable
    general.failClosed := c.general.failClosed || isOn environment failClosedVariable }

def auditPath (home : Option String) (c : Config) : Option String :=
  if c.general.auditLog then c.general.auditPath.map (Path.expandHome home) else none

/-- The places where configurations are looked for, in order: the project's and the user's, who may
have no home. -/
def searchPaths (home : Option String) : List String :=
  ".claude/convention-gate.toml" :: (home.map (Path.join · ".claude/convention-gate/config.toml")).toList

end Config

end HookGate

/-!
## The starter configuration

A document that sets every setting to its default and shows how rules are written.
-/

namespace HookGate.Config

def template : String := "
[general]
enabled = true
warn_only = false
fail_closed = false
audit_log = false
audit_path = \"~/.claude/convention-gate/audit.jsonl\"

[content]
governed_suffix = \".kt\"
builtin_rules = true

# [[content.rules]]
# id = \"no-println\"
# path = \"src[/\\\\\\\\]main[/\\\\\\\\]\"
# pattern = \"\\\\bprintln\\\\(\"
# message = \"println is forbidden in production code\"
# suggestion = \"use the injected logger\"

[commands]
builtin_rules = true

# [[commands.rules]]
# id = \"no-force-with-lease\"
# pattern = \"--force-with-lease\\\\b\"
# message = \"git push --force-with-lease is forbidden\"
"

/-!
## Records in documents

A record's fields are given by name, in a table, or by position, in an array. A
date has fields of its own that no record knows, so it counts as a table without
any of theirs.
-/

open Toml

inductive Fault where
  | document (f : Toml.Fault)
  | wrongType (field : String)
  | missing (field : String)
  deriving DecidableEq, Repr

inductive Record where
  | named (members : List (String × Value))
  | ordered (items : List Value)

namespace Record

def ofValue? : Value → Option Record
  | .table members => some (named members)
  | .array items => some (ordered items)
  | .moment _ => some (named [])
  | _ => none

def field? (r : Record) (name : String) (index : Nat) : Option Value :=
  match r with
  | named members => members.lookup name
  | ordered items => items[index]?

def require (r : Record) (name : String) (index : Nat) (read : Value → Except Fault α) : Except Fault α :=
  match r.field? name index with
  | some v => read v
  | none => .error (.missing name)

def get (r : Record) (name : String) (index : Nat) (read : Value → Except Fault α) (default : α) :
    Except Fault α :=
  match r.field? name index with
  | some v => read v
  | none => .ok default

end Record

def typed (field : String) (as? : Value → Option α) (v : Value) : Except Fault α :=
  match as? v with
  | some a => .ok a
  | none => .error (.wrongType field)

end HookGate.Config

/-!
## Configurations in documents

`Config.ofDocument` takes from a document what it knows and ignores the rest. A
field that is not there has its default; one of the wrong type refuses the whole
document.
-/

namespace HookGate

open Toml (Value Document)

namespace Config

def record (field : String) (read : Record → Except Fault α) (v : Value) : Except Fault α := do
  read (← typed field Record.ofValue? v)

def text (field : String) : Value → Except Fault String := typed field Value.string?

def switch (field : String) : Value → Except Fault Bool := typed field Value.boolean?

def list (field : String) (read : Record → Except Fault α) (v : Value) : Except Fault (List α) := do
  (← typed field Value.array? v).mapM (record field read)

def General.ofRecord (r : Record) : Except Fault General := do
  let default : General := {}
  let enabled ← r.get "enabled" 0 (switch "enabled") default.enabled
  let warnOnly ← r.get "warn_only" 1 (switch "warn_only") default.warnOnly
  let failClosed ← r.get "fail_closed" 2 (switch "fail_closed") default.failClosed
  let auditLog ← r.get "audit_log" 3 (switch "audit_log") default.auditLog
  let auditPath ← r.get "audit_path" 4 (fun v => some <$> text "audit_path" v) default.auditPath
  return { enabled, warnOnly, failClosed, auditLog, auditPath }

end Config

def ContentRule.ofRecord (r : Config.Record) : Except Config.Fault ContentRule := do
  let id ← r.require "id" 0 (Config.text "id")
  let path ← r.require "path" 1 (Config.text "path")
  let pattern ← r.require "pattern" 2 (Config.text "pattern")
  let message ← r.require "message" 3 (Config.text "message")
  let suggestion ← r.get "suggestion" 4 (Config.text "suggestion") ""
  return { id, path, pattern, message, suggestion }

def CommandRule.ofRecord (r : Config.Record) : Except Config.Fault CommandRule := do
  let id ← r.require "id" 0 (Config.text "id")
  let pattern ← r.require "pattern" 1 (Config.text "pattern")
  let message ← r.require "message" 2 (Config.text "message")
  return { id, pattern, message }

namespace Config

def Content.ofRecord (r : Record) : Except Fault Content := do
  let default : Content := {}
  let governedSuffix ← r.get "governed_suffix" 0 (text "governed_suffix") default.governedSuffix
  let builtinRules ← r.get "builtin_rules" 1 (switch "builtin_rules") default.builtinRules
  let rules ← r.get "rules" 2 (list "rules" ContentRule.ofRecord) default.rules
  return { governedSuffix, builtinRules, rules }

def Commands.ofRecord (r : Record) : Except Fault Commands := do
  let default : Commands := {}
  let builtinRules ← r.get "builtin_rules" 0 (switch "builtin_rules") default.builtinRules
  let rules ← r.get "rules" 1 (list "rules" CommandRule.ofRecord) default.rules
  return { builtinRules, rules }

def ofRecord (r : Record) : Except Fault Config := do
  let general ← r.get "general" 0 (record "general" General.ofRecord) {}
  let content ← r.get "content" 1 (record "content" Content.ofRecord) {}
  let commands ← r.get "commands" 2 (record "commands" Commands.ofRecord) {}
  return { general, content, commands }

def ofDocument (d : Document) : Except Fault Config := ofRecord (.named d)

end Config

end HookGate

/-!
## Where configurations come from

A configuration is read from one named file or from the first of several places
that holds one. A file that cannot be read or understood gives no setting at all.
-/

namespace HookGate.Config

inductive LoadError where
  /-- The file is not there, cannot be read, or is not text. -/
  | unreadable
  | malformed (f : Fault)
  deriving DecidableEq, Repr

def ofText (text : List Char) : Except LoadError Config :=
  match Toml.Document.read text with
  | .error f => .error (.malformed (.document f))
  | .ok d =>
    match ofDocument d with
    | .error f => .error (.malformed f)
    | .ok c => .ok c

def ofBytes (bytes : List UInt8) : Except LoadError Config :=
  match Text.Utf8.decode bytes with
  | .error _ => .error .unreadable
  | .ok text => ofText text

abbrev Files := String → Option (List UInt8)

def load (files : Files) (path : String) : Except LoadError Config :=
  match files path with
  | none => .error .unreadable
  | some bytes => ofBytes bytes

def search (files : Files) : List String → Config
  | [] => {}
  | path :: rest =>
    match load files path with
    | .ok c => c
    | .error _ => search files rest

/-!
## The rules of a configuration

User rules come after the built-in ones, in the order in which they are written.
When a configuration's rules cannot be built, the gate runs with the built-in rules
alone.
-/

inductive BuildError where
  /-- Every path would be governed. -/
  | emptySuffix
  | invalidPattern (p : InvalidPattern)
  deriving DecidableEq, Repr

def BuildError.message : BuildError → String
  | emptySuffix => "content.governed_suffix must not be empty"
  | invalidPattern p => "invalid pattern in rule " ++ p.id

def contentRules (c : Config) : List ContentRule :=
  (if c.content.builtinRules then ContentRule.builtin else []) ++ c.content.rules

def commandRules (c : Config) : List CommandRule :=
  (if c.commands.builtinRules then CommandRule.builtin else []) ++ c.commands.rules

/-- The rules of a configuration. An empty suffix is reported before any pattern. -/
def ruleSet (c : Config) : Except BuildError RuleSet :=
  if c.content.governedSuffix.isEmpty then .error .emptySuffix
  else
    match RuleSet.compile c.content.governedSuffix c.contentRules c.commandRules with
    | .ok rules => .ok rules
    | .error p => .error (.invalidPattern p)

def engine (c : Config) : Except BuildError Engine :=
  (c.ruleSet).map fun rules => { rules, switches := c.general.toSwitches }

/-- The engine of a configuration, or one with the built-in rules and the same switches. -/
def engineOrBuiltin (c : Config) : Engine :=
  match c.engine with
  | .ok e => e
  | .error _ => { rules := .builtin, switches := c.general.toSwitches }

end HookGate.Config
