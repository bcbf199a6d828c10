import HookGate.Audit
import HookGate.Config

/-!
# The command line

Arguments, the texts that some of them ask for, and a run of the program.
-/

namespace HookGate.Cli

/-!
## Command line arguments

Arguments are read from left to right as tokens: an option that takes a value
together with the argument after it, or one argument by itself. `Token.ofList` and
`Token.toList` go back and forth between the two.
-/

def isConfigOption (argument : String) : Bool := argument == "-c" || argument == "--config"

inductive Token where
  /-- An option with its value. -/
  | pair (option value : String)
  | single (argument : String)
  /-- An option at the very end, without the value it takes. -/
  | dangling (option : String)
  deriving DecidableEq, Repr

namespace Token

def ofList : List String → List Token
  | [] => []
  | [a] => if isConfigOption a then [dangling a] else [single a]
  | a :: b :: rest => if isConfigOption a then pair a b :: ofList rest else single a :: ofList (b :: rest)

def toList : List Token → List String
  | [] => []
  | pair option value :: rest => option :: value :: toList rest
  | single argument :: rest => argument :: toList rest
  | dangling option :: rest => option :: toList rest

@[simp] theorem toList_ofList (args : List String) : toList (ofList args) = args := by
  fun_induction ofList args <;> simp_all [toList]

end Token

structure Arguments where
  help : Bool := false
  version : Bool := false
  dryRun : Bool := false
  failClosed : Bool := false
  listRules : Bool := false
  printConfig : Bool := false
  configPath : Option String := none
  deriving DecidableEq, Repr

def stripLeads (lead : List Char) : (fuel : Nat) → List Char → List Char
  | 0, cs => cs
  | fuel + 1, cs => if lead.isPrefixOf cs then stripLeads lead fuel (cs.drop lead.length) else cs

def configLead : List Char := "--config=".toList

/-- The value in an argument that joins it to its option. The option may be repeated. -/
def joinedPath? (argument : String) : Option String :=
  let cs := argument.toList
  if configLead.isPrefixOf cs then some (String.ofList (stripLeads configLead cs.length cs)) else none

namespace Arguments

def addSingle (a : Arguments) (argument : String) : Arguments :=
  match argument with
  | "-h" | "--help" => { a with help := true }
  | "-v" | "--version" => { a with version := true }
  | "-d" | "--dry-run" => { a with dryRun := true }
  | "--fail-closed" => { a with failClosed := true }
  | "--list-rules" => { a with listRules := true }
  | "--print-config" => { a with printConfig := true }
  | _ =>
    match joinedPath? argument with
    | some path => { a with configPath := some path }
    | none => a

def add (a : Arguments) : Token → Arguments
  | .pair _ path => { a with configPath := some path }
  | .single argument => a.addSingle argument
  | .dangling _ => a

def ofTokens (tokens : List Token) : Arguments := tokens.foldl add {}

/-- What the arguments ask for. The last configuration path counts. -/
def ofList (args : List String) : Arguments := ofTokens (Token.ofList args)

end Arguments

/-!
## What the program says about itself
-/

def version : String := "convention-gate 0.1.0\n"

def help : String := "convention-gate - pre-action convention gate for Claude Code hooks

USAGE:
    convention-gate [OPTIONS]

OPTIONS:
    -h, --help              Print this help message
    -v, --version           Print version information
    -c, --config PATH       Load configuration from PATH only
    -d, --dry-run           Report what would be blocked, but allow
        --fail-closed       Block when the hook input cannot be decoded
        --list-rules        Print the active rules in evaluation order
        --print-config      Print a starter configuration file

ENVIRONMENT (1, true, yes or on enable a switch):
    CONVENTION_GATE_DISABLED=1      Disable all checks (still logs)
    CONVENTION_GATE_WARN_ONLY=1     Warn but don't block
    CONVENTION_GATE_FAIL_CLOSED=1   Same as --fail-closed
    CONVENTION_GATE_LOG=debug       Log filter for stderr diagnostics

CONFIG FILES (first found wins):
    .claude/convention-gate.toml
    ~/.claude/convention-gate/config.toml

USAGE AS HOOK:
    Configure in .claude/settings.json:
    \x7b
      \"hooks\": \x7b
        \"PreToolUse\": [\x7b
          \"matcher\": \"Write|Edit|Bash\",
          \"hooks\": [\x7b \"type\": \"command\", \"command\": \"convention-gate\" \x7d]
        \x7d]
      \x7d
    \x7d

"

/-!
## The listing of rules

Both tables in the order in which they are searched, one rule per line.
-/

def padLeft (width : Nat) (s : String) : String :=
  String.ofList (List.replicate (width - s.length) ' ') ++ s

def padRight (width : Nat) (s : String) : String :=
  s ++ String.ofList (List.replicate (width - s.length) ' ')

def lineStart (index : Nat) (id : String) : String :=
  "  " ++ padLeft 2 (toString (index + 1)) ++ ". " ++ padRight 30 id

def contentLine (index : Nat) (g : ContentGuard) : String :=
  lineStart index g.rule.id ++ " path=" ++ g.path.source ++ "  pattern=" ++ g.pattern.source ++ "\n"

def commandLine (index : Nat) (g : CommandGuard) : String :=
  lineStart index g.rule.id ++ " pattern=" ++ g.pattern.source ++ "\n"

def listing (rules : RuleSet) : String :=
  "content rules (governed suffix \"" ++ rules.governedSuffix ++ "\"):\n"
    ++ String.join (rules.content.mapIdx contentLine)
    ++ "command rules:\n"
    ++ String.join (rules.commands.mapIdx commandLine)

/-!
## A run of the program

`Setting.task` says what a run has to do, from the arguments, the environment and
the configuration files. `run` does it on a file tree: it prints something and is
done, or answers the payload on standard input and logs the decision.
-/

/-- What a run is given besides its input and the files. -/
structure Setting where
  arguments : List String
  environment : String → Option String
  home : Option String

inductive Task where
  | print (text : String)
  /-- Decide about the payload on standard input. -/
  | decide (engine : Engine) (auditPath : Option String)

/-- Where the configuration is looked for: where the arguments say, and nowhere else if they do. -/
def Arguments.configPaths (a : Arguments) (home : Option String) : List String :=
  match a.configPath with
  | some path => [path]
  | none => Config.searchPaths home

def Arguments.override (a : Arguments) (c : Config) : Config :=
  { c with
    general.warnOnly := c.general.warnOnly || a.dryRun
    general.failClosed := c.general.failClosed || a.failClosed }

namespace Setting

/-- The configuration in force: files first, then the environment, then options. -/
def config (s : Setting) (files : Config.Files) : Config :=
  let a := Arguments.ofList s.arguments
  a.override ((Config.search files (a.configPaths s.home)).override s.environment)

def starter : String := String.ofList (Config.template.toList.dropWhile Text.isBlank)

def task (s : Setting) (files : Config.Files) : Task :=
  let a := Arguments.ofList s.arguments
  if a.help then .print help
  else if a.version then .print version
  else if a.printConfig then .print starter
  else
    let c := s.config files
    if a.listRules then .print (listing c.engineOrBuiltin.rules)
    else .decide c.engineOrBuiltin (c.auditPath s.home)

end Setting

abbrev Input := Except String (List UInt8)

def payload (input : Input) : Except DecodeError Payload :=
  match input with
  | .ok bytes => Payload.ofBytes bytes
  | .error cause => .error (.read cause)

structure Decision where
  verdict : Verdict
  entry : Audit.Entry

def Decision.make (e : Engine) (timestamp : String) (input : Input) : Decision :=
  let decoded := payload input
  let (request, verdict) := e.decide decoded
  let sessionId := decoded.toOption.bind (·.sessionId)
  ⟨verdict, .make timestamp request verdict sessionId (!e.switches.enabled)⟩

def Decision.output (d : Decision) : String := d.verdict.output ++ "\n"

structure Report where
  exitCode : Nat
  stdout : String
  files : FileTree

/-- A run in a directory of a file tree. It answers the same whether or not the log can be written. -/
def run (s : Setting) (directory : Location) (timestamp : String) (files : FileTree) (input : Input) :
    Report :=
  match s.task (files.read directory) with
  | .print text => ⟨0, text, files⟩
  | .decide engine auditPath =>
    let (logger, files) := Audit.Logger.openAt files directory auditPath
    let d := Decision.make engine timestamp input
    let logged := logger.log files d.entry
    ⟨0, d.output, logged.state.close logged.files⟩

end HookGate.Cli
