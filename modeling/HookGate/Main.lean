import HookGate.Cli
import Std.Time.DateTime.Timestamp

/-!
# The program

Reads what a run needs from the system, asks `Setting.task` what to do, and does it.
-/

namespace HookGate.Cli

def failureText (code : UInt32) (details : String) : String := s!"{details} (os error {code})"

def failureCause : IO.Error → String
  | .alreadyExists _ code details => failureText code details
  | .otherError code details => failureText code details
  | .resourceBusy code details => failureText code details
  | .resourceVanished code details => failureText code details
  | .unsupportedOperation code details => failureText code details
  | .hardwareFault code details => failureText code details
  | .unsatisfiedConstraints code details => failureText code details
  | .illegalOperation code details => failureText code details
  | .protocolError code details => failureText code details
  | .timeExpired code details => failureText code details
  | .interrupted _ code details => failureText code details
  | .noFileOrDirectory _ code details => failureText code details
  | .invalidArgument _ code details => failureText code details
  | .permissionDenied _ code details => failureText code details
  | .resourceExhausted _ code details => failureText code details
  | .inappropriateType _ code details => failureText code details
  | .noSuchThing _ code details => failureText code details
  | e => toString e

/-- All bytes that are left of a stream. -/
partial def readAll (s : IO.FS.Stream) (before : ByteArray) : IO ByteArray := do
  let bytes ← s.read 65536
  if bytes.isEmpty then return before
  readAll s (before ++ bytes)

def readInput : IO Input := do
  try
    return .ok (← readAll (← IO.getStdin) .empty).toList
  catch e => return .error (failureCause e)

def readFiles (paths : List String) : IO (List (String × List UInt8)) :=
  paths.filterMapM fun (path : String) => do
    try
      return some (path, (← IO.FS.readBinFile path).toList)
    catch _ => return none

def homeIn? (database uid : String) : Option String :=
  let homes := (database.splitOn "\n").filterMap fun line =>
    match line.splitOn ":" with
    | [_, _, id, _, _, home, _] => if id = uid then some home else none
    | _ => none
  homes.head?.filter (!·.isEmpty)

def userIn? (status : String) : Option String :=
  (status.splitOn "\n").findSome? fun line =>
    match line.splitOn "\t" with
    | "Uid:" :: id :: _ => some id
    | _ => none

/-- The home that the environment names, or else the user database; there may be none. -/
def readHome : IO (Option String) := do
  match ← IO.getEnv "HOME" with
  | some home => unless home.isEmpty do return some home
  | none => pure ()
  try
    let uid := userIn? (← IO.FS.readFile "/proc/self/status")
    return uid.bind (homeIn? (← IO.FS.readFile "/etc/passwd"))
  catch _ => return none

/-- The variables that turn switches on, where they are set. -/
def readEnvironment : IO (List (String × String)) :=
  [Config.disabledVariable, Config.warnOnlyVariable, Config.failClosedVariable].filterMapM fun name =>
    return (← IO.getEnv name).map (name, ·)

def openLog (path : String) : IO (Option IO.FS.Handle) := do
  let lead := if Path.isAbsolute path then "/" else ""
  let parent := lead ++ "/".intercalate (Path.parentSteps path)
  try
    unless parent.isEmpty do IO.FS.createDirAll parent
  catch _ => pure ()
  try
    return some (← IO.FS.Handle.mk path .append)
  catch _ => return none

def answer (engine : Engine) (auditPath : Option String) : IO Unit := do
  let log ← match auditPath with
    | some path => openLog path
    | none => pure none
  let input ← readInput
  let now ← Std.Time.Timestamp.now
  let d := Decision.make engine (Audit.Timestamp.text now.toNanosecondsSinceUnixEpoch.toInt.toNat) input
  try
    if let some h := log then
      h.write ⟨(Audit.Logger.line d.entry).toArray⟩
      h.flush
  catch e => IO.eprintln ("failed to write audit log: " ++ failureCause e)
  IO.print d.output

def start (arguments : List String) : IO Unit := do
  let home ← readHome
  let files ← readFiles ((Arguments.ofList arguments).configPaths home)
  let environment ← readEnvironment
  let setting : Setting := { arguments, environment := (environment.lookup ·), home }
  match setting.task (files.lookup ·) with
  | .print text => IO.print text
  | .decide engine auditPath => answer engine auditPath

end HookGate.Cli

def main (arguments : List String) : IO UInt32 := do
  HookGate.Cli.start arguments
  return 0
