import HookGate.FileTree
import HookGate.Payload
import HookGate.Verdict

/-!
# The audit log

One entry per decision, with the time when it was made, and the logger that appends it to a file.
-/

namespace HookGate.Audit.Timestamp

/-!
## Timestamps

The text of an instant in universal time, from the time that has passed since the
start of 1970. A fraction of a second has three, six or nine digits, as few as say
it exactly.
-/

/-- A day of the Gregorian calendar; months and days count from one. -/
structure Date where
  year : Nat
  month : Nat
  day : Nat
  deriving DecidableEq, Repr

/-- The date some days after the first of January 1970. Years are counted from the first of March
here, so that the leap day comes last, and in cycles of 400 years of 146097 days. -/
def Date.ofDays (days : Nat) : Date :=
  let day := days + 719468
  let cycle := day / 146097
  let day := day % 146097
  let year := (day - day / 1460 + day / 36524 - day / 146096) / 365
  let day := day - (365 * year + year / 4 - year / 100)
  let month := (5 * day + 2) / 153
  { year := cycle * 400 + year + (if 10 ≤ month then 1 else 0)
    month := if month < 10 then month + 3 else month - 9
    day := day - (153 * month + 2) / 5 + 1 }

def digits (width n : Nat) : String :=
  let ds := Nat.toDigits 10 n
  String.ofList (List.replicate (width - ds.length) '0' ++ ds)

def fraction (nanoseconds : Nat) : String :=
  if nanoseconds = 0 then ""
  else if nanoseconds % 1000000 = 0 then "." ++ digits 3 (nanoseconds / 1000000)
  else if nanoseconds % 1000 = 0 then "." ++ digits 6 (nanoseconds / 1000)
  else "." ++ digits 9 nanoseconds

def Date.text (d : Date) : String := digits 4 d.year ++ "-" ++ digits 2 d.month ++ "-" ++ digits 2 d.day

def clock (seconds : Nat) : String :=
  digits 2 (seconds / 3600) ++ ":" ++ digits 2 (seconds / 60 % 60) ++ ":" ++ digits 2 (seconds % 60)

def text (nanoseconds : Nat) : String :=
  let seconds := nanoseconds / 1000000000
  (Date.ofDays (seconds / 86400)).text ++ "T" ++ clock (seconds % 86400)
    ++ fraction (nanoseconds % 1000000000) ++ "Z"

example : Date.ofDays 0 = ⟨1970, 1, 1⟩ := by decide

example : Date.ofDays 11016 = ⟨2000, 2, 29⟩ := by decide

end HookGate.Audit.Timestamp

/-!
## Audit entries

One entry per decision, written as one line of JSON.
-/

namespace HookGate.Audit

inductive Outcome where
  | allowed
  | blocked
  | warned
  /-- The gate was off. -/
  | disabled
  deriving DecidableEq, Repr

def Outcome.name : Outcome → String
  | allowed => "ALLOWED"
  | blocked => "BLOCKED"
  | warned => "WARN"
  | disabled => "DISABLED"

def Outcome.ofVerdict : Verdict → Outcome
  | .allow => allowed
  | .block _ _ => blocked
  | .warn _ _ => warned

structure Entry where
  timestamp : String
  outcome : Outcome
  tool : String
  /-- The rule that matched. -/
  ruleId : Option String
  inputSummary : String
  reason : Option String
  sessionId : Option String
  deriving DecidableEq, Repr

namespace Entry

def make (timestamp : String) (r : Request) (v : Verdict) (sessionId : Option String) (disabled : Bool) :
    Entry where
  timestamp
  outcome := if disabled then .disabled else .ofVerdict v
  tool := r.toolName
  ruleId := v.ruleId?
  inputSummary := r.summary
  reason := v.reason?
  sessionId

def optional (name : String) (value : Option String) : List (String × Json.Value) :=
  value.toList.map fun s => (name, .string s)

def members (e : Entry) : List (String × Json.Value) :=
  [("timestamp", .string e.timestamp), ("outcome", .string e.outcome.name), ("tool", .string e.tool)]
    ++ optional "rule_id" e.ruleId ++ [("input_summary", .string e.inputSummary)]
    ++ optional "reason" e.reason ++ optional "session_id" e.sessionId

def text (e : Entry) : String := (Json.Value.object e.members).text

end Entry

def Entry.bytes (e : Entry) : List UInt8 := Text.Utf8.encode e.text.toList

def lineEnd : List UInt8 := Text.Utf8.encode ['\n']

/-!
## The buffer of the log

What is written is gathered in a buffer first. A writer keeps what could not be handed
over and tries again with the next request, so a line can be completed later than the
call that wrote it, or never.
-/

structure Writer where
  target : Location
  pending : List UInt8 := []
  deriving DecidableEq, Repr

/-- What became of a request, with what it was made to. A request that failed may have changed both that and
the files. -/
structure Attempt (α : Type) where
  error? : Option FileTree.WriteError := none
  state : α
  files : FileTree

def Attempt.andThen {α : Type} (a : Attempt α) (next : α → FileTree → Attempt α) : Attempt α :=
  match a.error? with
  | none => next a.state a.files
  | some _ => a

namespace Writer

def capacity : Nat := 8192

/-- Hands over what the writer holds. What is not taken it keeps. -/
def flush (w : Writer) (files : FileTree) : Attempt Writer :=
  let r := files.append .stalledBuffer w.target w.pending
  { error? := r.error?, state := { w with pending := r.rest }, files := r.files }

def gather (bytes : List UInt8) (w : Writer) (files : FileTree) : Attempt Writer :=
  { state := { w with pending := w.pending ++ bytes }, files }

/-- Hands bytes over past the buffer. What is not taken is lost. -/
def direct (bytes : List UInt8) (w : Writer) (files : FileTree) : Attempt Writer :=
  let r := files.append .stalled w.target bytes
  { error? := r.error?, state := w, files := r.files }

/-- Gathers bytes. Those that find no room wait until the buffer is empty, and those that the empty buffer
cannot hold go past it. -/
def put (bytes : List UInt8) (w : Writer) (files : FileTree) : Attempt Writer :=
  let room := capacity - w.pending.length
  if bytes.length < room then w.gather bytes files
  else
    let emptied := if room < bytes.length then w.flush files else { state := w, files }
    emptied.andThen fun w files =>
      if capacity ≤ bytes.length then w.direct bytes files else w.gather bytes files

def log (e : Entry) (w : Writer) (files : FileTree) : Attempt Writer :=
  ((w.put e.bytes files).andThen (put lineEnd)).andThen flush

end Writer

/-!
## The logger

A logger appends one line per entry to the file it was opened on. One that could
not be opened, or never was, accepts entries and drops them.
-/

structure Logger where
  writer : Option Writer := none
  deriving DecidableEq, Repr

namespace Logger

def target (l : Logger) : Option Location := l.writer.map (·.target)

def isEnabled (l : Logger) : Bool := l.writer.isSome

def openAt (files : FileTree) (directory : Location) : Option String → Logger × FileTree
  | none => ({}, files)
  | some path =>
    let (target, files) := files.openAppend directory path
    ({ writer := target.map ({ target := · }) }, files)

def line (e : Entry) : List UInt8 := e.bytes ++ lineEnd

def log (l : Logger) (files : FileTree) (e : Entry) : Attempt Logger :=
  match l.writer with
  | none => { state := l, files }
  | some w =>
    let a := w.log e files
    { error? := a.error?, state := { writer := some a.state }, files := a.files }

/-- The files when the logger is given up: it tries once more to hand over what it holds, and what is not
taken then is lost. -/
def close (l : Logger) (files : FileTree) : FileTree :=
  match l.writer with
  | none => files
  | some w => (w.flush files).files

end Logger

end HookGate.Audit
