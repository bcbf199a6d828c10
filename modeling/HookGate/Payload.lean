import HookGate.Json
import HookGate.Text.Class

/-!
# Hook payloads

A payload is a JSON object that names a tool and its input. Members of the wrong
type count as absent, except the tool's name, on which everything else depends.
`Payload.ofText` says which texts are payloads, `Payload.request` what they ask.
-/

namespace HookGate

/-!
## Action requests

What an agent is about to do, reduced to what the rules look at. `Request.summary`
is the one-line account that the audit log keeps. A long command is cut there at a
byte, which is always one between two characters (`truncate?_eq`).
-/

inductive ActionKind where
  | fileWrite
  | fileEdit
  | shellExec
  /-- Any other tool, which no rule is about. -/
  | other
  deriving DecidableEq, Repr

namespace ActionKind

def ofToolName : String → ActionKind
  | "Write" => fileWrite
  | "Edit" => fileEdit
  | "Bash" => shellExec
  | _ => other

def isFileChange : ActionKind → Bool
  | fileWrite => true
  | fileEdit => true
  | shellExec => false
  | other => false

end ActionKind

structure Request where
  kind : ActionKind
  toolName : String
  targetPath : Option String := none
  content : Option String := none
  command : Option String := none
  deriving DecidableEq, Repr

/-- What stands before the byte where character `n`, counted from zero, begins, and an ellipsis; or the whole text if it
has no such character. `none` if that byte is inside a character. -/
def truncate? (n : Nat) (text : String) : Option String :=
  match (Text.charOffsets text)[n]? with
  | none => some text
  | some (i, _) => (Text.sliceTo? text i).map (· ++ "...")

theorem truncate?_eq (n : Nat) (text : String) :
    truncate? n text =
      some (if text.length ≤ n then text else String.ofList (text.toList.take n) ++ "...") := by
  cases h : (Text.charOffsets text)[n]? with
  | none => rw [truncate?, h, if_pos (Text.getElem?_charOffsets_eq_none_iff.1 h)]
  | some found =>
    have hlong : ¬ text.length ≤ n := by
      rw [← Text.getElem?_charOffsets_eq_none_iff, h]
      simp
    simp only [truncate?, h, if_neg hlong, Text.sliceTo?_of_getElem? h, Option.map_some]

theorem isSome_truncate? (n : Nat) (text : String) : (truncate? n text).isSome := by
  rw [truncate?_eq, Option.isSome_some]

def truncate (n : Nat) (text : String) : String := (truncate? n text).get (isSome_truncate? n text)

theorem some_truncate (n : Nat) (text : String) : some (truncate n text) = truncate? n text :=
  Option.some_get _

theorem truncate_of_length_le {n : Nat} {text : String} (h : text.length ≤ n) : truncate n text = text := by
  rw [← Option.some_inj, some_truncate, truncate?_eq, if_pos h]

theorem truncate_of_lt_length {n : Nat} {text : String} (h : n < text.length) :
    truncate n text = String.ofList (text.toList.take n) ++ "..." := by
  rw [← Option.some_inj, some_truncate, truncate?_eq, if_neg (Nat.not_le.2 h)]

namespace Request

def other (toolName : String) : Request := { kind := .other, toolName }

def summaryLimit : Nat := 100

def summary (r : Request) : String :=
  match r.kind with
  | .shellExec => r.toolName ++ ": " ++ truncate summaryLimit (r.command.getD "")
  | .fileWrite => r.toolName ++ ": " ++ r.targetPath.getD "<no path>"
  | .fileEdit => r.toolName ++ ": " ++ r.targetPath.getD "<no path>"
  | .other => if r.toolName.isEmpty then "Unknown tool" else "Unknown tool: " ++ r.toolName

end Request

/-! ## Hook payloads -/

inductive DecodeError where
  /-- Nothing but white space was given. -/
  | empty
  | json (e : Json.Failure)
  | notAnObject (got : Json.Kind)
  /-- A member is present with the wrong type. -/
  | invalidField (name : String)
  | invalidUtf8 (e : Text.Utf8.Failure)
  /-- The input could not be read. -/
  | read (cause : String)
  deriving DecidableEq, Repr

namespace DecodeError

/-- Empty input is nothing to check, not a malformed request. -/
def isEmptyInput : DecodeError → Bool
  | empty => true
  | _ => false

def message : DecodeError → String
  | empty => "hook input is empty"
  | json e => "hook input is not valid JSON: " ++ e.message
  | notAnObject got => "hook input must be a JSON object, got " ++ got.phrase
  | invalidField name => "hook input field `" ++ name ++ "` must be a string"
  | invalidUtf8 e => "hook input is not valid UTF-8: " ++ e.message
  | read cause => "failed to read hook input: " ++ cause

end DecodeError

structure ToolInput where
  filePath : Option String := none
  /-- The whole content of a written file. -/
  content : Option String := none
  /-- The replacement of an edit. -/
  newString : Option String := none
  command : Option String := none
  deriving DecidableEq, Repr

structure Payload where
  toolName : String
  toolInput : ToolInput
  sessionId : Option String
  hookEventName : Option String
  cwd : Option String
  deriving DecidableEq, Repr

def stringMember? (members : List (String × Json.Value)) (name : String) : Option String :=
  (Json.lookup? members name).bind Json.Value.string?

/-- Anything but an object counts as an empty one. -/
def ToolInput.ofValue : Json.Value → ToolInput
  | .object members =>
    { filePath := stringMember? members "file_path"
      content := stringMember? members "content"
      newString := stringMember? members "new_string"
      command := stringMember? members "command" }
  | _ => {}

namespace Payload

/-- The payload of an object, whose tool name must be a string if it is there at all. -/
def ofMembers (members : List (String × Json.Value)) : Except DecodeError Payload :=
  let payload (toolName : String) : Payload :=
    { toolName
      toolInput := ((Json.lookup? members "tool_input").map ToolInput.ofValue).getD {}
      sessionId := stringMember? members "session_id"
      hookEventName := stringMember? members "hook_event_name"
      cwd := stringMember? members "cwd" }
  match Json.lookup? members "tool_name" with
  | none => .ok (payload "")
  | some (.string toolName) => .ok (payload toolName)
  | some _ => .error (.invalidField "tool_name")

def ofText (text : String) : Except DecodeError Payload :=
  if Text.isBlankText text then .error .empty
  else
    match Json.Value.read text with
    | .error e => .error (.json e)
    | .ok (.object members) => ofMembers members
    | .ok v => .error (.notAnObject v.kind)

/-- The payload that bytes hold. Bytes that are not UTF-8 are refused, not repaired. -/
def ofBytes (bytes : List UInt8) : Except DecodeError Payload :=
  match Text.Utf8.decode bytes with
  | .error e => .error (.invalidUtf8 e)
  | .ok cs => ofText (String.ofList cs)

/-- The text that a file change writes: the content, or the replacement if there is no
content; empty ones count as absent. -/
def writtenText (t : ToolInput) : Option String :=
  let nonEmpty (s : Option String) : Option String := s.filter (!·.isEmpty)
  (nonEmpty t.content).or (nonEmpty t.newString)

def request (p : Payload) : Request :=
  match ActionKind.ofToolName p.toolName with
  | .fileWrite => fileChange .fileWrite
  | .fileEdit => fileChange .fileEdit
  | .shellExec => { kind := .shellExec, toolName := p.toolName, command := p.toolInput.command }
  | .other => .other p.toolName
where
  fileChange (kind : ActionKind) : Request :=
    { kind, toolName := p.toolName, targetPath := p.toolInput.filePath
      content := writtenText p.toolInput }

end Payload

namespace Request

def ofText (text : String) : Except DecodeError Request := (Payload.ofText text).map Payload.request

def ofTextLenient (text : String) : Request :=
  match ofText text with
  | .ok r => r
  | .error _ => .other ""

end Request

/-!
## Payloads field by field

A payload object whose names differ can also be taken apart member by member: each
member fills the field of its name, no field is filled twice, and a field that stays
empty has its default. `Payload.ofFields` does so, and refuses a tool name that is
no string.
-/

/-- The members of an object as a map holds them: each name once, with its last value. -/
def Json.lastMembers : List (String × Json.Value) → List (String × Json.Value)
  | [] => []
  | m :: ms => if m.1 ∈ ms.map (·.1) then lastMembers ms else m :: lastMembers ms

inductive FieldFault where
  | duplicate (name : String)
  | wrongType (name : String)
  deriving DecidableEq, Repr

namespace Payload

structure Draft where
  toolName : Option String := none
  toolInput : Option ToolInput := none
  sessionId : Option (Option String) := none
  hookEventName : Option (Option String) := none
  cwd : Option (Option String) := none
  deriving DecidableEq, Repr

namespace Draft

def fill (name : String) (field : Option α) (read : Json.Value → Except FieldFault α) (v : Json.Value) :
    Except FieldFault (Option α) :=
  if field.isSome then .error (.duplicate name) else (read v).map some

def text (name : String) (v : Json.Value) : Except FieldFault String :=
  match v.string? with
  | some s => .ok s
  | none => .error (.wrongType name)

/-- A text, or nothing where the value is of another type. -/
def text? (v : Json.Value) : Except FieldFault (Option String) := .ok v.string?

def add (d : Draft) (m : String × Json.Value) : Except FieldFault Draft :=
  if m.1 = "tool_name" then
    (fill m.1 d.toolName (text m.1) m.2).map fun toolName => { d with toolName }
  else if m.1 = "tool_input" then
    (fill m.1 d.toolInput (fun v => .ok (ToolInput.ofValue v)) m.2).map fun toolInput => { d with toolInput }
  else if m.1 = "session_id" then
    (fill m.1 d.sessionId text? m.2).map fun sessionId => { d with sessionId }
  else if m.1 = "hook_event_name" then
    (fill m.1 d.hookEventName text? m.2).map fun hookEventName => { d with hookEventName }
  else if m.1 = "cwd" then
    (fill m.1 d.cwd text? m.2).map fun cwd => { d with cwd }
  else .ok d

def toPayload (d : Draft) : Payload where
  toolName := d.toolName.getD ""
  toolInput := d.toolInput.getD {}
  sessionId := d.sessionId.getD none
  hookEventName := d.hookEventName.getD none
  cwd := d.cwd.getD none

end Draft

def ofFields (members : List (String × Json.Value)) : Except FieldFault Payload :=
  (members.foldlM Draft.add {}).map Draft.toPayload

end Payload

end HookGate
