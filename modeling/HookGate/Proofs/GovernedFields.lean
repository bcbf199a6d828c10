import HookGate.Proofs.Decoding

/-!
# What the verdict depends on

Of a payload the rules see a command, or a path and a text, or nothing: its
`Concern`, which is read off the last members of the tool's name and of its input.
Two texts whose objects agree there get the same verdict, whatever else they say and
however it is spelled (`check_governed`).
-/

namespace HookGate

open Json (lookup?)

inductive Concern where
  | command (text : String)
  | change (path : Option String) (text : Option String)
  | nothing
  deriving DecidableEq, Repr

def Engine.judge (e : Engine) : Concern → Verdict
  | .command text => e.rules.checkCommand text
  | .change (some path) (some text) => e.rules.checkContent path text
  | .change _ _ => .allow
  | .nothing => .allow

namespace Payload

def tool (ms : List (String × Json.Value)) : String := (stringMember? ms "tool_name").getD ""

def input? (ms : List (String × Json.Value)) (name : String) : Option String :=
  stringMember? (inputMembers ms) name

/-- The first text that is not empty, of the content and the replacement. -/
def newText? (ms : List (String × Json.Value)) : Option String :=
  ((input? ms "content").toList ++ (input? ms "new_string").toList).find? (· ≠ "")

def changers : List String := ["Write", "Edit"]

def concern (ms : List (String × Json.Value)) : Concern :=
  if tool ms = "Bash" then .command ((input? ms "command").getD "")
  else if tool ms ∈ changers then .change (input? ms "file_path") (newText? ms)
  else .nothing

theorem writtenText_eq_find? (i : ToolInput) :
    writtenText i = (i.content.toList ++ i.newString.toList).find? (· ≠ "") := by
  have hone (o : Option String) : o.filter (!·.isEmpty) = o.toList.find? (· ≠ "") := by
    cases o with
    | none => rfl
    | some t => by_cases ht : t = "" <;> simp [Option.filter, ht]
  rw [List.find?_append, ← hone, ← hone]
  rfl

end Payload

/-! ## Requests -/

namespace ActionKind

theorem ofToolName_of_not {tool : String} (hb : tool ≠ "Bash") (hc : tool ∉ Payload.changers) :
    ofToolName tool = .other := by
  simp only [Payload.changers, List.mem_cons, List.not_mem_nil, or_false, not_or] at hc
  simp [ofToolName, hc]

end ActionKind

namespace Engine
variable (e : Engine) (ms : List (String × Json.Value))

theorem evaluate_change {p : Payload} (h : p.toolName ∈ Payload.changers) :
    e.evaluate p.request = e.judge (.change p.toolInput.filePath (Payload.writtenText p.toolInput)) := by
  have hfile {r : Request} : evaluate.fileChange e r = e.judge (.change r.targetPath r.content) := by
    unfold evaluate.fileChange judge
    cases r.targetPath with
    | none => rfl
    | some path => cases r.content <;> rfl
  simp only [Payload.changers, List.mem_cons, List.not_mem_nil, or_false] at h
  rcases h with h | h
  · simp only [Payload.request, h, ActionKind.ofToolName]
    exact hfile
  · simp only [Payload.request, h, ActionKind.ofToolName]
    exact hfile

theorem evaluate_request : e.evaluate (Payload.ofStrings ms).request = e.judge (Payload.concern ms) := by
  unfold Payload.concern
  by_cases hb : Payload.tool ms = "Bash"
  · rw [if_pos hb]
    have hkind : (Payload.ofStrings ms).toolName = "Bash" := hb
    simp only [Payload.request, hkind, ActionKind.ofToolName]
    rfl
  rw [if_neg hb]
  by_cases hc : Payload.tool ms ∈ Payload.changers
  · rw [if_pos hc, e.evaluate_change hc, Payload.writtenText_eq_find?]
    rfl
  · have hkind : ActionKind.ofToolName (Payload.ofStrings ms).toolName = .other :=
      ActionKind.ofToolName_of_not hb hc
    rw [if_neg hc]
    simp only [Payload.request, hkind]
    rfl

end Engine

namespace Payload

/-- Two objects agree on what the rules look at: the tool, and of its input the command, or the path and
the text that is written. -/
structure Agree (ms ns : List (String × Json.Value)) : Prop where
  sameTool : tool ms = tool ns
  sameCommand : tool ms = "Bash" → (input? ms "command").getD "" = (input? ns "command").getD ""
  samePath : tool ms ∈ changers → input? ms "file_path" = input? ns "file_path"
  sameText : tool ms ∈ changers → newText? ms = newText? ns

theorem Agree.concern_eq {ms ns : List (String × Json.Value)} (h : Agree ms ns) : concern ms = concern ns := by
  unfold concern
  rw [← h.sameTool]
  by_cases hb : tool ms = "Bash"
  · rw [if_pos hb, if_pos hb, h.sameCommand hb]
  rw [if_neg hb, if_neg hb]
  by_cases hc : tool ms ∈ changers
  · rw [if_pos hc, if_pos hc, h.samePath hc, h.sameText hc]
  · rw [if_neg hc, if_neg hc]

theorem tool_of_absent {ms : List (String × Json.Value)} (h : "tool_name" ∉ ms.map (·.1)) : tool ms = "" := by
  rw [tool, stringMember?, Json.lookup?_eq_none_iff.2 h]
  rfl

theorem concern_of_ungoverned {ms : List (String × Json.Value)}
    (h : "tool_name" ∉ ms.map (·.1) ∨ tool ms ≠ "Bash" ∧ tool ms ∉ changers) : concern ms = .nothing := by
  have hno : tool ms ≠ "Bash" ∧ tool ms ∉ changers := by
    rcases h with h | h
    · rw [tool_of_absent h]; decide
    · exact h
  rw [concern, if_neg hno.1, if_neg hno.2]

theorem exists_members_of_ofText {text : String} {p : Payload} (h : ofText text = .ok p) :
    ∃ ms, Json.Value.read text = .ok (.object ms) ∧ ofStrings ms = p := by
  have hd := decodes_ofText text
  rw [h] at hd
  cases hd with
  | @ok ms _ _ hread hname hp => exact ⟨ms, hread, (describes_ofStrings hname).unique hp⟩

theorem ofStrings_of_read {text : String} {p : Payload} {ms : List (String × Json.Value)}
    (h : ofText text = .ok p) (hread : Json.Value.read text = .ok (.object ms)) : ofStrings ms = p := by
  obtain ⟨ns, hns, hp⟩ := exists_members_of_ofText h
  rw [hread] at hns
  cases hns
  exact hp

/-- Texts that agree on what the rules look at get the same verdict and the same response from every engine.
A tool that no rule is about, or none, is allowed by all of them. -/
theorem check_governed (e : Engine) {s t : String} {p q : Payload} (hs : ofText s = .ok p)
    (ht : ofText t = .ok q) :
    ∃ ms ns, Json.Value.read s = .ok (.object ms) ∧ Json.Value.read t = .ok (.object ns) ∧
      (Agree ms ns → e.check p.request = e.check q.request ∧
        (e.check p.request).output = (e.check q.request).output) ∧
      ("tool_name" ∉ ms.map (·.1) ∨ tool ms ≠ "Bash" ∧ tool ms ∉ changers →
        e.evaluate p.request = .allow ∧ e.check p.request = .allow) := by
  obtain ⟨ms, hms, rfl⟩ := exists_members_of_ofText hs
  obtain ⟨ns, hns, rfl⟩ := exists_members_of_ofText ht
  refine ⟨ms, ns, hms, hns, fun h => ?_, fun h => ?_⟩
  · have hcheck : e.check (ofStrings ms).request = e.check (ofStrings ns).request := by
      rw [Engine.check, Engine.check, e.evaluate_request, e.evaluate_request, h.concern_eq]
    exact ⟨hcheck, by rw [hcheck]⟩
  · have heval : e.evaluate (ofStrings ms).request = .allow := by
      rw [e.evaluate_request, concern_of_ungoverned h]; rfl
    exact ⟨heval, by rw [Engine.check, heval, Switches.apply_allow]⟩

/-- One text spells the command with an escape, and says more: a command that counts no more, a path, which
a shell does not have, and another tool before this one. -/
theorem check_governed_respelled :
    let plain := "\x7b\"tool_name\":\"Bash\",\"tool_input\":\x7b\"command\":\"sudo ls\"\x7d\x7d"
    let long := " \x7b\"tool_input\": \x7b\"command\": 1, \"file_path\": \"a\", \"command\": \"sudo\\u0020ls\"\x7d, " ++
      "\"cwd\": null, \"tool_name\": \"Edit\", \"tool_name\": \"Bash\"\x7d"
    ∃ p q, ofText plain = .ok p ∧ ofText long = .ok q ∧ p ≠ q ∧
      ∀ e : Engine, e.check p.request = e.check q.request := by
  intro plain long
  have hread : ofText plain = .ok ⟨"Bash", { command := some "sudo ls" }, none, none, none⟩ ∧
      ofText long = .ok ⟨"Bash", { filePath := some "a", command := some "sudo ls" }, none, none, none⟩ := by
    decide +kernel
  refine ⟨_, _, hread.1, hread.2, by decide, fun e => ?_⟩
  obtain ⟨ms, ns, hms, hns, hagree, -⟩ := check_governed e hread.1 hread.2
  have hp := ofStrings_of_read hread.1 hms
  have hq := ofStrings_of_read hread.2 hns
  have htool : tool ms = "Bash" := congrArg toolName hp
  have hshell : tool ms ∉ changers := by rw [htool]; decide
  refine (hagree ⟨htool.trans (congrArg toolName hq).symm, fun _ => ?_, fun h => absurd h hshell,
    fun h => absurd h hshell⟩).1
  have hcommand : input? ms "command" = some "sudo ls" := congrArg (·.toolInput.command) hp
  have hcommand' : input? ns "command" = some "sudo ls" := congrArg (·.toolInput.command) hq
  rw [hcommand, hcommand']

end Payload

end HookGate
