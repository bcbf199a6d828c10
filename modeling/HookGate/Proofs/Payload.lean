import HookGate.Proofs.Engine
import HookGate.Proofs.Json.Writing

/-!
# What the rules see of a payload

A command, a path or a text that is put into a payload reaches the rules as it is,
whatever characters it holds, and a written file is judged like an edited one
(`ofText_written`). The log has a short account of a command (`truncate_exact`).
-/

namespace HookGate

open Json (lookup? Writes Fits)

section
variable {ms ns : List (String × Json.Value)} (h : ms.Perm ns) (hnd : (ns.map (·.1)).Nodup)
include h hnd

theorem stringMember?_perm (name : String) : stringMember? ms name = stringMember? ns name := by
  rw [stringMember?, stringMember?, Json.lookup?_perm h hnd]

theorem ToolInput.ofValue_perm : ToolInput.ofValue (.object ms) = ToolInput.ofValue (.object ns) := by
  simp only [ToolInput.ofValue, stringMember?_perm h hnd]

theorem Payload.ofMembers_perm : Payload.ofMembers ms = Payload.ofMembers ns := by
  simp only [Payload.ofMembers, stringMember?_perm h hnd, Json.lookup?_perm h hnd]

end

theorem Engine.check_fileChange (e : Engine) {r : Request} {path text : String} (hk : r.kind.isFileChange = true)
    (hp : r.targetPath = some path) (ht : r.content = some text) :
    e.check r = e.switches.apply (e.rules.checkContent path text) := by
  rw [check, evaluate_fileChange e hk hp ht]

namespace Payload

theorem isBlankText_object (ms : List (String × Json.Value)) :
    Text.isBlankText (Json.Value.object ms).text = false := by
  have hbrace : Text.isBlank '{' = false := by decide
  simp [Text.isBlankText, Json.Value.text, Json.Value.chars, hbrace]

theorem ofText_of_writes {text : String} {members : List (String × Json.Value)} (h : Writes text members)
    (hnd : (members.map (·.1)).Nodup) {d : Nat} (hfits : Fits d (.object members)) (hd : d < Json.depthLimit) :
    ofText text = ofMembers members := by
  obtain ⟨ms, hp, hread⟩ := h.read hfits hd
  have hblank : Text.isBlankText text = false := by
    obtain ⟨ns, -, rfl⟩ := h
    exact isBlankText_object ns
  simp only [ofText, hblank, hread, ofMembers_perm hp hnd, Bool.false_eq_true, if_false]

theorem writtenText_of_content {i : ToolInput} {text : String} (h : i.content = some text) (ht : text ≠ "") :
    writtenText i = some text := by
  simp [writtenText, h, Option.filter, ht]

theorem writtenText_of_newString {i : ToolInput} {text : String} (hc : i.content = none)
    (h : i.newString = some text) (ht : text ≠ "") : writtenText i = some text := by
  simp [writtenText, hc, h, Option.filter, ht]

/-- The members of a tool call; the session's name is left out if there is none. -/
def toolCall (tool : String) (input : List (String × Json.Value)) (sessionId : Option String) :
    List (String × Json.Value) :=
  [("tool_name", .string tool), ("tool_input", .object input)]
    ++ sessionId.toList.map fun s => ("session_id", .string s)

theorem fits_toolCall (tool : String) {input : List (String × Json.Value)} (h : Fits 1 (.object input))
    (sessionId : Option String) : Fits 2 (.object (toolCall tool input sessionId)) := by
  have hpair : ∀ m ∈ [("tool_name", Json.Value.string tool), ("tool_input", .object input)], Fits 1 m.2 :=
    List.forall_mem_cons.2 ⟨.string tool, List.forall_mem_singleton.2 h⟩
  refine .object (List.forall_mem_append.2 ⟨hpair, fun m hm => ?_⟩)
  obtain ⟨s, -, rfl⟩ := List.mem_map.1 hm
  exact .string s

theorem ofMembers_toolCall (tool : String) (input : List (String × Json.Value)) (sessionId : Option String) :
    ofMembers (toolCall tool input sessionId) =
      .ok ⟨tool, .ofValue (.object input), sessionId, none, none⟩ := by
  cases sessionId <;> simp [ofMembers, toolCall, stringMember?, Json.lookup?_cons, Json.Value.string?]

/-- A tool call whose input is made of texts is decoded from what it is written from. -/
theorem ofText_toolCall (tool : String) (sessionId : Option String) {text : String}
    {is js : List (String × Json.Value)} (h : Writes text (toolCall tool is sessionId))
    (hp : is.Perm js) (hnd : (js.map (·.1)).Nodup) (hs : Json.AllStrings js) :
    ofText text = .ok ⟨tool, .ofValue (.object js), sessionId, none, none⟩ := by
  have hfits := fits_toolCall tool ((Json.fits_of_allStrings hs).perm hp) sessionId
  have hnames : ((toolCall tool is sessionId).map (·.1)).Nodup := by
    cases sessionId <;> simp [toolCall]
  rw [ofText_of_writes h hnames hfits (by decide), ofMembers_toolCall, ToolInput.ofValue_perm hp hnd]

/-- What is put into a payload reaches the rules as it is. A command is the one that the rules look for
in, with the session's name beside it; a written file and an edited one give the rules the same path and
the same text, whatever was replaced, and so the same verdict. The members may stand in any order. -/
theorem ofText_written (e : Engine) (command path replaced text sessionId : String) (ht : text ≠ "")
    {shell write edit : String} {writeInput editInput : List (String × Json.Value)}
    (hshell : Writes shell [("tool_name", .string "Bash"),
      ("tool_input", .object [("command", .string command)]), ("session_id", .string sessionId)])
    (hwrite : Writes write [("tool_name", .string "Write"), ("tool_input", .object writeInput)])
    (hwriteInput : writeInput.Perm [("file_path", .string path), ("content", .string text)])
    (hedit : Writes edit [("tool_name", .string "Edit"), ("tool_input", .object editInput)])
    (heditInput : editInput.Perm
      [("file_path", .string path), ("old_string", .string replaced), ("new_string", .string text)]) :
    (∃ p, ofText shell = .ok p ∧ p.sessionId = some sessionId ∧ p.request.kind = .shellExec ∧
      p.request.command = some command ∧ e.evaluate p.request = e.rules.checkCommand command) ∧
    ∃ p q, ofText write = .ok p ∧ p.request.kind = .fileWrite ∧ p.request.targetPath = some path ∧
      p.request.content = some text ∧
      ofText edit = .ok q ∧ q.request.kind = .fileEdit ∧ q.request.targetPath = some path ∧
      q.request.content = some text ∧
      e.check p.request = e.switches.apply (e.rules.checkContent path text) ∧
      e.check q.request = e.check p.request := by
  have hs : ofText shell = .ok ⟨"Bash", { command := some command }, some sessionId, none, none⟩ := by
    have := ofText_toolCall "Bash" (some sessionId) hshell (.refl _) (by simp) (by simp [Json.AllStrings])
    simpa [ToolInput.ofValue, stringMember?, Json.lookup?_cons, Json.Value.string?] using this
  have hw : ofText write =
      .ok ⟨"Write", { filePath := some path, content := some text }, none, none, none⟩ := by
    have := ofText_toolCall "Write" none hwrite hwriteInput (by simp) (by simp [Json.AllStrings])
    simpa [ToolInput.ofValue, stringMember?, Json.lookup?_cons, Json.Value.string?] using this
  have he : ofText edit =
      .ok ⟨"Edit", { filePath := some path, newString := some text }, none, none, none⟩ := by
    have := ofText_toolCall "Edit" none hedit heditInput (by simp) (by simp [Json.AllStrings])
    simpa [ToolInput.ofValue, stringMember?, Json.lookup?_cons, Json.Value.string?] using this
  have hwt : writtenText { filePath := some path, content := some text } = some text :=
    writtenText_of_content rfl ht
  have het : writtenText { filePath := some path, newString := some text } = some text :=
    writtenText_of_newString rfl rfl ht
  refine ⟨⟨_, hs, rfl, rfl, rfl, Engine.evaluate_shellExec e rfl⟩,
    _, _, hw, rfl, rfl, hwt, he, rfl, rfl, het, ?written, ?edited⟩
  case written => exact e.check_fileChange rfl rfl hwt
  case edited => exact (e.check_fileChange rfl rfl het).trans (e.check_fileChange rfl rfl hwt).symm

/-- A text with a line end, a quotation mark and a backslash, in inputs of either order. -/
theorem ofText_written_escaped :
    let e : Engine := { rules := .builtin }
    let text := "a\n\"b\\"
    let write : Json.Value := .object
      [("tool_input", .object [("content", .string text), ("file_path", .string "A.kt")]),
        ("tool_name", .string "Write")]
    let edit : Json.Value := .object
      [("tool_name", .string "Edit"),
        ("tool_input", .object
          [("file_path", .string "A.kt"), ("old_string", .string ""), ("new_string", .string text)])]
    text ≠ "" ∧ ∃ p q, ofText write.text = .ok p ∧ ofText edit.text = .ok q ∧
      p.request.content = some text ∧ q.request.content = some text ∧
      e.check q.request = e.check p.request := by
  intro e text write edit
  have ht : text ≠ "" := by decide
  obtain ⟨-, p, q, hp, -, -, hpc, hq, -, -, hqc, -, hcheck⟩ :=
    ofText_written e "ls" "A.kt" "" text "s-1" ht ⟨_, .refl _, rfl⟩ ⟨_, .swap _ _ _, rfl⟩
      (.swap _ _ _) ⟨_, .refl _, rfl⟩ (.refl _)
  exact ⟨ht, p, q, hp, hq, hpc, hqc, hcheck⟩

end Payload

/-!
## Short accounts of long commands

A text is cut between two characters whatever their widths, keeps its first characters
exactly, and stays as it is when it is cut again (`truncate_exact`). So the account of
a command is short, and holds every command of a hundred characters whole.
-/

variable {n : Nat}

/-- Of a text that is cut nothing counts but the characters that are kept. -/
theorem truncate_congr {s t : String} (hs : n < s.length) (ht : n < t.length)
    (h : s.toList.take n = t.toList.take n) : truncate n s = truncate n t := by
  rw [truncate_of_lt_length hs, truncate_of_lt_length ht, h]

theorem length_truncate_of_lt {text : String} (h : n < text.length) : (truncate n text).length = n + 3 := by
  have hkept : (text.toList.take n).length = n := by
    rw [List.length_take, String.length_toList, Nat.min_eq_left (Nat.le_of_lt h)]
  rw [truncate_of_lt_length h, String.length_append, String.length_ofList, hkept]
  rfl

theorem length_truncate_le (n : Nat) (text : String) : (truncate n text).length ≤ n + 3 := by
  rcases Nat.lt_or_ge n text.length with h | h
  · exact Nat.le_of_eq (length_truncate_of_lt h)
  · rw [truncate_of_length_le h]
    omega

theorem truncate_truncate (n : Nat) (text : String) : truncate n (truncate n text) = truncate n text := by
  rcases Nat.lt_or_ge n text.length with h | h
  · have hcut : n < (truncate n text).length := by
      rw [length_truncate_of_lt h]
      omega
    have hkept : (truncate n text).toList.take n = text.toList.take n := by
      have hlength : n ≤ (text.toList.take n).length := by
        rw [List.length_take, String.length_toList]
        omega
      rw [truncate_of_lt_length h, String.toList_append, String.toList_ofList, List.take_append_of_le_length hlength,
        List.take_take, Nat.min_self]
    exact truncate_congr hcut h hkept
  · rw [truncate_of_length_le h, truncate_of_length_le h]

theorem Request.summary_of_shellExec {r : Request} (h : r.kind = .shellExec) :
    r.summary = r.toolName ++ ": " ++ truncate 100 (r.command.getD "") := by
  rw [summary, h, summaryLimit]

/-- A cut never goes through a character, whatever the widths of the characters. It gives back a text of at most `n`
characters, and of a longer one the first `n` characters and an ellipsis; it can be repeated, and does not see what it
leaves out. The account of a command is the tool's name and at most 103 characters, and holds a command of at most 100
characters whole. -/
theorem truncate_exact :
    (∀ (n : Nat) (text : String),
      (∀ i c, (Text.charOffsets text)[n]? = some (i, c) → i.IsValid text) ∧
      truncate? n text = some (truncate n text) ∧
      (text.length ≤ n → truncate n text = text) ∧
      (n < text.length → truncate n text = String.ofList (text.toList.take n) ++ "...") ∧
      truncate n (truncate n text) = truncate n text ∧
      ∀ other : String, n < text.length → n < other.length → text.toList.take n = other.toList.take n →
        truncate n text = truncate n other) ∧
    ∀ r : Request, r.kind = .shellExec →
      r.summary = r.toolName ++ ": " ++ truncate 100 (r.command.getD "") ∧
      (truncate 100 (r.command.getD "")).length ≤ 103 ∧
      ((r.command.getD "").length ≤ 100 → r.summary = r.toolName ++ ": " ++ r.command.getD "") := by
  refine ⟨fun n text => ⟨fun i c => Text.isValid_of_getElem?, (some_truncate n text).symm, truncate_of_length_le,
    truncate_of_lt_length, truncate_truncate n text, fun other => truncate_congr⟩, fun r hr => ?_⟩
  have hsummary := Request.summary_of_shellExec hr
  refine ⟨hsummary, length_truncate_le 100 _, fun h => ?_⟩
  rw [hsummary, truncate_of_length_le h]

/-- Characters of one, two, three and four bytes, cut before the last of them, where the byte 4 is inside a character;
and a command of just a hundred characters and two hundred bytes. -/
theorem truncate_exact_widths :
    let text := "aé€𝄞"
    let command := String.ofList (List.replicate 100 'é')
    (Text.charOffsets text)[3]? = some (⟨6⟩, '𝄞') ∧ (⟨6⟩ : String.Pos.Raw).IsValid text ∧
      Text.sliceTo? text ⟨4⟩ = none ∧ truncate? 3 text = some "aé€..." ∧ truncate 4 text = text ∧
      truncate 3 text = truncate 3 "aé€zz" ∧
      ({ kind := .shellExec, toolName := "Bash", command := some command } : Request).summary =
        "Bash" ++ ": " ++ command := by
  intro text command
  obtain ⟨hcut, hshell⟩ := truncate_exact
  obtain ⟨hvalid, hsome, -, hlong, -, hother⟩ := hcut 3 text
  obtain ⟨-, -, hwhole, -⟩ := hcut 4 text
  obtain ⟨-, -, hfull⟩ := hshell { kind := .shellExec, toolName := "Bash", command := some command } rfl
  have hoffset : (Text.charOffsets text)[3]? = some (⟨6⟩, '𝄞') := by decide
  have hkept : truncate 3 text = "aé€..." := (hlong (by decide)).trans (by decide)
  have hlength : command.length = 100 := by rw [String.length_ofList, List.length_replicate]
  refine ⟨hoffset, hvalid _ _ hoffset, by decide, hsome.trans (congrArg some hkept), hwhole (by decide),
    hother "aé€zz" (by decide) (by decide) (by decide), hfull (Nat.le_of_eq hlength)⟩

end HookGate
