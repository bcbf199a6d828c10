import HookGate.Proofs.Json.Reading
import HookGate.Proofs.Payload

/-!
# Which texts are payloads

A text is blank, or no JSON, or no object, or an object whose tool name is no string;
every other text is a payload, and its members say which (`ofText_decodes`). Reading
an object field by field fails for the tool's name at most (`ofFields_eq_ok_iff`), so
that what has passed the check of the name is read a second time without failing.
-/

namespace HookGate.Json

/-!
## The last member of a name

Where a name is written twice, its last member counts: `lookup?` finds it
(`lookup?_eq_some_iff_isLast`), and `lastMembers` keeps no other. What is found in an
object is therefore found in its last members, in whatever order they are kept
(`lookup?_of_perm_lastMembers`).
-/

def IsLast (ms : List (String × Value)) (name : String) (v : Value) : Prop :=
  ∃ before after, ms = before ++ (name, v) :: after ∧ name ∉ after.map (·.1)

theorem IsLast.cons {ms : List (String × Value)} {name : String} {v : Value} (h : IsLast ms name v)
    (m : String × Value) : IsLast (m :: ms) name v := by
  obtain ⟨before, after, rfl, hafter⟩ := h
  exact ⟨m :: before, after, rfl, hafter⟩

theorem lookup?_eq_some_iff_isLast {ms : List (String × Value)} {name : String} {v : Value} :
    lookup? ms name = some v ↔ IsLast ms name v := by
  constructor
  · intro h
    induction ms with
    | nil => simp at h
    | cons m ms ih =>
      rw [lookup?_cons, Option.or_eq_some_iff] at h
      rcases h with h | ⟨hnone, h⟩
      · exact (ih h).cons m
      · obtain ⟨rfl, rfl⟩ : m.1 = name ∧ m.2 = v := by simpa using h
        exact ⟨[], ms, rfl, lookup?_eq_none_iff.1 hnone⟩
  · rintro ⟨before, after, rfl, hafter⟩
    rw [lookup?_append, lookup?_cons, lookup?_eq_none_iff.2 hafter]
    simp

/-! ### Objects as maps -/

theorem lookup?_lastMembers (ms : List (String × Value)) (name : String) :
    lookup? (lastMembers ms) name = lookup? ms name := by
  induction ms with
  | nil => rfl
  | cons m ms ih =>
    rw [lastMembers, lookup?_cons]
    by_cases hm : m.1 ∈ ms.map (·.1)
    · rw [if_pos hm, ih]
      by_cases h : m.1 = name
      · have hsome : lookup? ms name ≠ none := fun hnone => lookup?_eq_none_iff.1 hnone (h ▸ hm)
        rw [Option.or_of_isSome (Option.isSome_iff_ne_none.2 hsome)]
      · simp [h]
    · rw [if_neg hm, lookup?_cons, ih]

theorem mem_map_lastMembers {ms : List (String × Value)} {name : String} :
    name ∈ (lastMembers ms).map (·.1) ↔ name ∈ ms.map (·.1) := by
  rw [← Decidable.not_iff_not, ← lookup?_eq_none_iff, ← lookup?_eq_none_iff, lookup?_lastMembers]

theorem nodup_lastMembers (ms : List (String × Value)) : ((lastMembers ms).map (·.1)).Nodup := by
  induction ms with
  | nil => exact List.nodup_nil
  | cons m ms ih =>
    rw [lastMembers]
    by_cases hm : m.1 ∈ ms.map (·.1)
    · rwa [if_pos hm]
    · rw [if_neg hm, List.map_cons, List.nodup_cons, mem_map_lastMembers]
      exact ⟨hm, ih⟩

section
variable {ms ns : List (String × Value)} (h : ns.Perm (lastMembers ms))
include h

theorem nodup_of_perm_lastMembers : (ns.map (·.1)).Nodup :=
  (h.map _).nodup_iff.2 (nodup_lastMembers ms)

theorem lookup?_of_perm_lastMembers (name : String) : lookup? ns name = lookup? ms name := by
  rw [lookup?_perm h (nodup_lastMembers ms), lookup?_lastMembers]

end

end HookGate.Json

/-! ## Which texts are payloads -/

namespace HookGate

open Json (lookup? lastMembers IsLast lookup?_eq_none_iff lookup?_append_singleton lookup?_eq_some_iff_isLast)

theorem stringMember?_eq_some_iff {ms : List (String × Json.Value)} {name s : String} :
    stringMember? ms name = some s ↔ IsLast ms name (.string s) := by
  rw [stringMember?, Option.bind_eq_some_iff]
  constructor
  · rintro ⟨v, hv, hs⟩
    cases v with
    | string t => cases hs; exact lookup?_eq_some_iff_isLast.1 hv
    | _ => cases hs
  · exact fun h => ⟨.string s, lookup?_eq_some_iff_isLast.2 h, rfl⟩

namespace Payload

/-! ### Field by field -/

namespace Draft

def seen (ms : List (String × Json.Value)) : Draft where
  toolName := stringMember? ms "tool_name"
  toolInput := (lookup? ms "tool_input").map ToolInput.ofValue
  sessionId := (lookup? ms "session_id").map Json.Value.string?
  hookEventName := (lookup? ms "hook_event_name").map Json.Value.string?
  cwd := (lookup? ms "cwd").map Json.Value.string?

def Readable (m : String × Json.Value) : Prop := m.1 = "tool_name" → ∃ s, m.2 = .string s

theorem readable_of_add {d d' : Draft} {m : String × Json.Value} (h : d.add m = .ok d') : Readable m := by
  intro hm
  obtain ⟨name, v⟩ := m
  subst hm
  cases v with
  | string s => exact ⟨s, rfl⟩
  | _ => cases hd : d.toolName <;> simp [add, fill, text, hd, Json.Value.string?, Except.map] at h

theorem add_seen {before : List (String × Json.Value)} {m : String × Json.Value}
    (hnew : m.1 ∉ before.map (·.1)) (hm : Readable m) : (seen before).add m = .ok (seen (before ++ [m])) := by
  have hnone : lookup? before m.1 = none := lookup?_eq_none_iff.2 hnew
  obtain ⟨name, v⟩ := m
  simp only at hnew hnone
  simp only [add, seen, stringMember?, lookup?_append_singleton]
  -- a field is filled at most once, since `hnew` says that its name is new
  by_cases h₁ : name = "tool_name"
  · subst h₁
    obtain ⟨s, rfl⟩ := hm rfl
    simp [fill, text, hnone, Json.Value.string?, Except.map]
  by_cases h₂ : name = "tool_input"
  · subst h₂
    simp [fill, hnone, Except.map]
  by_cases h₃ : name = "session_id"
  · subst h₃
    simp [fill, text?, hnone, Except.map]
  by_cases h₄ : name = "hook_event_name"
  · subst h₄
    simp [fill, text?, hnone, Except.map]
  by_cases h₅ : name = "cwd"
  · subst h₅
    simp [fill, text?, hnone, Except.map]
  · simp [h₁, h₂, h₃, h₄, h₅]

theorem foldlM_add_seen (before ms : List (String × Json.Value)) (hnd : ((before ++ ms).map (·.1)).Nodup)
    (hms : ∀ m ∈ ms, Readable m) : ms.foldlM add (seen before) = .ok (seen (before ++ ms)) := by
  induction ms generalizing before with
  | nil => simp [pure, Except.pure]
  | cons m ms ih =>
    have hnew : m.1 ∉ before.map (·.1) := by
      rw [List.map_append, List.nodup_append] at hnd
      exact fun hm => hnd.2.2 _ hm m.1 (by simp) rfl
    rw [List.foldlM_cons, add_seen hnew (hms m (by simp))]
    have hrest := ih (before ++ [m]) (by simpa using hnd) fun n hn => hms n (by simp [hn])
    simpa [bind, Except.bind] using hrest

theorem readable_of_foldlM_add {d d' : Draft} {ms : List (String × Json.Value)}
    (h : ms.foldlM add d = .ok d') : ∀ m ∈ ms, Readable m := by
  induction ms generalizing d with
  | nil => simp
  | cons m ms ih =>
    rw [List.foldlM_cons] at h
    obtain ⟨d₁, hadd, h⟩ := bind_eq_ok_iff.1 h
    exact List.forall_mem_cons.2 ⟨readable_of_add hadd, ih h⟩

end Draft

/-! ### Members and payloads -/

/-- The members of the tool's input; none if it is no object. -/
def inputMembers (ms : List (String × Json.Value)) : List (String × Json.Value) :=
  match lookup? ms "tool_input" with
  | some (.object is) => is
  | _ => []

/-- The payload that members make, where a tool name of another type counts as none. -/
def ofStrings (ms : List (String × Json.Value)) : Payload where
  toolName := (stringMember? ms "tool_name").getD ""
  toolInput := .ofValue (.object (inputMembers ms))
  sessionId := stringMember? ms "session_id"
  hookEventName := stringMember? ms "hook_event_name"
  cwd := stringMember? ms "cwd"

theorem ofValue_inputMembers (ms : List (String × Json.Value)) :
    ((lookup? ms "tool_input").map ToolInput.ofValue).getD {} = .ofValue (.object (inputMembers ms)) := by
  unfold inputMembers
  cases lookup? ms "tool_input" with
  | none => rfl
  | some v => cases v <;> rfl

theorem ofStrings_congr {ms ns : List (String × Json.Value)} (h : ∀ name, lookup? ms name = lookup? ns name) :
    ofStrings ms = ofStrings ns := by
  simp only [ofStrings, inputMembers, stringMember?, h]

theorem toPayload_seen (ms : List (String × Json.Value)) : (Draft.seen ms).toPayload = ofStrings ms := by
  have hoption (o : Option Json.Value) : (o.map Json.Value.string?).getD none = o.bind Json.Value.string? := by
    cases o <;> rfl
  simp only [Draft.toPayload, Draft.seen, ofStrings, ofValue_inputMembers, hoption, stringMember?]

/-- The tool's name is a string, if it is there at all. -/
def Named (ms : List (String × Json.Value)) : Prop := ∀ v, IsLast ms "tool_name" v → v.kind = .string

theorem ofMembers_of_named {ms : List (String × Json.Value)} (h : Named ms) :
    ofMembers ms = .ok (ofStrings ms) := by
  simp only [ofMembers, ofStrings, ofValue_inputMembers, stringMember?]
  cases hname : lookup? ms "tool_name" with
  | none => rfl
  | some v =>
    have hv := h v (lookup?_eq_some_iff_isLast.1 hname)
    cases v with
    | string s => rfl
    | _ => cases hv

theorem named_congr {ms ns : List (String × Json.Value)} (h : ∀ name, lookup? ms name = lookup? ns name) :
    Named ms ↔ Named ns := by
  unfold Named
  simp only [← lookup?_eq_some_iff_isLast, h]

theorem exists_of_not_named {ms : List (String × Json.Value)} (h : ¬ Named ms) :
    ∃ v, IsLast ms "tool_name" v ∧ v.kind ≠ .string := by
  obtain ⟨v, hv⟩ := Classical.not_forall.1 h
  exact ⟨v, Classical.not_imp.1 hv⟩

theorem ofMembers_of_not_named {ms : List (String × Json.Value)} {v : Json.Value}
    (h : IsLast ms "tool_name" v) (hv : v.kind ≠ .string) :
    ofMembers ms = .error (.invalidField "tool_name") := by
  simp only [ofMembers, lookup?_eq_some_iff_isLast.2 h]
  cases v with
  | string s => exact absurd rfl hv
  | _ => rfl

theorem readable_iff_named {ms : List (String × Json.Value)} (hnd : (ms.map (·.1)).Nodup) :
    (∀ m ∈ ms, Draft.Readable m) ↔ Named ms := by
  constructor
  · intro h v hv
    have hm := (Json.lookup?_eq_some_iff hnd).1 (lookup?_eq_some_iff_isLast.2 hv)
    obtain ⟨s, rfl⟩ : ∃ s, v = .string s := h _ hm rfl
    rfl
  · rintro h ⟨name, v⟩ hm rfl
    have hv := h v (lookup?_eq_some_iff_isLast.1 ((Json.lookup?_eq_some_iff hnd).2 hm))
    cases v with
    | string s => exact ⟨s, rfl⟩
    | _ => cases hv

/-- Field by field an object is read as it is by its names. -/
theorem ofFields_eq_ok_iff {ms : List (String × Json.Value)} (hnd : (ms.map (·.1)).Nodup) {p : Payload} :
    ofFields ms = .ok p ↔ Named ms ∧ ofStrings ms = p := by
  rw [← readable_iff_named hnd]
  have hall (h : ∀ m ∈ ms, Draft.Readable m) : ofFields ms = .ok (ofStrings ms) := by
    have hrun : ms.foldlM Draft.add {} = .ok (Draft.seen ms) := Draft.foldlM_add_seen [] ms hnd h
    rw [ofFields, hrun, ← toPayload_seen]
    rfl
  constructor
  · intro h
    cases hrun : ms.foldlM Draft.add {} with
    | error e => rw [ofFields, hrun] at h; cases h
    | ok d =>
      have hreadable := Draft.readable_of_foldlM_add hrun
      exact ⟨hreadable, Except.ok.inj ((hall hreadable).symm.trans h)⟩
  · rintro ⟨h, rfl⟩
    exact hall h

theorem ofFields_of_named {ms ns : List (String × Json.Value)} (h : Named ms) (hp : ns.Perm (lastMembers ms)) :
    ofFields ns = .ok (ofStrings ms) := by
  have hlookup := Json.lookup?_of_perm_lastMembers hp
  exact (ofFields_eq_ok_iff (Json.nodup_of_perm_lastMembers hp)).2
    ⟨(named_congr hlookup).2 h, ofStrings_congr hlookup⟩

/-- By its names or field by field, an object is read alike. -/
theorem ofMembers_eq_ofFields {ms ns : List (String × Json.Value)} (hp : ns.Perm (lastMembers ms)) :
    ofMembers ms = (ofFields ns).mapError fun _ => .invalidField "tool_name" := by
  by_cases h : Named ms
  · rw [ofMembers_of_named h, ofFields_of_named h hp]
    rfl
  · obtain ⟨v, hlast, hkind⟩ := exists_of_not_named h
    rw [ofMembers_of_not_named hlast hkind]
    cases hf : ofFields ns with
    | error f => rfl
    | ok p =>
      have hns := ((ofFields_eq_ok_iff (Json.nodup_of_perm_lastMembers hp)).1 hf).1
      exact absurd ((named_congr (Json.lookup?_of_perm_lastMembers hp)).1 hns) h

/-! ### Texts -/

def HasInput (ms : List (String × Json.Value)) (name s : String) : Prop :=
  ∃ is, IsLast ms "tool_input" (.object is) ∧ IsLast is name (.string s)

theorem stringMember?_inputMembers {ms : List (String × Json.Value)} {name s : String} :
    stringMember? (inputMembers ms) name = some s ↔ HasInput ms name s := by
  rw [stringMember?_eq_some_iff]
  unfold inputMembers HasInput
  constructor
  · intro h
    cases hinput : lookup? ms "tool_input" with
    | none => rw [hinput] at h; simp [IsLast] at h
    | some v =>
      rw [hinput] at h
      cases v with
      | object is => exact ⟨is, lookup?_eq_some_iff_isLast.1 hinput, h⟩
      | _ => simp [IsLast] at h
  · rintro ⟨is, hinput, h⟩
    rw [lookup?_eq_some_iff_isLast.2 hinput]
    exact h

/-- What the members of an object say about its payload. -/
structure Describes (ms : List (String × Json.Value)) (p : Payload) : Prop where
  toolName : IsLast ms "tool_name" (.string p.toolName) ∨ "tool_name" ∉ ms.map (·.1) ∧ p.toolName = ""
  sessionId : ∀ s, p.sessionId = some s ↔ IsLast ms "session_id" (.string s)
  hookEventName : ∀ s, p.hookEventName = some s ↔ IsLast ms "hook_event_name" (.string s)
  cwd : ∀ s, p.cwd = some s ↔ IsLast ms "cwd" (.string s)
  filePath : ∀ s, p.toolInput.filePath = some s ↔ HasInput ms "file_path" s
  content : ∀ s, p.toolInput.content = some s ↔ HasInput ms "content" s
  newString : ∀ s, p.toolInput.newString = some s ↔ HasInput ms "new_string" s
  command : ∀ s, p.toolInput.command = some s ↔ HasInput ms "command" s

theorem describes_ofStrings {ms : List (String × Json.Value)} (h : Named ms) : Describes ms (ofStrings ms) where
  toolName := by
    rw [← stringMember?_eq_some_iff, ← lookup?_eq_none_iff, ofStrings, stringMember?]
    cases hname : lookup? ms "tool_name" with
    | none => exact .inr ⟨rfl, rfl⟩
    | some v =>
      have hv := h v (lookup?_eq_some_iff_isLast.1 hname)
      cases v with
      | string s => exact .inl rfl
      | _ => cases hv
  sessionId _ := stringMember?_eq_some_iff
  hookEventName _ := stringMember?_eq_some_iff
  cwd _ := stringMember?_eq_some_iff
  filePath _ := stringMember?_inputMembers
  content _ := stringMember?_inputMembers
  newString _ := stringMember?_inputMembers
  command _ := stringMember?_inputMembers

theorem Describes.unique {ms : List (String × Json.Value)} {p q : Payload} (hp : Describes ms p)
    (hq : Describes ms q) : p = q := by
  have heq {o o' : Option String} {P : String → Prop} (h : ∀ s, o = some s ↔ P s) (h' : ∀ s, o' = some s ↔ P s) :
      o = o' := Option.ext fun s => (h s).trans (h' s).symm
  have hname : p.toolName = q.toolName := by
    have hlast {p : Payload} (h : Describes ms p) : p.toolName = (stringMember? ms "tool_name").getD "" := by
      rcases h.toolName with hs | ⟨hnone, hs⟩
      · rw [stringMember?_eq_some_iff.2 hs]; rfl
      · rw [hs, stringMember?, lookup?_eq_none_iff.2 hnone]; rfl
    rw [hlast hp, hlast hq]
  have hsession := heq hp.sessionId hq.sessionId
  have hevent := heq hp.hookEventName hq.hookEventName
  have hcwd := heq hp.cwd hq.cwd
  have hpath := heq hp.filePath hq.filePath
  have hcontent := heq hp.content hq.content
  have hnew := heq hp.newString hq.newString
  have hcommand := heq hp.command hq.command
  obtain ⟨name, ⟨path, content, new, command⟩, session, event, cwd⟩ := p
  obtain ⟨name', ⟨path', content', new', command'⟩, session', event', cwd'⟩ := q
  simp only at *
  simp only [hname, hsession, hevent, hcwd, hpath, hcontent, hnew, hcommand]

def Blank (text : String) : Prop := ∀ c ∈ text.toList, Text.isBlank c = true

inductive Decodes (text : String) : Except DecodeError Payload → Prop
  | empty : Blank text → Decodes text (.error .empty)
  | json {f} : ¬ Blank text → Json.Value.read text = .error f → Decodes text (.error (.json f))
  | notAnObject {v} : ¬ Blank text → Json.Value.read text = .ok v → v.kind ≠ .object →
      Decodes text (.error (.notAnObject v.kind))
  | invalidField {ms v} : ¬ Blank text → Json.Value.read text = .ok (.object ms) →
      IsLast ms "tool_name" v → v.kind ≠ .string → Decodes text (.error (.invalidField "tool_name"))
  | ok {ms p} : ¬ Blank text → Json.Value.read text = .ok (.object ms) → Named ms → Describes ms p →
      Decodes text (.ok p)

theorem isBlankText_iff {text : String} : Text.isBlankText text = true ↔ Blank text := List.all_eq_true

theorem decodes_ofText (text : String) : Decodes text (ofText text) := by
  unfold ofText
  by_cases hblank : Text.isBlankText text = true
  · rw [if_pos hblank]
    exact .empty (isBlankText_iff.1 hblank)
  rw [if_neg hblank]
  rw [isBlankText_iff] at hblank
  cases hread : Json.Value.read text with
  | error f => exact .json hblank hread
  | ok v =>
    cases v with
    | object ms =>
      by_cases hname : Named ms
      · simp only [ofMembers_of_named hname]
        exact .ok hblank hread hname (describes_ofStrings hname)
      · obtain ⟨v, hlast, hkind⟩ := exists_of_not_named hname
        simp only [ofMembers_of_not_named hlast hkind]
        exact .invalidField hblank hread hlast hkind
    | _ => exact .notAnObject hblank hread (fun h => by cases h)

theorem ofText_of_decodes {text : String} {r : Except DecodeError Payload} (h : Decodes text r) :
    ofText text = r := by
  unfold ofText
  cases h with
  | empty hblank => rw [if_pos (isBlankText_iff.2 hblank)]
  | json hblank hread => simp only [mt isBlankText_iff.1 hblank, hread]; rfl
  | @notAnObject v hblank hread hkind =>
    simp only [mt isBlankText_iff.1 hblank, hread]
    cases v with
    | object ms => exact absurd rfl hkind
    | _ => rfl
  | invalidField hblank hread hlast hkind =>
    simp only [mt isBlankText_iff.1 hblank, hread]
    exact ofMembers_of_not_named hlast hkind
  | ok hblank hread hname hp =>
    simp only [mt isBlankText_iff.1 hblank, hread]
    rw [hp.unique (describes_ofStrings hname)]
    exact ofMembers_of_named hname

/-- Each text has one of five outcomes, and its members settle what the payload says. An object that is
read a second time, as a map of its last members in whatever order, gives the same payload; no member can
make that fail. What is read nests less than 128 deep. -/
theorem ofText_decodes (text : String) :
    (∀ r, ofText text = r ↔ Decodes text r) ∧
      (∀ ms, Named ms → ∃ p, Describes ms p ∧ ∀ ns, ns.Perm (lastMembers ms) → ofFields ns = .ok p) ∧
      ∀ v, Json.Value.read text = .ok v → Json.Nests (Json.depthLimit - 1) v := by
  refine ⟨fun r => ⟨?_, ofText_of_decodes⟩, fun ms hname => ?_, fun v => Json.nests_read⟩
  · rintro rfl
    exact decodes_ofText text
  · exact ⟨ofStrings ms, describes_ofStrings hname, fun ns hp => ofFields_of_named hname hp⟩

/-- Of a tool's name that is first null and then a string, and of an input that is first a string and then
an object, the later ones count. -/
theorem ofText_decodes_repeated :
    let members : List (String × Json.Value) :=
      [("tool_name", .null), ("tool_input", .string "ls"), ("cwd", .bool true), ("tool_name", .string "Bash"),
        ("tool_input", .object [("command", .null), ("command", .string "sudo ls")])]
    ∃ p, ofText (Json.Value.object members).text = .ok p ∧ p.toolName = "Bash" ∧ p.cwd = none ∧
      p.toolInput.command = some "sudo ls" ∧
      ∀ ns, ns.Perm (lastMembers members) → ofFields ns = .ok p := by
  intro members
  have hinput : Json.Fits 1 (.object [("command", .null), ("command", .string "sudo ls")]) :=
    .object (List.forall_mem_cons.2 ⟨.null, List.forall_mem_singleton.2 (.string _)⟩)
  have hfits : Json.Fits 2 (.object members) := by
    refine .object ?_
    simp only [members, List.forall_mem_cons]
    exact ⟨.null, .string _, .bool _, .string _, hinput, by simp⟩
  have hread : Json.Value.read (Json.Value.object members).text = .ok (.object members) :=
    Json.read_text hfits (by decide)
  have hname : Named members := by
    intro v hv
    rw [← lookup?_eq_some_iff_isLast] at hv
    cases hv
    rfl
  have hblank : ¬ Blank (Json.Value.object members).text := by
    rw [← isBlankText_iff, isBlankText_object]
    decide
  obtain ⟨hdecodes, hsecond, -⟩ := ofText_decodes (Json.Value.object members).text
  obtain ⟨p, hp, hfields⟩ := hsecond members hname
  obtain rfl : p = ofStrings members := hp.unique (describes_ofStrings hname)
  exact ⟨_, (hdecodes _).2 (.ok hblank hread hname hp), rfl, rfl, rfl, hfields⟩

end Payload

end HookGate
