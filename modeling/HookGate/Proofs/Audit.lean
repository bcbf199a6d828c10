import HookGate.Audit
import HookGate.Proofs.FileTree
import HookGate.Proofs.Json.Writing
import HookGate.Proofs.Text.Utf8
import HookGate.Text.Property

/-!
# The audit log

An entry is written as one line, from which a reader gets the entry back. The system
may refuse to take all of it, and then a beginning is left. Whatever it takes, a file
ends as it began, followed by what each call left there (`run_appends`).
-/

namespace HookGate.Audit

open Text (Utf8.encode)

/-! ## What a line says -/

namespace Entry

/-- The members are those of an entry's line; what the entry leaves open has none. -/
structure Says (e : Entry) (members : List (String × Json.Value)) : Prop where
  outcome : Json.lookup? members "outcome" = some (.string e.outcome.name)
  tool : Json.lookup? members "tool" = some (.string e.tool)
  ruleId : Json.lookup? members "rule_id" = e.ruleId.map .string
  inputSummary : Json.lookup? members "input_summary" = some (.string e.inputSummary)
  reason : Json.lookup? members "reason" = e.reason.map .string
  sessionId : Json.lookup? members "session_id" = e.sessionId.map .string

theorem lookup?_optional (k name : String) (v : Option String) :
    Json.lookup? (optional k v) name = if k = name then v.map .string else none := by
  cases v with
  | none => simp [optional]
  | some s => simp [optional, Json.lookup?_cons]

theorem says_members (e : Entry) : e.Says e.members := by
  constructor <;> simp [members, Json.lookup?_append, Json.lookup?_cons, lookup?_optional]

theorem allStrings_optional (name : String) (v : Option String) : Json.AllStrings (optional name v) := by
  intro m hm
  obtain ⟨s, -, rfl⟩ := List.mem_map.1 hm
  exact ⟨s, rfl⟩

theorem allStrings_members (e : Entry) : Json.AllStrings e.members := by
  have happend : ∀ {ms ns}, Json.AllStrings ms → Json.AllStrings ns → Json.AllStrings (ms ++ ns) :=
    fun hm hn => List.forall_mem_append.2 ⟨hm, hn⟩
  refine happend (happend (happend (happend ?_ (allStrings_optional _ _)) ?_) (allStrings_optional _ _))
    (allStrings_optional _ _)
  · simp [Json.AllStrings]
  · simp [Json.AllStrings]

theorem printable_text (e : Entry) : Json.Printable e.text.toList :=
  Json.printable_text e.allStrings_members

theorem read_text (e : Entry) : Json.Value.read e.text = .ok (.object e.members) :=
  Json.read_text (Json.fits_of_allStrings e.allStrings_members) (by decide)

end Entry

/-! ## Lines of a file -/

def lineFeed : UInt8 := 10

/-- The lines of a file, without their ends; the last one may lack its end. -/
def lines : List UInt8 → List (List UInt8)
  | [] => []
  | b :: rest =>
    if b = lineFeed then [] :: lines rest
    else
      match lines rest with
      | [] => [[b]]
      | l :: ls => (b :: l) :: ls

/-- Nothing, or a text whose last line has its end. -/
def Ended (bytes : List UInt8) : Prop := ∀ b, bytes.getLast? = some b → b = lineFeed

theorem lines_ne_nil {bytes : List UInt8} (h : bytes ≠ []) : lines bytes ≠ [] := by
  cases bytes with
  | nil => exact absurd rfl h
  | cons b rest =>
    unfold lines
    split
    · exact List.cons_ne_nil _ _
    · split <;> exact List.cons_ne_nil _ _

theorem lines_line {l : List UInt8} (h : lineFeed ∉ l) (rest : List UInt8) :
    lines (l ++ lineFeed :: rest) = l :: lines rest := by
  induction l with
  | nil => simp [lines]
  | cons b l ih =>
    rw [List.mem_cons, not_or] at h
    have hb : b ≠ lineFeed := Ne.symm h.1
    simp [lines, hb, ih h.2]

theorem lines_append {a : List UInt8} (h : Ended a) (b : List UInt8) : lines (a ++ b) = lines a ++ lines b := by
  induction a with
  | nil => rfl
  | cons c a ih =>
    cases a with
    | nil =>
      have hc : c = lineFeed := h c rfl
      simp [lines, hc]
    | cons d a =>
      have hrest : Ended (d :: a) := fun x hx => h x (by rw [List.getLast?_cons_cons, hx])
      have ih := ih hrest
      have hne : lines (d :: a) ≠ [] := lines_ne_nil (List.cons_ne_nil d a)
      rw [List.cons_append, lines, lines, ih]
      split
      · rfl
      · cases hl : lines (d :: a) with
        | nil => exact absurd hl hne
        | cons l ls => rfl

theorem lineEnd_eq : lineEnd = [lineFeed] := by
  decide

theorem line_eq (e : Entry) : Logger.line e = Utf8.encode e.text.toList ++ [lineFeed] := by
  rw [← lineEnd_eq]
  rfl

theorem not_mem_encode_text (e : Entry) : lineFeed ∉ Utf8.encode e.text.toList := by
  intro h
  obtain ⟨c, hc, hb⟩ := List.mem_flatMap.1 h
  have := Text.Utf8.le_of_mem_utf8EncodeChar hb (e.printable_text c hc) (by decide)
  revert this; decide

/-- Entries that are appended to a file whose last line has its end are its new lines. -/
theorem lines_log {bytes : List UInt8} (h : Ended bytes) (entries : List Entry) :
    lines (bytes ++ entries.flatMap Logger.line) =
      lines bytes ++ entries.map fun e => Utf8.encode e.text.toList := by
  rw [lines_append h]
  congr 1
  induction entries with
  | nil => rfl
  | cons e entries ih =>
    rw [List.flatMap_cons, line_eq, List.append_assoc, List.singleton_append, lines_line (not_mem_encode_text e),
      ih, List.map_cons]

/-!
## Requests to the buffer

A request takes a beginning of what it is given, which follows what the writer held. What
is handed over comes from the front of both (`Took`).
-/

structure Took (bytes : List UInt8) (w : Writer) (files : FileTree) (a : Attempt Writer) : Prop where
  target : a.state.target = w.target
  others : ∀ m, m ≠ w.target → a.files.get? m = files.get? m
  answers : a.files.answers <:+ files.answers
  moved : ∃ part taken, part <+: bytes ∧ (a.error? = none → part = bytes) ∧
    taken ++ a.state.pending = w.pending ++ part ∧
      FileTree.Grown taken (files.get? w.target) (a.files.get? w.target)
  refused : a.error? ≠ none → files.get? w.target = some .full ∨ ∃ x ∈ files.answers, x.refuses = true

theorem Took.writable {bytes : List UInt8} {w : Writer} {files : FileTree} {a : Attempt Writer}
    (h : Took bytes w files a) (hw : files.Writable w.target) : a.files.Writable a.state.target := by
  obtain ⟨part, taken, -, -, -, hgrown⟩ := h.moved
  rw [h.target]
  exact hw.of_grown hgrown

/-- Whatever became of a request, no file lost anything. -/
theorem Took.grown {bytes : List UInt8} {w : Writer} {files : FileTree} {a : Attempt Writer}
    (h : Took bytes w files a) (l : Location) : ∃ more, FileTree.Grown more (files.get? l) (a.files.get? l) := by
  by_cases hl : l = w.target
  · subst hl
    obtain ⟨-, taken, -, -, -, hgrown⟩ := h.moved
    exact ⟨taken, hgrown⟩
  · rw [h.others l hl]
    exact ⟨[], .refl _⟩

theorem Took.andThen {bytes more : List UInt8} {w : Writer} {files : FileTree} {a : Attempt Writer}
    {next : Writer → FileTree → Attempt Writer} (h : Took bytes w files a)
    (hnext : a.error? = none → Took more a.state a.files (next a.state a.files)) :
    Took (bytes ++ more) w files (a.andThen next) := by
  obtain ⟨part, taken, hpart, hwhole, hmoved, hgrown⟩ := h.moved
  unfold Attempt.andThen
  -- a request that failed ends the call, and what it took so far is what the call took
  cases he : a.error? with
  | some e =>
    have hfailed : a.error? ≠ none := by simp [he]
    exact
      { target := h.target
        others := h.others
        answers := h.answers
        moved := ⟨part, taken, hpart.trans (List.prefix_append ..), fun hnone => absurd hnone hfailed, hmoved, hgrown⟩
        refused := h.refused }
  | none =>
    obtain rfl := hwhole he
    have h' := hnext he
    obtain ⟨part', taken', hpart', hwhole', hmoved', hgrown'⟩ := h'.moved
    rw [h.target] at hgrown'
    refine
      { target := h'.target.trans h.target
        others := fun m hm => (h'.others m (by rwa [h.target])).trans (h.others m hm)
        answers := h'.answers.trans h.answers
        moved := ⟨part ++ part', taken ++ taken', ?_, fun hnone => by rw [hwhole' hnone], ?_, hgrown.trans hgrown'⟩
        refused := fun herror => ?_ }
    · exact (List.prefix_append_right_inj part).2 hpart'
    · rw [List.append_assoc, hmoved', ← List.append_assoc, hmoved, List.append_assoc]
    · rcases h'.refused herror with hfull | ⟨x, hx, hrefuses⟩
      · rw [h.target] at hfull
        rw [hfull] at hgrown
        exact .inl hgrown.of_full
      · exact .inr ⟨x, h.answers.subset hx, hrefuses⟩

namespace Writer

section
variable {w : Writer} {files : FileTree} (hw : files.Writable w.target)

theorem pending_flush (h : (w.flush files).error? = none) : (w.flush files).state.pending = [] :=
  (FileTree.error?_append_eq_none_iff ..).1 h

theorem took_gather (bytes : List UInt8) : Took bytes w files (w.gather bytes files) where
  target := rfl
  others := fun _ _ => rfl
  answers := List.suffix_rfl
  moved := ⟨bytes, [], List.prefix_rfl, fun _ => rfl, rfl, .refl _⟩
  refused := fun h => absurd rfl h

include hw

theorem took_flush : Took [] w files (w.flush files) where
  target := rfl
  others := fun _ hm => FileTree.get?_append_of_ne _ _ _ _ hm
  answers := FileTree.answers_append ..
  moved := by
    obtain ⟨taken, hrest, hgrown⟩ := FileTree.grown_append .stalledBuffer w.pending hw
    exact ⟨[], taken, List.prefix_rfl, fun _ => rfl, by rwa [List.append_nil], hgrown⟩
  refused := FileTree.append_error _ _ hw

theorem took_direct (bytes : List UInt8) (hempty : w.pending = []) : Took bytes w files (w.direct bytes files) where
  target := rfl
  others := fun _ hm => FileTree.get?_append_of_ne _ _ _ _ hm
  answers := FileTree.answers_append ..
  moved := by
    obtain ⟨taken, hrest, hgrown⟩ := FileTree.grown_append .stalled bytes hw
    refine ⟨taken, taken, ⟨_, hrest⟩, fun hnone => ?_, ?_, hgrown⟩
    · rw [(FileTree.error?_append_eq_none_iff ..).1 hnone, List.append_nil] at hrest
      exact hrest
    · change taken ++ w.pending = w.pending ++ taken
      rw [hempty, List.append_nil, List.nil_append]
  refused := FileTree.append_error _ _ hw

theorem took_put (bytes : List UInt8) : Took bytes w files (w.put bytes files) := by
  have hrest : ∀ {w : Writer} {files : FileTree}, files.Writable w.target →
      (capacity ≤ bytes.length → w.pending = []) →
        Took bytes w files (if capacity ≤ bytes.length then w.direct bytes files else w.gather bytes files) := by
    intro w files hw hempty
    split
    · rename_i hlong
      exact took_direct hw bytes (hempty hlong)
    · exact took_gather bytes
  -- bytes go past the buffer only when it is empty, so what was held stays in front of them
  unfold put
  dsimp only
  by_cases hroom : bytes.length < capacity - w.pending.length
  · rw [if_pos hroom]
    exact took_gather bytes
  · rw [if_neg hroom]
    by_cases hfull : capacity - w.pending.length < bytes.length
    · rw [if_pos hfull]
      have hflush := took_flush hw
      exact hflush.andThen fun hok => hrest (hflush.writable hw) fun _ => pending_flush hok
    · rw [if_neg hfull]
      refine hrest hw fun hlong => List.eq_nil_of_length_eq_zero ?_
      unfold capacity at *
      omega

theorem took_log (e : Entry) : Took (Logger.line e) w files (w.log e files) := by
  have htext := took_put hw e.bytes
  have hend : Took (e.bytes ++ lineEnd) w files ((w.put e.bytes files).andThen (put lineEnd)) :=
    htext.andThen fun _ => took_put (htext.writable hw) lineEnd
  have hall : Took (e.bytes ++ lineEnd ++ []) w files (w.log e files) :=
    hend.andThen fun _ => took_flush (hend.writable hw)
  rwa [List.append_nil] at hall

omit hw in
theorem pending_log {e : Entry} (h : (w.log e files).error? = none) : (w.log e files).state.pending = [] := by
  unfold log at h ⊢
  generalize (w.put e.bytes files).andThen (put lineEnd) = a at h ⊢
  unfold Attempt.andThen at h ⊢
  cases he : a.error? with
  | none =>
    rw [he] at h
    exact pending_flush h
  | some error => simp [he] at h

end

end Writer

/-! ## What calls leave in a file -/

structure Call where
  entry : Entry
  error? : Option FileTree.WriteError
  deriving DecidableEq, Repr

/-- What a call leaves in its file: a beginning of its line, and the whole line unless there is an error. -/
def Call.Left (c : Call) (part : List UInt8) : Prop :=
  part <+: Logger.line c.entry ∧ (c.error? = none → part = Logger.line c.entry)

/-- A file before and after some calls. The last of them may have failed since something was last written out;
`held` are the bytes that are still in the buffer, at the end of what these calls gave. -/
def Accounts (before now : Option FileEntry) (held : List UInt8) (calls : List Call) : Prop :=
  ∃ settled failed parts queue moved, calls = settled ++ failed ∧ List.Forall₂ Call.Left settled parts ∧
    List.Forall₂ Call.Left failed queue ∧ (∀ c ∈ failed, c.error? ≠ none) ∧ moved ++ held = queue.flatten ∧
      FileTree.Grown (parts.flatten ++ moved) before now

/-- Of calls that failed any beginning may be left. -/
theorem exists_left_of_isPrefix {failed : List Call} {queue : List (List UInt8)}
    (h : List.Forall₂ Call.Left failed queue) (hfailed : ∀ c ∈ failed, c.error? ≠ none) {moved : List UInt8}
    (hmoved : moved <+: queue.flatten) : ∃ parts, List.Forall₂ Call.Left failed parts ∧ parts.flatten = moved := by
  induction h generalizing moved with
  | nil => exact ⟨[], .nil, (List.prefix_nil.1 hmoved).symm⟩
  | @cons c part failed queue hc _ ih =>
    have hrest := @ih fun d hd => hfailed d (List.mem_cons_of_mem _ hd)
    have hleft : ∀ {first}, first <+: part → c.Left first := fun hfirst =>
      ⟨hfirst.trans hc.1, fun hnone => absurd hnone (hfailed c (List.mem_cons_self ..))⟩
    obtain ⟨lost, hlost⟩ := hmoved
    -- the cut is within what this call gave, or after it
    rcases List.append_eq_append_iff.1 hlost with ⟨more, hpart, -⟩ | ⟨more, rfl, hmore⟩
    · obtain ⟨parts, hparts, hnone⟩ := hrest (List.nil_prefix)
      exact ⟨moved :: parts, .cons (hleft ⟨more, hpart.symm⟩) hparts, by rw [List.flatten_cons, hnone, List.append_nil]⟩
    · obtain ⟨parts, hparts, hflat⟩ := hrest ⟨lost, hmore.symm⟩
      exact ⟨part :: parts, .cons (hleft List.prefix_rfl) hparts, by rw [List.flatten_cons, hflat]⟩

namespace Accounts

variable {before now after : Option FileEntry} {held taken rest part : List UInt8} {calls : List Call} {c : Call}

theorem start (e : Option FileEntry) : Accounts e e [] [] :=
  ⟨[], [], [], [], [], rfl, .nil, .nil, by simp, rfl, .refl e⟩

/-- When only some of what is held is written out, each call has left some part. -/
theorem exists_parts (h : Accounts before now (taken ++ rest) calls) (hgrown : FileTree.Grown taken now after) :
    ∃ parts, List.Forall₂ Call.Left calls parts ∧ FileTree.Grown parts.flatten before after := by
  obtain ⟨settled, failed, parts, queue, moved, rfl, hsettled, hfailed, herror, hqueue, hbefore⟩ := h
  have hmoved : moved ++ taken <+: queue.flatten := ⟨rest, by rw [List.append_assoc, hqueue]⟩
  obtain ⟨cut, hcut, hflat⟩ := exists_left_of_isPrefix hfailed herror hmoved
  refine ⟨parts ++ cut, List.rel_append hsettled hcut, ?_⟩
  have hall := hbefore.trans hgrown
  rwa [List.append_assoc, ← hflat, ← List.flatten_append] at hall

/-- What is not written out when the buffer is given up is lost. -/
theorem close (h : Accounts before now (taken ++ rest) calls) (hgrown : FileTree.Grown taken now after) :
    Accounts before after [] calls := by
  obtain ⟨parts, hparts, hafter⟩ := h.exists_parts hgrown
  exact ⟨calls, [], parts, [], [], by rw [List.append_nil], hparts, .nil, by simp, rfl, by rwa [List.append_nil]⟩

theorem call (h : Accounts before now held calls) (hleft : c.Left part) (hmoved : taken ++ rest = held ++ part)
    (hok : c.error? = none → rest = []) (hgrown : FileTree.Grown taken now after) :
    Accounts before after rest (calls ++ [c]) := by
  obtain ⟨settled, failed, parts, queue, moved, rfl, hsettled, hfailed, herror, hqueue, hbefore⟩ := h
  have hlast : List.Forall₂ Call.Left [c] [part] := .cons hleft .nil
  have hqueue' : (moved ++ taken) ++ rest = (queue ++ [part]).flatten := by
    rw [List.append_assoc, hmoved, ← List.append_assoc, hqueue, List.flatten_append, List.flatten_singleton]
  have hafter := hbefore.trans hgrown
  by_cases hc : c.error? = none
  · rw [hok hc, List.append_nil] at hqueue'
    refine ⟨settled ++ failed ++ [c], [], parts ++ (queue ++ [part]), [], [], by rw [List.append_nil], ?_, .nil,
      by simp, hok hc, ?_⟩
    · rw [List.append_assoc]
      exact List.rel_append hsettled (List.rel_append hfailed hlast)
    · rwa [List.append_nil, List.flatten_append, ← hqueue', ← List.append_assoc]
  · refine ⟨settled, failed ++ [c], parts, queue ++ [part], moved ++ taken, List.append_assoc .., hsettled,
      List.rel_append hfailed hlast, ?_, hqueue', by rwa [← List.append_assoc]⟩
    simpa [or_imp, forall_and] using ⟨herror, hc⟩

end Accounts

/-!
## Runs of the audit log

A trail is a logger with the files that it sees. Over any run of openings and log
calls every file ends as it began, followed by what the calls that were made while the
logger was open on it left there (`run_appends`).
-/

open Text.Utf8 (encode decode)

structure Trail where
  logger : Logger := {}
  files : FileTree

inductive Step where
  | openAt (path : Option String)
  | log (timestamp : String) (request : Request) (verdict : Verdict) (sessionId : Option String)
      (disabled : Bool)

namespace Trail

/-- The trail after a step, seen from `directory`. The old logger is given up only after the new one was opened. -/
def next (directory : Location) (s : Trail) : Step → Trail
  | .openAt path =>
    let (logger, files) := Logger.openAt s.files directory path
    ⟨logger, s.logger.close files⟩
  | .log timestamp request verdict sessionId disabled =>
    let a := s.logger.log s.files (.make timestamp request verdict sessionId disabled)
    ⟨a.state, a.files⟩

def run (directory : Location) (s : Trail) (steps : List Step) : Trail := steps.foldl (next directory) s

/-- The call that a step makes on the file at `l`, if it makes one. -/
def calls (s : Trail) (l : Location) : Step → List Call
  | .openAt _ => []
  | .log timestamp request verdict sessionId disabled =>
    let e := Entry.make timestamp request verdict sessionId disabled
    if s.logger.target = some l then [⟨e, (s.logger.log s.files e).error?⟩] else []

/-- The calls that are made while the logger is open at `l`, in order. -/
def logged (directory : Location) (l : Location) (s : Trail) : List Step → List Call
  | [] => []
  | step :: rest => s.calls l step ++ logged directory l (s.next directory step) rest

def held (s : Trail) (l : Location) : List UInt8 :=
  match s.logger.writer with
  | none => []
  | some w => if w.target = l then w.pending else []

/-- What the logger is open on can be written to. -/
def Sound (s : Trail) : Prop := ∀ w, s.logger.writer = some w → s.files.Writable w.target

/-- A logger that is given up writes nothing but what it holds. -/
theorem grown_close {s : Trail} {files : FileTree} (hs : ∀ w, s.logger.writer = some w → files.Writable w.target)
    (l : Location) :
    ∃ taken rest, taken ++ rest = s.held l ∧
      FileTree.Grown taken (files.get? l) ((s.logger.close files).get? l) := by
  unfold held Logger.close
  cases hw : s.logger.writer with
  | none => exact ⟨[], [], rfl, .refl _⟩
  | some w =>
    have hflush := Writer.took_flush (hs w hw)
    dsimp only
    by_cases hl : w.target = l
    · subst hl
      obtain ⟨part, taken, hpart, -, hmoved, hgrown⟩ := hflush.moved
      rw [List.prefix_nil.1 hpart, List.append_nil] at hmoved
      rw [if_pos rfl]
      exact ⟨taken, _, hmoved, hgrown⟩
    · rw [if_neg hl, hflush.others l (Ne.symm hl)]
      exact ⟨[], [], rfl, .refl _⟩

theorem keeps_openAt (files : FileTree) (directory : Location) (path : Option String) :
    files.Keeps (Logger.openAt files directory path).2 := by
  cases path with
  | none => exact .refl _
  | some path => exact (FileTree.openAppend_spec rfl).1.1

section
variable (directory : Location) {s : Trail}

theorem held_openAt (path : Option String) (l : Location) : (s.next directory (.openAt path)).held l = [] := by
  cases path with
  | none => rfl
  | some path =>
    simp only [next, held, Logger.openAt]
    cases (s.files.openAppend directory path).1 with
    | none => rfl
    | some k => simp

variable (hs : s.Sound)
include hs

theorem grown_close_openAt (path : Option String) (l : Location) :
    ∃ taken rest, taken ++ rest = s.held l ∧
      FileTree.Grown taken ((Logger.openAt s.files directory path).2.get? l)
        ((s.next directory (.openAt path)).files.get? l) :=
  grown_close (fun w hw => (hs w hw).of_grown (keeps_openAt s.files directory path w.target)) l

theorem grown_openAt (path : Option String) (l : Location) :
    ∃ taken rest, taken ++ rest = s.held l ∧
      FileTree.Grown taken (s.files.get? l) ((s.next directory (.openAt path)).files.get? l) := by
  obtain ⟨taken, rest, hheld, hgrown⟩ := grown_close_openAt directory hs path l
  exact ⟨taken, rest, hheld, (keeps_openAt s.files directory path l).trans hgrown⟩

theorem target_openAt {path : String} {l : Location}
    (h : (s.next directory (.openAt (some path))).logger.target = some l) :
    (s.next directory (.openAt (some path))).files.locate directory path = some l ∧
      (s.next directory (.openAt (some path))).files.Writable l := by
  have hgrown := grown_close_openAt directory hs (some path)
  simp only [next, Logger.openAt] at h hgrown ⊢
  generalize hopen : s.files.openAppend directory path = opened at h hgrown ⊢
  have htarget : opened.1 = some l := by
    simpa [Logger.target, Option.map_map, Function.comp_def] using h
  obtain ⟨hlocate, hwritable⟩ := (FileTree.openAppend_spec hopen).2 l htarget
  refine ⟨FileTree.locate_of_directories (fun m hm => ?_) hlocate, ?_⟩
  · obtain ⟨taken, -, -, hgrown⟩ := hgrown m
    rw [hm] at hgrown
    exact hgrown.of_directory
  · obtain ⟨taken, -, -, hgrown⟩ := hgrown l
    exact hwritable.of_grown hgrown

end

/-! ### Logging -/

section
variable {s : Trail}

theorem target_of_some {w : Writer} (h : s.logger.writer = some w) : s.logger.target = some w.target := by
  rw [Logger.target, h]
  rfl

theorem log_of_none (h : s.logger.writer = none) (e : Entry) :
    s.logger.log s.files e = { state := s.logger, files := s.files } := by
  simp [Logger.log, h]

theorem log_of_some {w : Writer} (h : s.logger.writer = some w) (e : Entry) :
    s.logger.log s.files e =
      { error? := (w.log e s.files).error?
        state := ⟨some (w.log e s.files).state⟩
        files := (w.log e s.files).files } := by
  simp [Logger.log, h]

variable (hs : s.Sound) (e : Entry)
include hs

theorem log_error (h : (s.logger.log s.files e).error? ≠ none) :
    ∃ l, s.logger.target = some l ∧ (s.files.get? l = some .full ∨ ∃ a ∈ s.files.answers, a.refuses = true) := by
  cases hw : s.logger.writer with
  | none =>
    rw [log_of_none hw] at h
    exact absurd rfl h
  | some w =>
    rw [log_of_some hw] at h
    exact ⟨w.target, target_of_some hw, (Writer.took_log (hs w hw) e).refused h⟩

end

/-! ### Steps and runs -/

theorem held_of_some {s : Trail} {w : Writer} (h : s.logger.writer = some w) (l : Location) :
    s.held l = if w.target = l then w.pending else [] := by
  simp only [held, h]

section
variable (directory : Location) {s : Trail} (hs : s.Sound)
include hs

theorem accounts_log {l : Location} {before : Option FileEntry} {calls : List Call}
    (h : Accounts before (s.files.get? l) (s.held l) calls) (e : Entry) :
    let a := s.logger.log s.files e
    Accounts before (a.files.get? l) (held ⟨a.state, a.files⟩ l)
      (calls ++ if s.logger.target = some l then [⟨e, a.error?⟩] else []) := by
  intro a
  cases hw : s.logger.writer with
  | none =>
    have ha : a = { state := s.logger, files := s.files } := log_of_none hw e
    have htarget : s.logger.target = none := by rw [Logger.target, hw]; rfl
    simpa [ha, htarget] using h
  | some w =>
    have ha := log_of_some hw e
    have htook := Writer.took_log (hs w hw) e
    have hheld : held ⟨a.state, a.files⟩ l = if w.target = l then (w.log e s.files).state.pending else [] := by
      rw [held_of_some (w := (w.log e s.files).state) (by simp only [a, ha]), htook.target]
    rw [hheld, target_of_some hw, show a = _ from ha]
    rw [held_of_some hw] at h
    -- the call is on the file at `l`, or it leaves that file and what is held for it alone
    by_cases hl : w.target = l
    · subst hl
      rw [if_pos rfl] at h ⊢
      rw [if_pos rfl]
      obtain ⟨part, taken, hpart, hwhole, hmoved, hgrown⟩ := htook.moved
      exact h.call ⟨hpart, hwhole⟩ hmoved Writer.pending_log hgrown
    · rw [if_neg hl] at h ⊢
      rw [if_neg fun heq => hl (Option.some_inj.1 heq), List.append_nil]
      change Accounts before ((w.log e s.files).files.get? l) [] calls
      rwa [htook.others l (Ne.symm hl)]

theorem accounts_next {l : Location} {before : Option FileEntry} {calls : List Call}
    (h : Accounts before (s.files.get? l) (s.held l) calls) (step : Step) :
    Accounts before ((s.next directory step).files.get? l) ((s.next directory step).held l)
      (calls ++ s.calls l step) := by
  cases step with
  | openAt path =>
    obtain ⟨taken, rest, hheld, hgrown⟩ := grown_openAt directory hs path l
    rw [← hheld] at h
    rw [held_openAt, Trail.calls, List.append_nil]
    exact h.close hgrown
  | log timestamp request verdict sessionId disabled => exact accounts_log hs h _

theorem sound_next (step : Step) : (s.next directory step).Sound := by
  intro w hw
  cases step with
  | openAt path =>
    cases path with
    | none => cases hw
    | some path => exact (target_openAt directory hs (target_of_some hw)).2
  | log timestamp request verdict sessionId disabled =>
    simp only [next] at hw ⊢
    revert hw
    generalize Entry.make timestamp request verdict sessionId disabled = e
    intro hw
    cases hold : s.logger.writer with
    | none =>
      rw [log_of_none hold, hold] at hw
      cases hw
    | some v =>
      rw [log_of_some hold] at hw ⊢
      cases hw
      exact (Writer.took_log (hs v hold) e).writable (hs v hold)

theorem accounts_run {l : Location} {before : Option FileEntry} {calls : List Call}
    (h : Accounts before (s.files.get? l) (s.held l) calls) (steps : List Step) :
    Accounts before ((s.run directory steps).files.get? l) ((s.run directory steps).held l)
      (calls ++ s.logged directory l steps) := by
  -- the calls so far are an argument, because a failed one may still be completed by a later one
  induction steps generalizing s calls with
  | nil => simpa [run, logged] using h
  | cons step rest ih =>
    rw [logged, ← List.append_assoc]
    exact ih (sound_next directory hs step) (accounts_next directory hs h step)

end

/-- What the calls on a file leave comes after what it holds before, if nothing more is held for it. -/
theorem exists_parts_run (directory : Location) {s : Trail} (hs : s.Sound) {l : Location} (hheld : s.held l = [])
    (steps : List Step) :
    ∃ parts, List.Forall₂ Call.Left (logged directory l s steps) parts ∧
      FileTree.Grown parts.flatten (s.files.get? l) ((s.run directory steps).files.get? l) := by
  have hstart : Accounts (s.files.get? l) (s.files.get? l) (s.held l) [] := by
    rw [hheld]
    exact .start _
  have hrun := accounts_run directory hs hstart steps
  rw [← List.nil_append (held _ l)] at hrun
  exact hrun.exists_parts (.refl _)

/-- A logger that is open on a file and holds nothing leaves a beginning of an entry's line there when it takes
the entry and is given up, and all of it unless the system refuses a request. -/
theorem exists_part_log (directory : Location) {s : Trail} (hs : s.Sound) (hheld : ∀ l, s.held l = [])
    {l : Location} (htarget : s.logger.target = some l) {bytes : List UInt8}
    (hl : s.files.get? l = some (.file bytes)) (timestamp : String) (request : Request) (verdict : Verdict)
    (sessionId : Option String) (disabled : Bool) :
    let e := Entry.make timestamp request verdict sessionId disabled
    let files := (s.run directory [.log timestamp request verdict sessionId disabled, .openAt none]).files
    ∃ part, part <+: Logger.line e ∧ (part = Logger.line e ∨ ∃ a ∈ s.files.answers, a.refuses = true) ∧
      files.get? l = some (.file (bytes ++ part)) ∧
      ∀ m, m ≠ l → FileTree.Grown [] (s.files.get? m) (files.get? m) := by
  intro e files
  have hparts : ∀ m, ∃ parts,
      List.Forall₂ Call.Left (if l = m then [⟨e, (s.logger.log s.files e).error?⟩] else []) parts ∧
        FileTree.Grown parts.flatten (s.files.get? m) (files.get? m) := fun m => by
    have hrun := exists_parts_run directory hs (hheld m)
      [.log timestamp request verdict sessionId disabled, .openAt none]
    simpa only [logged, calls, htarget, Option.some_inj, List.append_nil] using hrun
  have hcause := log_error hs e
  generalize (s.logger.log s.files e).error? = error at hparts hcause
  obtain ⟨parts, hleft, hgrown⟩ := hparts l
  rw [if_pos rfl] at hleft
  cases hleft with
  | @cons _ part _ _ hcall hnone =>
    cases hnone
    rw [List.flatten_singleton, hl] at hgrown
    refine ⟨part, hcall.1, ?refused, hgrown.of_file, fun m hm => ?others⟩
    case refused =>
      by_cases herror : error = none
      · exact .inl (hcall.2 herror)
      · obtain ⟨k, hk, hfull | hrefuses⟩ := hcause herror
        · rw [htarget, Option.some_inj] at hk
          rw [← hk, hl] at hfull
          cases hfull
        · exact .inr hrefuses
    case others =>
      obtain ⟨parts, hleft, hgrown⟩ := hparts m
      rw [if_neg (Ne.symm hm)] at hleft
      cases hleft
      exact hgrown

end Trail

end HookGate.Audit
