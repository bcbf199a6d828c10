import HookGate.FileTree

/-!
# How a file tree grows

Making directories, opening a file for appending and appending to it take nothing
away: what stands at a location stays there, and a file keeps what it holds at its
front (`Grown`). A path leads to the same place as before (`locate_of_directories`).
-/

namespace HookGate.FileTree

/-- What stands at a location before and after `more` is written to it. Where nothing stood there may be a new
directory, or a new file with nothing else in it; devices stay as they are. -/
inductive Grown : (more : List UInt8) → Option FileEntry → Option FileEntry → Prop
  | file {more : List UInt8} (bytes : List UInt8) : Grown more (some (.file bytes)) (some (.file (bytes ++ more)))
  | newFile {more : List UInt8} : Grown more none (some (.file more))
  | sink {more : List UInt8} : Grown more (some .sink) (some .sink)
  | full {more : List UInt8} : Grown more (some .full) (some .full)
  | directory : Grown [] (some .directory) (some .directory)
  | newDirectory : Grown [] none (some .directory)
  | nothing : Grown [] none none

namespace Grown

theorem refl (e : Option FileEntry) : Grown [] e e := by
  cases e with
  | none => exact .nothing
  | some e =>
    cases e with
    | file bytes =>
      have h : Grown [] (some (.file bytes)) (some (.file (bytes ++ []))) := .file bytes
      rwa [List.append_nil] at h
    | directory => exact .directory
    | sink => exact .sink
    | full => exact .full

theorem trans {a b : List UInt8} {e f g : Option FileEntry} (h : Grown a e f) (h' : Grown b f g) :
    Grown (a ++ b) e g := by
  cases h with
  | file bytes => cases h' with | file => rw [List.append_assoc]; exact .file bytes
  | newFile => cases h' with | file => exact .newFile
  | sink => cases h' with | sink => exact .sink
  | full => cases h' with | full => exact .full
  | directory => cases h' with | directory => exact .directory
  | newDirectory => cases h' with | directory => exact .newDirectory
  | nothing => exact h'

theorem of_ne_directory {more : List UInt8} {e : FileEntry} {f : Option FileEntry} (h : Grown more (some e) f)
    (he : e ≠ .directory) : ∃ e', f = some e' ∧ e' ≠ .directory := by
  cases h with
  | file bytes => exact ⟨_, rfl, nofun⟩
  | sink => exact ⟨_, rfl, nofun⟩
  | full => exact ⟨_, rfl, nofun⟩
  | directory => exact absurd rfl he

theorem of_full {more : List UInt8} {e : Option FileEntry} (h : Grown more e (some .full)) :
    e = some .full := by
  cases h with
  | full => rfl

theorem of_file {more bytes : List UInt8} {f : Option FileEntry} (h : Grown more (some (.file bytes)) f) :
    f = some (.file (bytes ++ more)) := by
  cases h with
  | file => rfl

theorem of_directory {more : List UInt8} {f : Option FileEntry} (h : Grown more (some .directory) f) :
    f = some .directory := by
  cases h with
  | directory => rfl

end Grown

/-- What a file holds; nothing where there is none. -/
def content (t : FileTree) (l : Location) : List UInt8 :=
  match t.get? l with
  | some (.file bytes) => bytes
  | _ => []

theorem Grown.content_eq {t : FileTree} {l : Location} {more bytes : List UInt8} {f : Option FileEntry}
    (h : Grown more (t.get? l) f) (hf : f = some (.file bytes)) : bytes = t.content l ++ more := by
  unfold content
  cases he : t.get? l with
  | none =>
    rw [he] at h
    cases h <;> cases hf
    rfl
  | some e =>
    rw [he] at h
    cases h <;> cases hf
    rfl

def Writable (t : FileTree) (l : Location) : Prop := ∃ e, t.get? l = some e ∧ e ≠ .directory

theorem Writable.of_grown {t u : FileTree} {l : Location} {more : List UInt8} (h : t.Writable l)
    (hgrown : Grown more (t.get? l) (u.get? l)) : u.Writable l := by
  obtain ⟨e, he, hne⟩ := h
  rw [he] at hgrown
  exact hgrown.of_ne_directory hne

/-- Nothing was written, though there may be new directories and new empty files. -/
def Keeps (t u : FileTree) : Prop := ∀ l, Grown [] (t.get? l) (u.get? l)

theorem Keeps.refl (t : FileTree) : t.Keeps t := fun _ => .refl _

theorem Keeps.trans {t u v : FileTree} (h : t.Keeps u) (h' : u.Keeps v) : t.Keeps v :=
  fun l => (h l).trans (h' l)

theorem keeps_set {t : FileTree} {l : Location} {e : FileEntry} (hl : t.get? l = none)
    (he : Grown [] none (some e)) : t.Keeps (t.set l e) := by
  intro m
  by_cases hm : m = l
  · have hne : l ≠ [] := by rintro rfl; simp [get?] at hl
    rw [hm, get?_set_self hne, hl]
    exact he
  · rw [get?_set_of_ne hm]
    exact .refl _

theorem keeps_makeDirectories (t : FileTree) (l : Location) (steps : List String) :
    t.Keeps (t.makeDirectories l steps) := by
  induction steps generalizing t l with
  | nil => exact .refl t
  | cons step rest ih =>
    unfold makeDirectories
    split
    · exact ih t l.dropLast
    · split
      · exact ih t (l ++ [step])
      · exact .refl t
      · rename_i hnone
        split
        · exact (keeps_set hnone .newDirectory).trans (ih _ _)
        · exact .refl t

theorem answers_makeDirectories (t : FileTree) (l : Location) (steps : List String) :
    (t.makeDirectories l steps).answers = t.answers := by
  induction steps generalizing t l with
  | nil => rfl
  | cons step rest ih =>
    unfold makeDirectories
    split
    · exact ih t l.dropLast
    · split
      · exact ih t (l ++ [step])
      · rfl
      · split
        · exact ih (t.set (l ++ [step]) .directory) _
        · rfl

/-! ## Paths -/

section
variable {t u : FileTree} (h : ∀ l, t.get? l = some .directory → u.get? l = some .directory)
include h

theorem walk_of_directories {l m : Location} {steps : List String} (hw : t.walk l steps = some m) :
    u.walk l steps = some m := by
  induction steps generalizing l with
  | nil => exact hw
  | cons step rest ih =>
    unfold walk at hw ⊢
    split at hw
    · rename_i hup
      rw [if_pos hup]
      exact ih hw
    · rename_i hup
      split at hw
      · rename_i hdir
        rw [if_neg hup, if_pos (h _ hdir)]
        exact ih hw
      · cases hw

/-- A path leads to the same place as long as its directories stand. -/
theorem locate_of_directories {directory l : Location} {path : String} (hl : t.locate directory path = some l) :
    u.locate directory path = some l := by
  simp only [locate, Option.bind_eq_bind, Option.bind_eq_some_iff] at hl ⊢
  obtain ⟨name, hname, parent, hparent, hlimit⟩ := hl
  exact ⟨name, hname, parent, walk_of_directories h hparent, hlimit⟩

end

/-! ## Opening -/

/-- Opening makes the directories on the way. Then it finds what the path names, unless that is a directory,
or makes a new file, or fails. -/
theorem openAppend_cases (t : FileTree) (directory : Location) (path : String) :
    ∃ u, (t.Keeps u ∧ u.answers = t.answers) ∧
      (t.openAppend directory path = (none, u) ∨
        ∃ l, u.locate directory path = some l ∧
          ((∃ e, u.get? l = some e ∧ e ≠ .directory ∧ t.openAppend directory path = (some l, u)) ∨
            u.get? l = none ∧ t.openAppend directory path = (some l, u.set l (.file [])))) := by
  unfold openAppend
  dsimp only
  -- whether directories are made does not matter below, only what the tree keeps
  generalize ((Path.parentSteps path).all _ && _) = isPath
  have hkeeps :
      t.Keeps (if isPath then t.makeDirectories (origin directory path) (Path.parentSteps path) else t) ∧
        (if isPath then t.makeDirectories (origin directory path) (Path.parentSteps path) else t).answers =
          t.answers := by
    split
    · exact ⟨keeps_makeDirectories t _ _, answers_makeDirectories t _ _⟩
    · exact ⟨.refl t, rfl⟩
  generalize (if isPath then t.makeDirectories (origin directory path) (Path.parentSteps path) else t) = u
    at hkeeps ⊢
  refine ⟨u, hkeeps, ?_⟩
  cases hl : u.locate directory path with
  | none => exact .inl rfl
  | some l =>
    dsimp only
    cases he : u.get? l with
    | none =>
      by_cases hname : (Path.fileName? path).any isName = true
      · exact .inr ⟨l, rfl, .inr ⟨he, if_pos hname⟩⟩
      · exact .inl (if_neg hname)
    | some e =>
      cases e with
      | directory => exact .inl rfl
      | file bytes => exact .inr ⟨l, rfl, .inl ⟨_, he, nofun, rfl⟩⟩
      | sink => exact .inr ⟨l, rfl, .inl ⟨_, he, nofun, rfl⟩⟩
      | full => exact .inr ⟨l, rfl, .inl ⟨_, he, nofun, rfl⟩⟩

/-- Nothing is written, and what was opened stands where the path leads to and is no directory. -/
theorem openAppend_spec {t u : FileTree} {directory : Location} {path : String} {target : Option Location}
    (h : t.openAppend directory path = (target, u)) :
    (t.Keeps u ∧ u.answers = t.answers) ∧ ∀ l, target = some l →
      u.locate directory path = some l ∧ u.Writable l := by
  obtain ⟨v, hv, hopen | ⟨l, hl, ⟨e, he, hne, hopen⟩ | ⟨hnone, hopen⟩⟩⟩ := t.openAppend_cases directory path
  · cases h.symm.trans hopen
    refine ⟨hv, fun m hm => ?_⟩
    cases hm
  · cases h.symm.trans hopen
    refine ⟨hv, fun m hm => ?_⟩
    cases hm
    exact ⟨hl, e, he, hne⟩
  · cases h.symm.trans hopen
    have hset : v.Keeps (v.set l (.file [])) := keeps_set hnone .newFile
    refine ⟨⟨hv.1.trans hset, hv.2⟩, fun m hm => ?_⟩
    cases hm
    have hroot : l ≠ [] := by
      rintro rfl
      simp [get?] at hnone
    refine ⟨locate_of_directories (fun k hk => ?_) hl, .file [], get?_set_self hroot, by simp⟩
    have hkept := hset k
    rw [hk] at hkept
    exact hkept.of_directory

/-! ## Appending -/

section
variable (idle : WriteError) (answers : List Answer) (bytes : List UInt8)

theorem taken_append_rest_transfer :
    (transfer idle answers bytes).taken ++ (transfer idle answers bytes).rest = bytes := by
  fun_induction transfer idle answers bytes with
  | case5 count answers bytes hne hcount more ih =>
    change bytes.take count ++ more.taken ++ more.rest = bytes
    rw [List.append_assoc, ih, List.take_append_drop]
  | _ => simp

theorem error?_transfer_eq_none_iff :
    (transfer idle answers bytes).error? = none ↔ (transfer idle answers bytes).rest = [] := by
  fun_induction transfer idle answers bytes with
  | case5 count answers bytes hne hcount more ih => exact ih
  | _ => simp_all

theorem answers_transfer : (transfer idle answers bytes).answers <:+ answers := by
  fun_induction transfer idle answers bytes with
  | case5 count answers bytes hne hcount more ih => exact ih.trans (List.suffix_cons ..)
  | _ => simp

theorem exists_refuses_of_transfer (h : (transfer idle answers bytes).error? ≠ none) :
    ∃ a ∈ answers, a.refuses = true := by
  fun_induction transfer idle answers bytes with
  | case1 | case2 => exact absurd rfl h
  | case3 answers e bytes => exact ⟨_, List.mem_cons_self .., rfl⟩
  | case4 answers bytes count => exact ⟨_, List.mem_cons_self .., by simp_all [Answer.refuses]⟩
  | case5 count answers bytes hne hcount more ih =>
    obtain ⟨a, ha, hrefuses⟩ := ih h
    exact ⟨a, List.mem_cons_of_mem _ ha, hrefuses⟩

end

section
variable (t : FileTree) (idle : WriteError) (l : Location) (bytes : List UInt8)

theorem get?_append_of_ne {m : Location} (hm : m ≠ l) : (t.append idle l bytes).files.get? m = t.get? m := by
  unfold append
  split
  · rfl
  · split
    · exact get?_set_of_ne hm
    all_goals rfl

theorem error?_append_eq_none_iff : (t.append idle l bytes).error? = none ↔ (t.append idle l bytes).rest = [] := by
  unfold append
  split
  · simp
  · split
    · exact error?_transfer_eq_none_iff ..
    all_goals simp_all

theorem answers_append : (t.append idle l bytes).files.answers <:+ t.answers := by
  unfold append
  split
  · exact List.suffix_rfl
  · split
    · exact answers_transfer ..
    all_goals exact List.suffix_rfl

variable {t l} (h : t.Writable l)
include h

/-- What was taken stands at the end of the file, in front of what is left. -/
theorem grown_append : ∃ taken, taken ++ (t.append idle l bytes).rest = bytes ∧
    Grown taken (t.get? l) ((t.append idle l bytes).files.get? l) := by
  obtain ⟨e, he, hne⟩ := h
  unfold append
  split
  · rename_i hnil
    exact ⟨[], hnil.symm, .refl _⟩
  -- only a file can take part of the bytes; devices take all of them or none
  · cases e with
    | file before =>
      have hroot : l ≠ [] := by
        rintro rfl
        simp [get?] at he
      simp only [he]
      refine ⟨_, taken_append_rest_transfer idle t.answers bytes, ?_⟩
      change Grown _ _ ((t.set l (.file (before ++ (transfer idle t.answers bytes).taken))).get? l)
      rw [get?_set_self hroot]
      exact .file before
    | directory => exact absurd rfl hne
    | sink =>
      simp only [he]
      exact ⟨bytes, List.append_nil _, .sink⟩
    | full =>
      simp only [he]
      exact ⟨[], rfl, .full⟩

theorem append_error (herror : (t.append idle l bytes).error? ≠ none) :
    t.get? l = some .full ∨ ∃ a ∈ t.answers, a.refuses = true := by
  obtain ⟨e, he, hne⟩ := h
  unfold append at herror
  split at herror
  · exact absurd rfl herror
  · cases e with
    | file before =>
      simp only [he] at herror
      exact .inr (exists_refuses_of_transfer _ _ _ herror)
    | directory => exact absurd rfl hne
    | sink =>
      simp only [he] at herror
      exact absurd rfl herror
    | full => exact .inl he

end

end HookGate.FileTree
