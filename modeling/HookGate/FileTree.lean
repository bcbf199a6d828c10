/-!
# File trees

What a run can see of a file system: files, directories and two devices, each at a
location given by the names from the root down, and how the system answers requests
to write. What is appended to a file may be taken in part only (`append`), and the
tree shows that part.
-/

namespace HookGate.Path

/-!
## Paths

A path is text with slashes. `steps` is what it says to do from where it starts:
names to descend to and `..` to go up.
-/

def isAbsolute (path : String) : Bool := path.toList.head? == some '/'

/-- `rest` as seen from `base`; an absolute path is the same from everywhere. -/
def join (base rest : String) : String :=
  if isAbsolute rest then rest
  else if base.isEmpty || base.toList.getLast? == some '/' then base ++ rest
  else base ++ "/" ++ rest

def homeRest? (path : String) : Option String :=
  match path.toList with
  | '~' :: '/' :: rest => some (String.ofList rest)
  | _ => none

/-- The path with a leading tilde resolved, if there is a home to resolve it to. -/
def expandHome (home : Option String) (path : String) : String :=
  match home, homeRest? path with
  | some home, some rest => join home rest
  | _, _ => path

def pieces : List Char → List (List Char)
  | [] => [[]]
  | c :: cs =>
    if c = '/' then [] :: pieces cs
    else
      match pieces cs with
      | [] => [[c]]
      | p :: ps => (c :: p) :: ps

def steps (path : String) : List String :=
  ((pieces path.toList).map String.ofList).filter fun p => p ≠ "" ∧ p ≠ "."

def fileName? (path : String) : Option String :=
  ((pieces path.toList).getLast?.map String.ofList).filter fun p => p ≠ "" ∧ p ≠ "." ∧ p ≠ ".."

def parentSteps (path : String) : List String := (steps path).dropLast

def parent (path : String) : String :=
  "/".intercalate (((pieces path.toList).map String.ofList).dropLast)

end HookGate.Path

/-! ## File trees -/

namespace HookGate

abbrev Location := List String

inductive FileEntry where
  | file (bytes : List UInt8)
  | directory
  /-- Takes all that is written to it and stays empty. -/
  | sink
  /-- Can be opened but has no room. -/
  | full
  deriving DecidableEq, Repr

namespace FileTree

inductive WriteError where
  | noSpace
  | noFile
  /-- Nothing was taken of a block, and no reason given. -/
  | stalled
  /-- Nothing was taken of a buffer, and no reason given. -/
  | stalledBuffer
  | refused (message : String)
  deriving DecidableEq, Repr

def WriteError.message : WriteError → String
  | noSpace => "No space left on device (os error 28)"
  | noFile => "No such file or directory (os error 2)"
  | stalled => "failed to write whole buffer"
  | stalledBuffer => "failed to write the buffered data"
  | refused message => message

/-- What the system answers to a request to write to a file. A request that is interrupted is made
again and has no answer of its own. -/
inductive Answer where
  /-- So many bytes are taken, or all if there are fewer. -/
  | takes (count : Nat)
  | fails (e : WriteError)
  deriving DecidableEq, Repr

/-- Whoever asks is left with bytes that nobody will take. -/
def Answer.refuses : Answer → Bool
  | takes count => count == 0
  | fails _ => true

end FileTree

structure FileTree where
  entries : List (Location × FileEntry) := []
  /-- The answers to the coming requests. When they run out, everything is taken. -/
  answers : List FileTree.Answer := []
  deriving DecidableEq, Repr

namespace FileTree

/-- What stands at a location; at the root there is always a directory. -/
def get? (t : FileTree) (l : Location) : Option FileEntry :=
  if l = [] then some .directory else t.entries.lookup l

def set (t : FileTree) (l : Location) (e : FileEntry) : FileTree :=
  { t with entries := (l, e) :: t.entries.filter (·.1 != l) }

@[simp] theorem get?_set_self {t : FileTree} {l : Location} {e : FileEntry} (h : l ≠ []) :
    (t.set l e).get? l = some e := by
  simp [get?, set, h]

theorem lookup_filter_ne {entries : List (Location × FileEntry)} {l m : Location} (h : m ≠ l) :
    (entries.filter (·.1 != l)).lookup m = entries.lookup m := by
  have hb : (m == l) = false := by simpa using h
  induction entries with
  | nil => rfl
  | cons p rest ih =>
    obtain ⟨k, e⟩ := p
    by_cases hk : k = l
    · subst hk; simpa [List.lookup_cons, hb] using ih
    · rw [List.filter_cons_of_pos (by simpa using hk), List.lookup_cons, List.lookup_cons, ih]

@[simp] theorem get?_set_of_ne {t : FileTree} {l m : Location} {e : FileEntry} (h : m ≠ l) :
    (t.set l e).get? m = t.get? m := by
  have hb : (m == l) = false := by simpa using h
  simp only [get?, set, List.lookup_cons, hb]
  split
  · rfl
  · exact lookup_filter_ne h

def nameLimit : Nat := 255

def isName (name : String) : Bool := name.utf8ByteSize ≤ nameLimit && !name.toList.contains '\x00'

def pathLimit : Nat := 4096

def origin (directory : Location) (path : String) : Location :=
  if Path.isAbsolute path then [] else directory

def walk (t : FileTree) (at_ : Location) : List String → Option Location
  | [] => some at_
  | step :: rest =>
    if step = ".." then t.walk at_.dropLast rest
    else if t.get? (at_ ++ [step]) = some .directory then t.walk (at_ ++ [step]) rest
    else none

/-- Makes the directories that steps lead through, as far as that is possible. -/
def makeDirectories (t : FileTree) (at_ : Location) : List String → FileTree
  | [] => t
  | step :: rest =>
    if step = ".." then t.makeDirectories at_.dropLast rest
    else
      match t.get? (at_ ++ [step]) with
      | some .directory => t.makeDirectories (at_ ++ [step]) rest
      | some _ => t
      | none =>
        if isName step then
          (t.set (at_ ++ [step]) .directory).makeDirectories (at_ ++ [step]) rest
        else t

/-- The location that a path names in its directory, whether or not something is there. -/
def locate (t : FileTree) (directory : Location) (path : String) : Option Location := do
  let name ← Path.fileName? path
  let parent ← t.walk (origin directory path) (Path.parentSteps path)
  if path.utf8ByteSize < pathLimit then some (parent ++ [name]) else none

def read (t : FileTree) (directory : Location) (path : String) : Option (List UInt8) := do
  match ← t.get? (← t.locate directory path) with
  | .file bytes => some bytes
  | .sink => some []
  | .directory => none
  | .full => none

/-- Opens a file for appending: its location, unless it cannot be opened, and the tree with the
directories on the way and with the file, if they were missing. -/
def openAppend (t : FileTree) (directory : Location) (path : String) : Option Location × FileTree :=
  let steps := Path.parentSteps path
  let isPath := steps.all (!·.toList.contains '\x00') && (Path.parent path).utf8ByteSize < pathLimit
  let t := if isPath then t.makeDirectories (origin directory path) steps else t
  match t.locate directory path with
  | none => (none, t)
  | some l =>
    match t.get? l with
    | some .directory => (none, t)
    | some _ => (some l, t)
    | none =>
      if (Path.fileName? path).any isName then (some l, t.set l (.file [])) else (none, t)

/-! ### Appending -/

structure Transfer where
  taken : List UInt8
  rest : List UInt8 := []
  error? : Option WriteError := none
  answers : List Answer
  deriving DecidableEq, Repr

/-- Hands bytes over, and what is left of them again, until a request is refused. -/
def transfer (idle : WriteError) : List Answer → List UInt8 → Transfer
  | answers, [] => { taken := [], answers }
  | [], bytes => { taken := bytes, answers := [] }
  | .fails e :: answers, bytes => { taken := [], rest := bytes, error? := some e, answers }
  | .takes count :: answers, bytes =>
    if count = 0 then { taken := [], rest := bytes, error? := some idle, answers }
    else
      let more := transfer idle answers (bytes.drop count)
      { more with taken := bytes.take count ++ more.taken }

structure Appended where
  files : FileTree
  rest : List UInt8 := []
  error? : Option WriteError := none
  deriving DecidableEq, Repr

/-- Adds bytes to the end of a file; `idle` is the error when nothing is taken for no reason. -/
def append (t : FileTree) (idle : WriteError) (l : Location) (bytes : List UInt8) : Appended :=
  if bytes = [] then { files := t }
  else
    match t.get? l with
    | some (.file before) =>
      let r := transfer idle t.answers bytes
      { files := { t.set l (.file (before ++ r.taken)) with answers := r.answers }
        rest := r.rest
        error? := r.error? }
    | some .sink => { files := t }
    | some .full => { files := t, rest := bytes, error? := some .noSpace }
    | some .directory => { files := t, rest := bytes, error? := some .noFile }
    | none => { files := t, rest := bytes, error? := some .noFile }

end FileTree

end HookGate
