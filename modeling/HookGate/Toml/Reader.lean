import HookGate.Toml.Token

/-!
# Reading TOML

`Document.read` accepts the documents of TOML 1.0 whose keys, arrays and inline
tables nest less than 80 deep. A text is first cut into statements; the headers
among them divide the rest into sections, which are then put into place one after
the other. Recursion takes fuel, of which twice the number of characters is
enough, since a call that consumes nothing is followed by one that does.
-/

namespace HookGate.Toml

/-!
## Tables under construction

A document is read from the top, and each statement adds to the tables made so
far. How a table came about decides what may still be added to it, so a node
keeps that until the document is complete.
-/

inductive Origin where
  /-- By a header of its own. -/
  | header
  /-- On the way to a table with a header. -/
  | implied
  /-- On the way to the value of a dotted key. -/
  | dotted
  deriving DecidableEq, Repr

inductive Node where
  /-- A value, to which nothing can be added. -/
  | value (v : Value)
  | table (origin : Origin) (members : List (String × Node))
  /-- Tables that share a header; the last one is open. -/
  | tables (before : List (List (String × Node))) (last : List (String × Node))
  deriving Inhabited

namespace Node

mutual
def toValue : Node → Value
  | value v => v
  | table _ members => .table (toValues members)
  | tables before last => .array (toTables before ++ [.table (toValues last)])

def toValues : List (String × Node) → List (String × Value)
  | [] => []
  | (name, n) :: rest => (name, n.toValue) :: toValues rest

def toTables : List (List (String × Node)) → List Value
  | [] => []
  | t :: rest => .table (toValues t) :: toTables rest
end

def assign (members : List (String × Node)) (name : String) (n : Node) : List (String × Node) :=
  members.map fun (other, m) => if other = name then (other, n) else (other, m)

/-- Defines `name` in the table that `path` leads to, as a dotted key does. The last table on the
way must have come about that way, too. -/
def define (name : String) (v : Value) :
    (path : List String) → List (String × Node) → Except Fault (List (String × Node))
  | [], members =>
    match members.lookup name with
    | some _ => .error (.duplicate name)
    | none => .ok (members ++ [(name, value v)])
  | step :: path, members =>
    match members.lookup step with
    | none => do return members ++ [(step, table .dotted (← define name v path []))]
    | some (table .dotted inner) => do
      return assign members step (table .dotted (← define name v path inner))
    | some (table .implied inner) =>
      if path.isEmpty then .error (.duplicate step)
      else do return assign members step (table .implied (← define name v path inner))
    | some (table .header _) => .error (.duplicate step)
    | some (tables before last) =>
      if path.isEmpty then .error (.duplicate step)
      else do return assign members step (tables before (← define name v path last))
    | some (value _) => .error (.notTable step)

/-- Changes the table that `path` leads to, as the path of a header does. -/
def within (change : List (String × Node) → Except Fault (List (String × Node))) :
    (path : List String) → List (String × Node) → Except Fault (List (String × Node))
  | [], members => change members
  | step :: path, members =>
    match members.lookup step with
    | none => do return members ++ [(step, table .implied (← within change path []))]
    | some (table origin inner) => do
      return assign members step (table origin (← within change path inner))
    | some (tables before last) => do
      return assign members step (tables before (← within change path last))
    | some (value _) => .error (.notTable step)

/-- Opens the table of a header, which `fill` completes. A table that was implied so far is
continued. -/
def openTable (name : String) (fill : List (String × Node) → Except Fault (List (String × Node)))
    (members : List (String × Node)) : Except Fault (List (String × Node)) :=
  match members.lookup name with
  | none => do return members ++ [(name, table .header (← fill []))]
  | some (table .implied inner) => do return assign members name (table .header (← fill inner))
  | some _ => .error (.duplicate name)

def openNext (name : String) (fill : List (String × Node) → Except Fault (List (String × Node)))
    (members : List (String × Node)) : Except Fault (List (String × Node)) :=
  match members.lookup name with
  | none => do return members ++ [(name, tables [] (← fill []))]
  | some (tables before last) => do
    return assign members name (tables (before ++ [last]) (← fill []))
  | some _ => .error (.duplicate name)

end Node

/-! ## Reading TOML -/

/-! ### Keys -/

structure Key where
  path : List String
  name : String
  deriving DecidableEq, Repr

def depthLimit : Nat := 80

def isBare (c : Char) : Bool := c.isAlphanum || c == '-' || c == '_'

def keyName : List Char → Result String
  | '"' :: rest => basic [] rest.length rest
  | '\'' :: rest => literal rest
  | cs =>
    match cs.takeWhile isBare with
    | [] => .error .malformed
    | name => .ok (String.ofList name, cs.dropWhile isBare)

/-- The names of a key with the blanks around them; `before` holds those read so far, last one
first. -/
def keyNames (before : List String) : (fuel : Nat) → List Char → Result Key
  | 0, _ => .error .malformed
  | fuel + 1, cs =>
    match keyName (dropBlanks cs) with
    | .error e => .error e
    | .ok (name, rest) =>
      match dropBlanks rest with
      | '.' :: rest => keyNames (name :: before) fuel rest
      | rest =>
        if before.length + 1 < depthLimit then .ok (⟨before.reverse, name⟩, rest)
        else .error .tooDeep

def key (cs : List Char) : Result Key := keyNames [] cs.length cs

def keyEquals (cs : List Char) : Except Fault (Key × List Char) := do
  let (k, rest) ← key cs
  match rest with
  | '=' :: rest => return (k, dropBlanks rest)
  | _ => .error .malformed

/-! ### Values -/

def scalar (cs : List Char) : Result Value :=
  match cs with
  | 't' :: 'r' :: 'u' :: 'e' :: rest => .ok (.boolean true, rest)
  | 'f' :: 'a' :: 'l' :: 's' :: 'e' :: rest => .ok (.boolean false, rest)
  | '"' :: _ => (quoted cs).map fun (s, rest) => (.string s, rest)
  | '\'' :: _ => (quoted cs).map fun (s, rest) => (.string s, rest)
  | _ => if startsMoment cs then moment cs else number cs

mutual
def value (depth : Nat) : (fuel : Nat) → List Char → Result Value
  | 0, _ => .error .malformed
  | fuel + 1, cs =>
    match cs with
    | '[' :: rest =>
      if depth = 0 then .error .tooDeep
      else (items (depth - 1) [] fuel rest).map fun (vs, rest) => (.array vs, rest)
    | '{' :: rest =>
      if depth = 0 then .error .tooDeep
      else
        match dropBlanks rest with
        | '}' :: rest => .ok (.table [], rest)
        | rest => (pairs (depth - 1) [] fuel rest).map fun (ms, rest) => (.table (Node.toValues ms), rest)
    | cs => scalar cs

/-- The items of an array up to and with its closing bracket; `before` holds those read so far,
last one first. -/
def items (depth : Nat) (before : List Value) : (fuel : Nat) → List Char → Result (List Value)
  | 0, _ => .error .malformed
  | fuel + 1, cs =>
    match dropGaps false cs with
    | ']' :: rest => .ok (before.reverse, rest)
    | cs =>
      match value depth fuel cs with
      | .error e => .error e
      | .ok (v, rest) =>
        match dropGaps false rest with
        | ',' :: rest => items depth (v :: before) fuel rest
        | ']' :: rest => .ok ((v :: before).reverse, rest)
        | _ => .error .malformed

def pairs (depth : Nat) (members : List (String × Node)) :
    (fuel : Nat) → List Char → Result (List (String × Node))
  | 0, _ => .error .malformed
  | fuel + 1, cs =>
    match keyEquals cs with
    | .error e => .error e
    | .ok (k, rest) =>
      match value depth fuel rest with
      | .error e => .error e
      | .ok (v, rest) =>
        match Node.define k.name v k.path members with
        | .error e => .error e
        | .ok members =>
          match dropBlanks rest with
          | ',' :: rest => pairs depth members fuel rest
          | '}' :: rest => .ok (members, rest)
          | _ => .error .malformed
end

/-! ### Statements -/

inductive Header where
  /-- The header of one table. -/
  | table (k : Key)
  /-- Opens one more table of those that share it. -/
  | next (k : Key)

inductive Statement where
  | pair (k : Key) (v : Value)
  | header (h : Header)

def statement (cs : List Char) : Except Fault (Statement × List Char) :=
  match cs with
  | '[' :: '[' :: rest => do
    let (k, rest) ← key rest
    match rest with
    | ']' :: ']' :: rest => return (.header (.next k), ← endLine rest)
    | _ => .error .malformed
  | '[' :: rest => do
    let (k, rest) ← key rest
    match rest with
    | ']' :: rest => return (.header (.table k), ← endLine rest)
    | _ => .error .malformed
  | cs => do
    let (k, rest) ← keyEquals cs
    let (v, rest) ← value (depthLimit - 1) (2 * rest.length + 2) rest
    return (.pair k v, ← endLine rest)

def statements (before : List Statement) : (fuel : Nat) → List Char → Except Fault (List Statement)
  | 0, _ => .error .malformed
  | fuel + 1, cs =>
    match endLine cs with
    | .ok [] => .ok before.reverse
    | .ok rest => statements before fuel rest
    | .error _ =>
      match statement (dropBlanks cs) with
      | .error e => .error e
      | .ok (s, rest) => statements (s :: before) fuel rest

/-! ### Documents -/

structure Section where
  header : Header
  pairs : List (Key × Value)

def sections : List Statement → List (Key × Value) × List Section
  | [] => ([], [])
  | .pair k v :: rest => let (pairs, more) := sections rest; ((k, v) :: pairs, more)
  | .header h :: rest => let (pairs, more) := sections rest; ([], ⟨h, pairs⟩ :: more)

def fill (pairs : List (Key × Value)) (members : List (String × Node)) :
    Except Fault (List (String × Node)) :=
  pairs.foldlM (fun members (k, v) => Node.define k.name v k.path members) members

def Section.place (s : Section) (members : List (String × Node)) : Except Fault (List (String × Node)) :=
  match s.header with
  | .table k => Node.within (Node.openTable k.name (fill s.pairs)) k.path members
  | .next k => Node.within (Node.openNext k.name (fill s.pairs)) k.path members

/-- A byte order mark at the start of a text does not count. -/
def dropMark : List Char → List Char
  | '\uFEFF' :: rest => rest
  | cs => cs

def Document.read (text : List Char) : Except Fault Document := do
  let text := dropMark text
  let (pairs, sections) := sections (← statements [] (text.length + 1) text)
  let members ← sections.foldlM (fun members s => s.place members) (← fill pairs [])
  return Node.toValues members

end HookGate.Toml
