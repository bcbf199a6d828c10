import HookGate.Proofs.Toml.Names

/-!
# Tables that share a header

Tables under one header stand in the order in which they are opened, and each has the
pairs that are written below its own header (`Document.items_of_read`). What is written
between them, or into tables of theirs, neither moves them nor changes those pairs:
`Defines.entries_eq` says so of pairs, `Within.entries_eq` of headers.
-/

namespace HookGate.Toml

def plain (pairs : List (Key × Value)) : List (String × Value) :=
  pairs.filterMap fun (k, v) => if k.path = [] then some (k.name, v) else none

theorem plain_cons (k : Key) (v : Value) (pairs : List (Key × Value)) :
    plain ((k, v) :: pairs) = if k.path = [] then (k.name, v) :: plain pairs else plain pairs := by
  by_cases h : k.path = [] <;> simp [plain, h]

namespace Node

/-- A name has a value that some pair gave it, and no table that came about by statements of its own. -/
def Has (ms : Members) (name : String) (v : Value) : Prop := ms.lookup name = some (value v)

def sharing : Option Node → List Members
  | some (tables before last) => before ++ [last]
  | _ => []

/-- The tables under a node that a path leads through. -/
def inside : Option Node → List Members
  | some (table _ inner) => [inner]
  | some (tables before last) => before ++ [last]
  | _ => []

/-- What the tables that share the header of a path and a name have, in order. -/
def entries (name : String) : (path : List String) → Members → List (String → Value → Prop)
  | [], ms => (sharing (ms.lookup name)).map Has
  | step :: path, ms => (inside (ms.lookup step)).flatMap (entries name path)

theorem entries_nil (name : String) (path : List String) : entries name path [] = [] := by
  cases path with
  | nil => rfl
  | cons step path => rfl

namespace Puts

variable {α : Type} {ms ms' : Members} {step name : String} {path : List String} {old : Option Node} {n : Node}

theorem same (h : Puts ms step old n ms') (f : Option Node → α) (hf : f (some n) = f old) (other : String) :
    f (ms'.lookup other) = f (ms.lookup other) := by
  by_cases ho : other = step
  · rw [ho, h.lookup_self, h.lookup_old, hf]
  · rw [h.lookup_other ho]

theorem grown (h : Puts ms step old n ms') (f : Option Node → List α) {more : List α}
    (hf : f (some n) = f old ++ more) (other : String) :
    f (ms'.lookup other) = f (ms.lookup other) ++ if other = step then more else [] := by
  by_cases ho : other = step
  · rw [if_pos ho, ho, h.lookup_self, h.lookup_old, hf]
  · rw [if_neg ho, h.lookup_other ho, List.append_nil]

theorem has_eq (h : Puts ms step old n ms') (ho : ∀ v, old ≠ some (value v)) (hn : ∀ v, n ≠ value v) :
    Has ms' = Has ms := by
  funext other v
  refine h.same (· = some (value v)) (propext ⟨fun heq => ?_, fun heq => ?_⟩) other
  · exact absurd (Option.some.inj heq) (hn v)
  · exact absurd heq (ho v)

theorem entries_here (h : Puts ms step old n ms') (hn : (sharing (some n)).map Has = (sharing old).map Has) :
    entries name [] ms' = entries name [] ms :=
  h.same (fun o => (sharing o).map Has) hn name

theorem entries_below (h : Puts ms step old n ms')
    (hn : (inside (some n)).flatMap (entries name path) = (inside old).flatMap (entries name path))
    (other : String) : entries name (other :: path) ms' = entries name (other :: path) ms :=
  h.same (fun o => (inside o).flatMap (entries name path)) hn other

end Puts

/-! ## Pairs -/

theorem Defines.has_iff {name : String} {v : Value} {path : List String} {ms ms' : Members}
    (h : Defines name v path ms ms') (other : String) (w : Value) :
    Has ms' other w ↔ Has ms other w ∨ path = [] ∧ other = name ∧ w = v := by
  cases h with
  | here hp =>
    unfold Has
    by_cases ho : other = name
    · simp [ho, hp.lookup_self, hp.lookup_old, eq_comm]
    · simp [ho, hp.lookup_other ho]
  | new hp _ => simp [hp.has_eq]
  | table hp _ => simp [hp.has_eq]
  | tables _ hp _ => simp [hp.has_eq]

theorem Fills.has_iff {pairs : List (Key × Value)} {ms ms' : Members} (h : Fills pairs ms ms') (name : String)
    (v : Value) : Has ms' name v ↔ Has ms name v ∨ (name, v) ∈ plain pairs := by
  induction h with
  | nil => simp [plain]
  | @cons k w pairs ms mid ms' hk _ ih =>
    rw [ih, hk.has_iff, plain_cons, or_assoc]
    by_cases hp : k.path = [] <;> simp [hp]

theorem Fills.has_eq {pairs : List (Key × Value)} {t : Members} (h : Fills pairs [] t) :
    Has t = fun name v => (name, v) ∈ plain pairs := by
  funext name v
  rw [h.has_iff]
  simp [Has]

theorem Defines.entries_eq {name : String} {v : Value} {path : List String} {ms ms' : Members}
    (h : Defines name v path ms ms') (other : String) (steps : List String) :
    entries other steps ms' = entries other steps ms := by
  induction h generalizing steps with
  | here hp =>
    cases steps with
    | nil => exact hp.entries_here rfl
    | cons step steps => exact hp.entries_below rfl step
  | new hp _ ih =>
    cases steps with
    | nil => exact hp.entries_here rfl
    | cons step steps => exact hp.entries_below (by simp [inside, ih, entries_nil]) step
  | table hp _ ih =>
    cases steps with
    | nil => exact hp.entries_here rfl
    | cons step steps => exact hp.entries_below (by simp [inside, ih]) step
  | @tables _ path _ before last last' _ hpath hp hd ih =>
    cases steps with
    | nil =>
      -- a key that leads on gives the open table itself no value
      have hlast : Has last' = Has last := by
        funext name v
        simp [hd.has_iff, hpath]
      exact hp.entries_here (by simp [sharing, hlast])
    | cons step steps => exact hp.entries_below (by simp [inside, ih]) step

theorem Fills.entries_eq {pairs : List (Key × Value)} {ms ms' : Members} (h : Fills pairs ms ms') (name : String)
    (path : List String) : entries name path ms' = entries name path ms := by
  induction h with
  | nil => rfl
  | cons hk _ ih => rw [ih, hk.entries_eq]

/-! ## Headers -/

theorem Opens.has_eq {pairs : List (Key × Value)} {header : Header} {ms ms' : Members}
    (h : Opens pairs header ms ms') : Has ms' = Has ms := by
  cases h with
  | table hp _ => simp [hp.has_eq]
  | implied hp _ => simp [hp.has_eq]
  | first hp _ => simp [hp.has_eq]
  | next hp _ => simp [hp.has_eq]

theorem Within.has_eq {change : Members → Members → Prop} {path : List String} {ms ms' : Members}
    (h : Within change path ms ms') (hc : ∀ ms ms', change ms ms' → Has ms' = Has ms) : Has ms' = Has ms := by
  cases h with
  | here h => exact hc _ _ h
  | new hp _ => simp [hp.has_eq]
  | table hp _ => simp [hp.has_eq]
  | tables hp _ => simp [hp.has_eq]

end Node

def Header.isNext (k : Key) : Header → Bool
  | table _ => false
  | next k' => k' = k

namespace Node

variable {pairs : List (Key × Value)} {header : Header} {ms ms' : Members}

/-- What a header adds to the tables that share the header of its path and a name. -/
def added (pairs : List (Key × Value)) (header : Header) (name : String) : List (String → Value → Prop) :=
  if header.isNext ⟨header.key.path, name⟩ then [fun other v => (other, v) ∈ plain pairs] else []

theorem added_table (k : Key) (name : String) : added pairs (.table k) name = [] := rfl

theorem added_next (k : Key) (name : String) :
    added pairs (.next k) name = if name = k.name then [fun other v => (other, v) ∈ plain pairs] else [] := by
  obtain ⟨path, last⟩ := k
  simp [added, Header.isNext, Header.key, eq_comm]

theorem Opens.entries_here (h : Opens pairs header ms ms') (name : String) :
    entries name [] ms' = entries name [] ms ++ added pairs header name := by
  cases h with
  | table hp _ =>
    rw [added_table, List.append_nil]
    exact hp.entries_here rfl
  | implied hp _ =>
    rw [added_table, List.append_nil]
    exact hp.entries_here rfl
  | first hp hf =>
    rw [added_next]
    exact hp.grown (fun o => (sharing o).map Has) (by simp [sharing, hf.has_eq]) name
  | next hp hf =>
    rw [added_next]
    exact hp.grown (fun o => (sharing o).map Has) (by simp [sharing, hf.has_eq]) name

theorem Opens.entries_below (h : Opens pairs header ms ms') (name step : String) (path : List String) :
    entries name (step :: path) ms' = entries name (step :: path) ms := by
  cases h with
  | table hp hf => exact hp.entries_below (by simp [inside, hf.entries_eq, entries_nil]) step
  | implied hp hf => exact hp.entries_below (by simp [inside, hf.entries_eq]) step
  | first hp hf => exact hp.entries_below (by simp [inside, hf.entries_eq, entries_nil]) step
  | next hp hf => exact hp.entries_below (by simp [inside, hf.entries_eq, entries_nil]) step

theorem Puts.entries_way {step : String} {old : Option Node} {n : Node} (h : Puts ms step old n ms') {name : String}
    {steps path : List String} {more : List (String → Value → Prop)}
    (hn : (inside (some n)).flatMap (entries name path) =
      (inside old).flatMap (entries name path) ++ if steps = path then more else []) (other : String) :
    entries name (other :: path) ms' =
      entries name (other :: path) ms ++ if step :: steps = other :: path then more else [] := by
  refine (h.grown (fun o => (inside o).flatMap (entries name path)) hn other).trans ?_
  by_cases ho : other = step
  · simp [ho, entries]
  · have ho' : ¬ step = other := fun heq => ho heq.symm
    simp [ho, ho', entries]

/-- A header adds its table behind those that share its path and name, and to no others. -/
theorem Within.entries_eq {steps : List String} (h : Within (Opens pairs header) steps ms ms') (name : String)
    (path : List String) :
    entries name path ms' = entries name path ms ++ if steps = path then added pairs header name else [] := by
  -- on the way of the header; the path looked at is split along with it
  induction h generalizing path with
  | here h =>
    cases path with
    | nil => rw [if_pos rfl]; exact h.entries_here name
    | cons step path => rw [if_neg (by simp), List.append_nil]; exact h.entries_below name step path
  | new hp _ ih =>
    cases path with
    | nil => rw [if_neg (by simp), List.append_nil]; exact hp.entries_here rfl
    | cons other path => exact hp.entries_way (by simp [inside, ih, entries_nil]) other
  | table hp _ ih =>
    cases path with
    | nil => rw [if_neg (by simp), List.append_nil]; exact hp.entries_here rfl
    | cons other path => exact hp.entries_way (by simp [inside, ih]) other
  | tables hp hw ih =>
    cases path with
    | nil =>
      rw [if_neg (by simp), List.append_nil]
      exact hp.entries_here (by simp [sharing, hw.has_eq fun _ _ ho => ho.has_eq])
    | cons other path => exact hp.entries_way (by simp [inside, ih]) other

end Node

/-! ## Documents -/

/-- The table has the pairs, and beside them only tables and lists of tables that came about by statements
of their own. -/
structure Extends (pairs table : List (String × Value)) : Prop where
  kept : ∀ p ∈ pairs, p ∈ table
  beside : ∀ p ∈ table, p ∈ pairs ∨ (∃ ms, p.2 = .table ms) ∨ ∃ vs, p.2 = .array vs

theorem Extends.mem_of_string {pairs table : List (String × Value)} (h : Extends pairs table) {name s : String}
    (hm : (name, .string s) ∈ table) : (name, .string s) ∈ pairs := by
  rcases h.beside _ hm with hp | ⟨ms, hv⟩ | ⟨vs, hv⟩
  · exact hp
  · cases hv
  · cases hv

theorem Node.extends_toValues {t : Members} {pairs : List (String × Value)} (hd : Distinct t)
    (hp : Has t = fun name v => (name, v) ∈ pairs) : Extends pairs (toValues t) := by
  have hhas (name : String) (v : Value) : t.lookup name = some (value v) ↔ (name, v) ∈ pairs :=
    iff_of_eq (congrFun (congrFun hp name) v)
  rw [toValues_eq]
  refine ⟨fun (name, v) hm => ?_, List.forall_mem_map.2 fun (name, n) hm => ?_⟩
  · have hv := mem_of_lookup ((hhas name v).2 hm)
    exact List.mem_map.2 ⟨_, hv, by rw [toValue]⟩
  · have hl := (lookup_eq_some_iff (distinct_iff.1 hd).1).2 hm
    cases n with
    | value v => exact .inl (by rw [toValue]; exact (hhas name v).1 hl)
    | table origin inner => exact .inr (.inl ⟨_, by rw [toValue]⟩)
    | tables before last => exact .inr (.inr ⟨_, by rw [toValue]⟩)

theorem Node.forall₂_extends {ts : List Members} {ss : List Section} (hd : ∀ t ∈ ts, Distinct t)
    (heq : ts.map Has = ss.map fun s name v => (name, v) ∈ plain s.pairs) :
    List.Forall₂ (fun s t => Extends (plain s.pairs) (toValues t)) ss ts := by
  induction ts generalizing ss with
  | nil =>
    cases ss with
    | nil => exact .nil
    | cons s ss => cases heq
  | cons t ts ih =>
    cases ss with
    | nil => cases heq
    | cons s ss =>
      obtain ⟨ht, hts⟩ := List.forall_mem_cons.1 hd
      obtain ⟨hhead, htail⟩ := List.cons.inj heq
      exact .cons (extends_toValues ht hhead) (ih hts htail)

theorem Node.eq_of_sharing_ne_nil {o : Option Node} (h : sharing o ≠ []) :
    ∃ before last, o = some (tables before last) := by
  cases o with
  | none => exact absurd rfl h
  | some n =>
    cases n with
    | value v => exact absurd rfl h
    | table origin inner => exact absurd rfl h
    | tables before last => exact ⟨before, last, rfl⟩

theorem Node.eq_of_inside_ne_nil {o : Option Node} (h : inside o ≠ []) :
    (∃ origin inner, o = some (table origin inner)) ∨ ∃ before last, o = some (tables before last) := by
  cases o with
  | none => exact absurd rfl h
  | some n =>
    cases n with
    | value v => exact absurd rfl h
    | table origin inner => exact .inl ⟨origin, inner, rfl⟩
    | tables before last => exact .inr ⟨before, last, rfl⟩

namespace Document

/-- The sections under the header of the tables that share the key. -/
def sharing (k : Key) (sections : List Section) : List Section := sections.filter (·.header.isNext k)

theorem map_sharing_singleton (path : List String) (name : String) (s : Section) :
    (sharing ⟨path, name⟩ [s]).map (fun s other v => (other, v) ∈ plain s.pairs) =
      if s.header.key.path = path then Node.added s.pairs s.header name else [] := by
  obtain ⟨header, pairs⟩ := s
  cases header with
  | table k => simp [sharing, Header.isNext, Node.added_table]
  | next k =>
    obtain ⟨path', name'⟩ := k
    by_cases hpath : path' = path
    · subst hpath
      by_cases hname : name' = name
      · subst hname
        simp [sharing, Header.isNext, Header.key, Node.added]
      · simp [sharing, Header.isNext, Header.key, Node.added, hname]
    · simp [sharing, Header.isNext, Header.key, hpath]

theorem Builds.entries_eq {pairs : List (Key × Value)} {sections : List Section} {ms : Node.Members}
    (h : Builds pairs sections ms) (path : List String) (name : String) :
    Node.entries name path ms =
      (sharing ⟨path, name⟩ sections).map fun s other v => (other, v) ∈ plain s.pairs := by
  induction h with
  | top hf => rw [hf.entries_eq, Node.entries_nil]; rfl
  | place _ hw ih =>
    have hmore := map_sharing_singleton path name
    rw [hw.entries_eq, ih, ← hmore, ← List.map_append, sharing, sharing, sharing, List.filter_append]

/-- The tables under a header of two names are the items of a list, in the order of their sections. -/
theorem items_of_read {text : List Char} {d : Document} {pairs : List (Key × Value)} {sections : List Section}
    {outer name : String} (h : read text = .ok d) (hdivide : divide text = .ok (pairs, sections))
    (houter : ∀ v, (outer, v) ∈ d → ∃ ms, v = .table ms) (hne : sharing ⟨[outer], name⟩ sections ≠ []) :
    ∃ inner items, (outer, .table inner) ∈ d ∧ (name, .array items) ∈ inner ∧
      List.Forall₂ (fun s item => ∃ table, item = .table table ∧ Extends (plain s.pairs) table)
        (sharing ⟨[outer], name⟩ sections) items := by
  have hdistinct := distinct_read h
  obtain ⟨pairs', sections', ms, hdivide', hbuilds, rfl⟩ := builds_of_read h
  cases hdivide.symm.trans hdivide'
  have hentries := hbuilds.entries_eq [outer] name
  rw [Node.entries] at hentries
  have hinside : Node.inside (ms.lookup outer) ≠ [] := by
    intro hnil
    rw [hnil, List.flatMap_nil, eq_comm, List.map_eq_nil_iff] at hentries
    exact hne hentries
  -- under the first name stands one table, or a list of tables, which `houter` rules out
  rcases Node.eq_of_inside_ne_nil hinside with ⟨origin, inner, hl⟩ | ⟨before, last, hl⟩
  · have hinner := Node.distinct_table.1 (Node.distinct_of_lookup hdistinct hl)
    rw [hl, Node.inside, List.flatMap_singleton, Node.entries] at hentries
    have hsharing : Node.sharing (inner.lookup name) ≠ [] := by
      intro hnil
      rw [hnil, List.map_nil, eq_comm, List.map_eq_nil_iff] at hentries
      exact hne hentries
    obtain ⟨before, last, hl'⟩ := Node.eq_of_sharing_ne_nil hsharing
    have htables := Node.distinct_tables.1 (Node.distinct_of_lookup hinner hl')
    have hm := Node.mem_toValues_of_lookup hl
    have hm' := Node.mem_toValues_of_lookup hl'
    rw [Node.toValue] at hm
    rw [Node.toValue_tables] at hm'
    rw [hl', Node.sharing] at hentries
    refine ⟨_, _, hm, hm', ?_⟩
    rw [List.forall₂_map_right_iff]
    exact (Node.forall₂_extends htables hentries).imp fun s t h => ⟨_, rfl, h⟩
  · obtain ⟨ms', h⟩ := houter _ (Node.mem_toValues_of_lookup hl)
    rw [Node.toValue_tables] at h
    cases h

end Document

end HookGate.Toml
