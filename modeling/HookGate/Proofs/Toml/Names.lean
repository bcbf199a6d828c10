import HookGate.Proofs.Toml.Statements

/-!
# Every name once

A document that is read names no member of a table twice (`distinct_read`), however the
table came about. In such a table a name leads to every value that stands under it
(`lookup_eq_some_iff`).
-/

namespace HookGate.Toml

/-! ## Lists of members -/

section
variable {α : Type} {ms : List (String × α)} {name : String} {a : α}

theorem lookup_eq_none_iff : ms.lookup name = none ↔ name ∉ ms.map (·.1) := by
  rw [List.lookup_eq_none_iff, List.mem_map]
  refine ⟨fun h => ?_, fun h p hp => ?_⟩
  · rintro ⟨p, hp, rfl⟩
    simpa using h p hp
  · rw [bne_iff_ne]
    exact fun heq => h ⟨p, hp, heq.symm⟩

theorem mem_of_lookup (h : ms.lookup name = some a) : (name, a) ∈ ms := by
  obtain ⟨before, after, rfl, -⟩ := List.lookup_eq_some_iff.1 h
  simp

theorem lookup_eq_some_iff (hn : (ms.map (·.1)).Nodup) : ms.lookup name = some a ↔ (name, a) ∈ ms := by
  refine ⟨mem_of_lookup, fun h => ?_⟩
  obtain ⟨before, after, rfl⟩ := List.append_of_mem h
  rw [List.map_append, List.map_cons, List.nodup_append] at hn
  refine List.lookup_eq_some_iff.2 ⟨before, after, rfl, fun p hp => ?_⟩
  rw [bne_iff_ne]
  exact fun heq => hn.2.2 _ (List.mem_map_of_mem hp) name (List.mem_cons_self ..) heq.symm

end

/-- No table in the value names a member twice. -/
inductive Value.Distinct : Value → Prop
  | string {s} : Distinct (.string s)
  | integer {n} : Distinct (.integer n)
  | float {spelling} : Distinct (.float spelling)
  | boolean {b} : Distinct (.boolean b)
  | moment {spelling} : Distinct (.moment spelling)
  | array {vs : List Value} : (∀ v ∈ vs, Distinct v) → Distinct (.array vs)
  | table {ms : List (String × Value)} : (ms.map (·.1)).Nodup → (∀ m ∈ ms, Distinct m.2) → Distinct (.table ms)

theorem Value.distinct_array_iff {vs : List Value} : (array vs).Distinct ↔ ∀ v ∈ vs, v.Distinct := by
  refine ⟨fun h => ?_, .array⟩
  cases h with
  | array h => exact h

theorem Value.distinct_table_iff {ms : List (String × Value)} :
    (table ms).Distinct ↔ (ms.map (·.1)).Nodup ∧ ∀ m ∈ ms, m.2.Distinct := by
  refine ⟨fun h => ?_, fun ⟨hn, hm⟩ => .table hn hm⟩
  cases h with
  | table hn hm => exact ⟨hn, hm⟩

/-! ## What statements preserve -/

namespace Node

theorem toValues_eq (ms : Members) : toValues ms = ms.map fun m => (m.1, m.2.toValue) := by
  induction ms with
  | nil => rw [toValues, List.map_nil]
  | cons m ms ih => rw [toValues, ih, List.map_cons]

theorem toTables_eq (ts : List Members) : toTables ts = ts.map fun t => .table (toValues t) := by
  induction ts with
  | nil => rw [toTables, List.map_nil]
  | cons t ts ih => rw [toTables, ih, List.map_cons]

abbrev Distinct (ms : Members) : Prop := (Value.table (toValues ms)).Distinct

theorem distinct_iff {ms : Members} :
    Distinct ms ↔ (ms.map (·.1)).Nodup ∧ ∀ m ∈ ms, m.2.toValue.Distinct := by
  have hnames : (toValues ms).map (·.1) = ms.map (·.1) := by rw [toValues_eq, List.map_map]; rfl
  have hmembers : (∀ m ∈ toValues ms, m.2.Distinct) ↔ ∀ m ∈ ms, m.2.toValue.Distinct := by
    rw [toValues_eq, List.forall_mem_map]
  rw [Distinct, Value.distinct_table_iff, hnames, hmembers]

theorem distinct_nil : Distinct [] := distinct_iff.2 ⟨List.nodup_nil, List.forall_mem_nil _⟩

theorem distinct_table {ms : Members} {origin : Origin} : (table origin ms).toValue.Distinct ↔ Distinct ms := by
  rw [toValue]

theorem toValue_tables (before : List Members) (last : Members) :
    (tables before last).toValue = .array ((before ++ [last]).map fun t => .table (toValues t)) := by
  rw [toValue, toTables_eq, List.map_append, List.map_singleton]

theorem distinct_tables {before : List Members} {last : Members} :
    (tables before last).toValue.Distinct ↔ ∀ t ∈ before ++ [last], Distinct t := by
  rw [toValue_tables, Value.distinct_array_iff, List.forall_mem_map]

theorem mem_toValues_of_lookup {ms : Members} {name : String} {n : Node} (h : ms.lookup name = some n) :
    (name, n.toValue) ∈ toValues ms := by
  rw [toValues_eq]
  exact List.mem_map.2 ⟨_, mem_of_lookup h, rfl⟩

theorem distinct_of_lookup {ms : Members} {name : String} {n : Node} (hd : Distinct ms)
    (h : ms.lookup name = some n) : n.toValue.Distinct :=
  (distinct_iff.1 hd).2 _ (mem_of_lookup h)

namespace Puts

variable {ms ms' : Members} {name : String} {old : Option Node} {m n : Node}

theorem distinct_old (h : Puts ms name (some m) n ms') (hd : Distinct ms) : m.toValue.Distinct :=
  distinct_of_lookup hd h.lookup_old

theorem distinct (h : Puts ms name old n ms') (hd : Distinct ms) (hn : n.toValue.Distinct) : Distinct ms' := by
  obtain ⟨hnames, hmembers⟩ := distinct_iff.1 hd
  rw [distinct_iff]
  cases h with
  | new hl =>
    have hnew := lookup_eq_none_iff.1 hl
    refine ⟨?_, List.forall_mem_append.2 ⟨hmembers, by simpa using hn⟩⟩
    rw [List.map_append, List.map_singleton, List.nodup_append]
    refine ⟨hnames, List.pairwise_singleton .., fun a ha b hb heq => hnew ?_⟩
    rw [List.mem_singleton] at hb
    rwa [heq, hb] at ha
  | old hl =>
    have hsame : (assign ms name n).map (·.1) = ms.map (·.1) := by
      rw [assign, List.map_map]
      refine List.map_congr_left fun p _ => ?_
      by_cases hp : p.1 = name <;> simp [hp]
    refine ⟨hsame ▸ hnames, List.forall_mem_map.2 fun p hp => ?_⟩
    by_cases hname : p.1 = name
    · simpa [hname] using hn
    · simpa [hname] using hmembers p hp

theorem distinct_inner {origin origin' : Origin} {inner inner' : Members}
    (h : Puts ms name (some (table origin inner)) (table origin' inner') ms')
    (hi : Distinct inner → Distinct inner') (hd : Distinct ms) : Distinct ms' :=
  h.distinct hd (distinct_table.2 (hi (distinct_table.1 (h.distinct_old hd))))

theorem distinct_last {before : List Members} {last last' : Members}
    (h : Puts ms name (some (tables before last)) (tables before last') ms')
    (hl : Distinct last → Distinct last') (hd : Distinct ms) : Distinct ms' := by
  obtain ⟨hbefore, hlast⟩ := List.forall_mem_append.1 (distinct_tables.1 (h.distinct_old hd))
  have hlast' := hl (hlast _ (List.mem_singleton_self _))
  exact h.distinct hd (distinct_tables.2 (List.forall_mem_append.2 ⟨hbefore, by simpa using hlast'⟩))

end Puts

theorem Defines.distinct {name : String} {v : Value} {path : List String} {ms ms' : Members}
    (h : Defines name v path ms ms') (hv : v.Distinct) (hd : Distinct ms) : Distinct ms' := by
  induction h with
  | here hp => exact hp.distinct hd (by rwa [toValue])
  | new hp _ ih => exact hp.distinct hd (distinct_table.2 (ih distinct_nil))
  | table hp _ ih => exact hp.distinct_inner ih hd
  | tables _ hp _ ih => exact hp.distinct_last ih hd

theorem Fills.distinct {pairs : List (Key × Value)} {ms ms' : Members} (h : Fills pairs ms ms')
    (hv : ∀ p ∈ pairs, p.2.Distinct) (hd : Distinct ms) : Distinct ms' := by
  induction h with
  | nil => exact hd
  | cons hk _ ih =>
    obtain ⟨hv, hvs⟩ := List.forall_mem_cons.1 hv
    exact ih hvs (hk.distinct hv hd)

theorem Opens.distinct {pairs : List (Key × Value)} {header : Header} {ms ms' : Members}
    (h : Opens pairs header ms ms') (hv : ∀ p ∈ pairs, p.2.Distinct) (hd : Distinct ms) : Distinct ms' := by
  cases h with
  | table hp hf => exact hp.distinct hd (distinct_table.2 (hf.distinct hv distinct_nil))
  | implied hp hf => exact hp.distinct_inner (hf.distinct hv) hd
  | first hp hf => exact hp.distinct hd (distinct_tables.2 (by simpa using hf.distinct hv distinct_nil))
  | next hp hf =>
    refine hp.distinct hd (distinct_tables.2 (List.forall_mem_append.2 ⟨?_, ?_⟩))
    · exact distinct_tables.1 (hp.distinct_old hd)
    · simpa using hf.distinct hv distinct_nil

theorem Within.distinct {change : Members → Members → Prop} {path : List String} {ms ms' : Members}
    (h : Within change path ms ms') (hc : ∀ ms ms', change ms ms' → Distinct ms → Distinct ms')
    (hd : Distinct ms) : Distinct ms' := by
  induction h with
  | here h => exact hc _ _ h hd
  | new hp _ ih => exact hp.distinct hd (distinct_table.2 (ih distinct_nil))
  | table hp _ ih => exact hp.distinct_inner ih hd
  | tables hp _ ih => exact hp.distinct_last ih hd

end Node

/-! ## Values that are read -/

theorem distinct_integer {negative : Bool} {base : Nat} {ds : List Char} {v : Value}
    (h : integer negative base ds = .ok v) : v.Distinct := by
  unfold integer at h
  simp only at h
  split at h
  · obtain ⟨-, h⟩ := ok_of_pos h
    cases h
    exact .integer
  · obtain ⟨-, h⟩ := ok_of_pos h
    cases h
    exact .integer

theorem distinct_decimal {negative : Bool} {cs body rest : List Char} {v : Value}
    (h : decimal negative cs body = .ok (v, rest)) : v.Distinct := by
  obtain ⟨⟨whole, rest₁⟩, -, h⟩ := bind_eq_ok_iff.1 h
  obtain ⟨⟨fraction, rest₂⟩, -, h⟩ := bind_eq_ok_iff.1 h
  obtain ⟨⟨exponent, rest₃⟩, -, h⟩ := bind_eq_ok_iff.1 h
  simp only at h
  split at h
  · obtain ⟨w, hw, h⟩ := bind_eq_ok_iff.1 h
    cases h
    exact distinct_integer hw
  · obtain ⟨-, h⟩ := ok_of_not h
    cases h
    exact .float

theorem distinct_afterSign {negative : Bool} {cs body rest : List Char} {v : Value}
    (h : afterSign negative cs body = .ok (v, rest)) : v.Distinct := by
  unfold afterSign at h
  split at h
  · cases h; exact .float
  · cases h; exact .float
  · exact distinct_decimal h

theorem distinct_basedInteger {base : Nat} {isDigit : Char → Bool} {cs rest : List Char} {v : Value}
    (h : basedInteger base isDigit cs = .ok (v, rest)) : v.Distinct := by
  obtain ⟨⟨ds, rest₁⟩, -, h⟩ := bind_eq_ok_iff.1 h
  obtain ⟨w, hw, h⟩ := bind_eq_ok_iff.1 h
  cases h
  exact distinct_integer hw

theorem distinct_number {cs rest : List Char} {v : Value} (h : number cs = .ok (v, rest)) : v.Distinct := by
  unfold number at h
  split at h
  · exact distinct_afterSign h
  · exact distinct_afterSign h
  · exact distinct_basedInteger h
  · exact distinct_basedInteger h
  · exact distinct_basedInteger h
  · exact distinct_afterSign h

theorem distinct_moment {cs rest : List Char} {v : Value} (h : moment cs = .ok (v, rest)) : v.Distinct := by
  unfold moment at h
  simp only at h
  split at h
  · cases h; exact .moment
  · cases h

theorem distinct_scalar {cs rest : List Char} {v : Value} (h : scalar cs = .ok (v, rest)) : v.Distinct := by
  unfold scalar at h
  split at h
  · cases h; exact .boolean
  · cases h; exact .boolean
  · obtain ⟨⟨s, more⟩, -, h⟩ := map_eq_ok_iff.1 h
    cases h
    exact .string
  · obtain ⟨⟨s, more⟩, -, h⟩ := map_eq_ok_iff.1 h
    cases h
    exact .string
  · split at h
    · exact distinct_moment h
    · exact distinct_number h

theorem distinct_reader (fuel : Nat) :
    (∀ depth cs v rest, value depth fuel cs = .ok (v, rest) → v.Distinct) ∧
      (∀ depth before cs vs rest, items depth before fuel cs = .ok (vs, rest) →
        (∀ v ∈ before, v.Distinct) → ∀ v ∈ vs, v.Distinct) ∧
      ∀ depth ms cs ms' rest, pairs depth ms fuel cs = .ok (ms', rest) → Node.Distinct ms → Node.Distinct ms' := by
  -- `before` and `ms` are what was read already, so the invariant is about them, too
  induction fuel with
  | zero =>
    refine ⟨fun _ _ _ _ h => ?_, fun _ _ _ _ _ h => ?_, fun _ _ _ _ _ h => ?_⟩
    · rw [value] at h; cases h
    · rw [items] at h; cases h
    · rw [pairs] at h; cases h
  | succ fuel ih =>
    obtain ⟨hvalue, hitems, hpairs⟩ := ih
    refine ⟨fun depth cs v rest h => ?value, fun depth before cs vs rest h hb => ?items,
      fun depth ms cs ms' rest h hd => ?pairs⟩
    case value =>
      rcases value_cases h with hs | ⟨more, -, ⟨vs, rfl, hi⟩ | ⟨rfl, -⟩ | ⟨ms, rfl, hp⟩⟩
      · exact distinct_scalar hs
      · exact .array (hitems _ _ _ _ _ hi (List.forall_mem_nil _))
      · exact .table List.nodup_nil (List.forall_mem_nil _)
      · exact hpairs _ _ _ _ _ hp Node.distinct_nil
    case items =>
      rcases items_cases h with ⟨rfl, -⟩ | ⟨v, start, more, -, hv, h⟩
      · simpa using hb
      have hb' := List.forall_mem_cons.2 ⟨hvalue _ _ _ _ hv, hb⟩
      rcases h with ⟨rfl, -⟩ | ⟨left, -, h⟩
      · exact fun w hw => hb' w (List.mem_reverse.1 hw)
      · exact hitems _ _ _ _ _ h hb'
    case pairs =>
      obtain ⟨k, v, mid, start, more, -, hv, hk, h⟩ := pairs_cases h
      have hd' := (Node.defines_of_define hk).distinct (hvalue _ _ _ _ hv) hd
      rcases h with ⟨rfl, -⟩ | ⟨left, -, h⟩
      · exact hd'
      · exact hpairs _ _ _ _ _ h hd'

/-! ## Documents that are read -/

def Statement.Distinct : Statement → Prop
  | pair _ v => v.Distinct
  | header _ => True

theorem distinct_statement {cs rest : List Char} {s : Statement} (h : statement cs = .ok (s, rest)) :
    s.Distinct := by
  rcases statement_cases h with ⟨header, rfl, -⟩ | ⟨k, v, start, more, rfl, -, hv, -⟩
  · trivial
  · exact (distinct_reader _).1 _ _ _ _ hv

theorem distinct_statements {before ss : List Statement} {fuel : Nat} {cs : List Char}
    (h : statements before fuel cs = .ok ss) (hb : ∀ s ∈ before, s.Distinct) : ∀ s ∈ ss, s.Distinct := by
  induction fuel generalizing before cs with
  | zero => rw [statements] at h; cases h
  | succ fuel ih =>
    rw [statements] at h
    split at h
    · cases h
      exact fun s hs => hb s (List.mem_reverse.1 hs)
    · exact ih h hb
    · split at h
      · cases h
      · rename_i s more hs
        exact ih h (List.forall_mem_cons.2 ⟨distinct_statement hs, hb⟩)

theorem distinct_sections {ss : List Statement} (h : ∀ s ∈ ss, s.Distinct) :
    (∀ p ∈ (sections ss).1, p.2.Distinct) ∧ ∀ s ∈ (sections ss).2, ∀ p ∈ s.pairs, p.2.Distinct := by
  induction ss with
  | nil => exact ⟨List.forall_mem_nil _, List.forall_mem_nil _⟩
  | cons s ss ih =>
    obtain ⟨hs, hss⟩ := List.forall_mem_cons.1 h
    obtain ⟨htop, hmore⟩ := ih hss
    cases s with
    | pair k v => exact ⟨List.forall_mem_cons.2 ⟨hs, htop⟩, hmore⟩
    | header header => exact ⟨List.forall_mem_nil _, List.forall_mem_cons.2 ⟨htop, hmore⟩⟩

namespace Document

theorem Builds.distinct {pairs : List (Key × Value)} {sections : List Section} {ms : Node.Members}
    (h : Builds pairs sections ms) (hp : ∀ p ∈ pairs, p.2.Distinct)
    (hs : ∀ s ∈ sections, ∀ p ∈ s.pairs, p.2.Distinct) : Node.Distinct ms := by
  induction h with
  | top hf => exact hf.distinct hp Node.distinct_nil
  | place _ hw ih =>
    obtain ⟨hbefore, hlast⟩ := List.forall_mem_append.1 hs
    have hpairs := hlast _ (List.mem_singleton_self _)
    exact hw.distinct (fun _ _ ho => ho.distinct hpairs) (ih hbefore)

theorem distinct_read {text : List Char} {d : Document} (h : read text = .ok d) : (Value.table d).Distinct := by
  obtain ⟨pairs, secs, ms, hdivide, hbuilds, rfl⟩ := builds_of_read h
  obtain ⟨ss, hs, hdivide⟩ := bind_eq_ok_iff.1 hdivide
  obtain ⟨htop, hsections⟩ := distinct_sections (distinct_statements hs (List.forall_mem_nil _))
  rw [Except.ok.inj hdivide] at htop hsections
  exact hbuilds.distinct htop hsections

end Document

end HookGate.Toml
