import HookGate.Proofs.Arguments

/-!
# The grammar of the arguments

Arguments are tokens in one way only (`Token.ofList_eq_iff`), and a loop over their
indices reads the same tokens without ever leaving the list (`readFrom_eq`). Of the
tokens only the options that are set and the last path count: `ofList_grammar` says so
for each option, and that neither number nor order matters otherwise.
-/

namespace HookGate.Cli

/-! ## One way to read -/

namespace Token

/-- Tokens as they come out of arguments: an option stands before its value, and one without a value at the end. -/
inductive WellFormed : List Token → Prop
  | nil : WellFormed []
  | pair {option value ts} : isConfigOption option = true → WellFormed ts → WellFormed (pair option value :: ts)
  | single {argument ts} : isConfigOption argument = false → WellFormed ts → WellFormed (single argument :: ts)
  | dangling {option} : isConfigOption option = true → WellFormed [dangling option]

theorem wellFormed_ofList (args : List String) : WellFormed (ofList args) := by
  fun_induction ofList args with
  | case1 => exact .nil
  | case2 a ha => exact .dangling ha
  | case3 a ha => exact .single (Bool.not_eq_true _ ▸ ha) .nil
  | case4 a b rest ha ih => exact .pair ha ih
  | case5 a b rest ha ih => exact .single (Bool.not_eq_true _ ▸ ha) ih

theorem ofList_toList {ts : List Token} (h : WellFormed ts) : ofList (toList ts) = ts := by
  induction h with
  | nil => rfl
  | pair ho _ ih => rw [toList, ofList_pair ho, ih]
  | single ha _ ih => rw [toList, ofList_single ha, ih]
  | dangling ho => rw [toList, toList, ofList, if_pos ho]

theorem ofList_eq_iff {args : List String} {ts : List Token} : ofList args = ts ↔ WellFormed ts ∧ toList ts = args := by
  refine ⟨fun h => ?_, fun h => ?_⟩
  · rw [← h]
    exact ⟨wellFormed_ofList args, toList_ofList args⟩
  · obtain ⟨hw, rfl⟩ := h
    exact ofList_toList hw

/-- Only the last token can be a dangling option, so one that others follow can stand before others as well. -/
theorem WellFormed.of_cons {t : Token} {ts : List Token} (h : WellFormed (t :: ts)) (hne : ts ≠ []) :
    WellFormed ts ∧ ∀ {rest}, WellFormed rest → WellFormed (t :: rest) := by
  cases h with
  | pair ho h => exact ⟨h, .pair ho⟩
  | single ha h => exact ⟨h, .single ha⟩
  | dangling _ => exact absurd rfl hne

theorem WellFormed.erase {before after : List Token} {t : Token} (h : WellFormed (before ++ t :: after)) :
    WellFormed (before ++ after) := by
  induction before with
  | nil =>
    cases h with
    | pair _ h => exact h
    | single _ h => exact h
    | dangling _ => exact .nil
  | cons u before ih =>
    obtain ⟨hrest, hcons⟩ := h.of_cons (by simp)
    exact hcons (ih hrest)

theorem WellFormed.insert {before after : List Token} {t : Token} {argument : String}
    (ha : isConfigOption argument = false) (h : WellFormed (before ++ t :: after)) :
    WellFormed (before ++ .single argument :: t :: after) := by
  induction before with
  | nil => exact .single ha h
  | cons u before ih =>
    obtain ⟨hrest, hcons⟩ := h.of_cons (by simp)
    exact hcons (ih hrest)

theorem toList_append (before after : List Token) : toList (before ++ after) = toList before ++ toList after := by
  induction before with
  | nil => rfl
  | cons t before ih => cases t <;> simp [toList, ih]

theorem mem_toList {ts : List Token} {argument : String} (h : single argument ∈ ts) : argument ∈ toList ts := by
  obtain ⟨before, after, rfl⟩ := List.append_of_mem h
  simp [toList_append, toList]

end Token

namespace Arguments

/-- The loop over the indices of the arguments, of which each read could miss. -/
def readFrom (args : List String) (i : Nat) (a : Arguments) : Option Arguments :=
  if i < args.length then
    match args[i]? with
    | none => none
    | some argument =>
      if isConfigOption argument then
        if i + 1 < args.length then
          match args[i + 1]? with
          | none => none
          | some value => readFrom args (i + 2) (a.withPath (some value))
        else readFrom args (i + 1) a
      else readFrom args (i + 1) (a.addSingle argument)
  else some a
termination_by args.length - i

theorem drop_of_getElem? {args : List String} {i : Nat} {argument : String} (h : args[i]? = some argument) :
    args.drop i = argument :: args.drop (i + 1) := by
  obtain ⟨hi, rfl⟩ := List.getElem?_eq_some_iff.1 h
  exact List.drop_eq_getElem_cons hi

theorem readFrom_eq (args : List String) (i : Nat) (a : Arguments) :
    readFrom args i a = some ((Token.ofList (args.drop i)).foldl add a) := by
  -- one case for each way through the loop; the first two are reads that would miss
  fun_induction readFrom args i a with
  | case1 i a hi hmiss => exact absurd (List.getElem?_eq_none_iff.1 hmiss) (by omega)
  | case2 i a hi argument hread ho hnext hmiss => exact absurd (List.getElem?_eq_none_iff.1 hmiss) (by omega)
  | case3 i a hi argument hread ho hnext value hvalue ih =>
    rw [ih, drop_of_getElem? hread, drop_of_getElem? hvalue, Token.ofList_pair ho]
    rfl
  | case4 i a hi argument hread ho hnext ih =>
    have hend : args.drop (i + 1) = [] := List.drop_eq_nil_iff.2 (by omega)
    rw [ih, drop_of_getElem? hread, hend, Token.ofList, Token.ofList, if_pos ho]
    rfl
  | case5 i a hi argument hread ho ih =>
    rw [Bool.not_eq_true] at ho
    rw [ih, drop_of_getElem? hread, Token.ofList_single ho]
    rfl
  | case6 i a hi =>
    rw [List.drop_eq_nil_iff.2 (by omega)]
    rfl

/-! ## What tokens say -/

inductive Flag where
  | help
  | version
  | dryRun
  | failClosed
  | listRules
  | printConfig
  deriving DecidableEq, Repr

def Flag.spellings : Flag → List String
  | help => ["-h", "--help"]
  | version => ["-v", "--version"]
  | dryRun => ["-d", "--dry-run"]
  | failClosed => ["--fail-closed"]
  | listRules => ["--list-rules"]
  | printConfig => ["--print-config"]

def has (a : Arguments) : Flag → Bool
  | .help => a.help
  | .version => a.version
  | .dryRun => a.dryRun
  | .failClosed => a.failClosed
  | .listRules => a.listRules
  | .printConfig => a.printConfig

theorem eq_of_has {a b : Arguments} (hflags : ∀ f, a.has f = b.has f) (hpath : a.configPath = b.configPath) : a = b := by
  have hhelp := hflags .help
  have hversion := hflags .version
  have hdryRun := hflags .dryRun
  have hfailClosed := hflags .failClosed
  have hlistRules := hflags .listRules
  have hprintConfig := hflags .printConfig
  cases a
  cases b
  simp_all only [has]

theorem has_withPath (a : Arguments) (path : Option String) (f : Flag) : (a.withPath path).has f = a.has f := by
  cases f <;> rfl

theorem joinedPath?_of_mem_spellings {f : Flag} {word : String} (h : word ∈ f.spellings) : joinedPath? word = none := by
  revert word
  cases f <;> decide

theorem has_addSingle (a : Arguments) (argument : String) (f : Flag) :
    (a.addSingle argument).has f = (a.has f || decide (argument ∈ f.spellings)) := by
  unfold addSingle
  split
  case h_10 =>
    have hno : decide (argument ∈ f.spellings) = false := by
      cases f <;> simp_all [Flag.spellings]
    rw [hno, Bool.or_false]
    cases joinedPath? argument with
    | none => rfl
    | some path => exact a.has_withPath (some path) f
  all_goals cases f <;> simp [has, Flag.spellings]

theorem has_add (a : Arguments) (t : Token) (f : Flag) :
    (a.add t).has f = true ↔ a.has f = true ∨ ∃ word ∈ f.spellings, t = .single word := by
  cases t with
  | pair option value =>
    have hsame : (a.add (.pair option value)).has f = a.has f := a.has_withPath (some value) f
    simp [hsame]
  | single argument => simp [add, has_addSingle]
  | dangling option => simp [add]

theorem has_foldl_add (ts : List Token) (a : Arguments) (f : Flag) :
    (ts.foldl add a).has f = true ↔ a.has f = true ∨ ∃ word ∈ f.spellings, .single word ∈ ts := by
  induction ts generalizing a with
  | nil => simp
  | cons t ts ih =>
    rw [List.foldl_cons, ih, has_add]
    simp only [List.mem_cons, eq_comm (b := t), and_or_left, exists_or, or_assoc]

theorem has_ofTokens (ts : List Token) (f : Flag) :
    (ofTokens ts).has f = true ↔ ∃ word ∈ f.spellings, .single word ∈ ts := by
  have hnone : ({} : Arguments).has f = false := by cases f <;> rfl
  simp [ofTokens, has_foldl_add, hnone]

end Arguments

/-! ## What gives a path -/

namespace Token

inductive Gives : Token → String → Prop
  | pair {option value} : Gives (pair option value) value
  | joined {value} : Gives (single ("--config=" ++ value)) value

def isGiving : Token → Bool
  | pair _ _ => true
  | single argument => configLead.isPrefixOf argument.toList
  | dangling _ => false

theorem isSome_path? (t : Token) : t.path?.isSome = t.isGiving := by
  cases t with
  | single argument =>
    simp only [path?, joinedPath?, isGiving]
    cases configLead.isPrefixOf argument.toList <;> rfl
  | _ => rfl

theorem exists_joined {argument : String} (h : configLead <+: argument.toList) :
    ∃ value, argument = "--config=" ++ value := by
  obtain ⟨rest, hrest⟩ := h
  refine ⟨String.ofList rest, String.toList_injective ?_⟩
  rw [String.toList_append, ← hrest]
  exact congrArg (configLead ++ ·) String.toList_ofList.symm

theorem isGiving_iff {t : Token} : t.isGiving = true ↔ ∃ path, t.Gives path := by
  refine ⟨fun h => ?_, fun ⟨path, h⟩ => ?_⟩
  · cases t with
    | pair option value => exact ⟨value, .pair⟩
    | dangling option => cases h
    | single argument =>
      obtain ⟨value, rfl⟩ := exists_joined (List.isPrefixOf_iff_prefix.1 h)
      exact ⟨value, .joined⟩
  · cases h with
    | pair => rfl
    | joined =>
      rw [isGiving, List.isPrefixOf_iff_prefix, String.toList_append]
      exact List.prefix_append configLead _

section
variable {t : Token} (h : ∀ argument, t = single argument → ¬ "--config=--config=".toList <+: argument.toList)
include h

theorem path?_eq_some_iff {path : String} : t.path? = some path ↔ t.Gives path := by
  have hjoined {value : String} (ht : t = single ("--config=" ++ value)) :
      joinedPath? ("--config=" ++ value) = some value := by
    obtain ⟨path, hpath, hself⟩ := joinedPath?_append value
    rw [hpath, hself.2 fun hlead => h _ ht ?_]
    rw [String.toList_append]
    exact (List.prefix_append_right_inj configLead).2 hlead
  refine ⟨fun hp => ?_, fun hg => ?_⟩
  · cases t with
    | pair option value => cases hp; exact .pair
    | dangling option => cases hp
    | single argument =>
      have hgiving := isSome_path? (single argument)
      rw [hp] at hgiving
      obtain ⟨value, rfl⟩ := exists_joined (List.isPrefixOf_iff_prefix.1 hgiving.symm)
      rw [path?, hjoined rfl] at hp
      cases hp
      exact .joined
  · cases hg with
    | pair => rfl
    | joined => exact hjoined rfl

theorem path?_eq_none_iff : t.path? = none ↔ ∀ path, ¬ t.Gives path := by
  simp only [Option.eq_none_iff_forall_ne_some, ne_eq, path?_eq_some_iff h]

end

end Token

theorem lastPath?_eq_none_iff {ts : List Token} : lastPath? ts = none ↔ ∀ t ∈ ts, t.path? = none := by
  simp [lastPath?]

theorem lastPath?_eq_some_iff {ts : List Token} {path : String} :
    lastPath? ts = some path ↔
      ∃ before t after, ts = before ++ t :: after ∧ t.path? = some path ∧ ∀ u ∈ after, u.path? = none := by
  rw [lastPath?, List.getLast?_eq_some_iff]
  refine ⟨fun h => ?_, fun h => ?_⟩
  · obtain ⟨paths, hpaths⟩ := h
    obtain ⟨before, rest, rfl, -, hrest⟩ := List.filterMap_eq_append_iff.1 hpaths
    obtain ⟨between, t, after, rfl, -, ht, hafter⟩ := List.filterMap_eq_cons_iff.1 hrest
    exact ⟨before ++ between, t, after, by rw [List.append_assoc], ht, List.filterMap_eq_nil_iff.1 hafter⟩
  · obtain ⟨before, t, after, rfl, ht, hafter⟩ := h
    refine ⟨before.filterMap Token.path?, ?_⟩
    rw [List.filterMap_append, List.filterMap_cons_some ht, List.filterMap_eq_nil_iff.2 hafter]

theorem lastPath?_filter (ts : List Token) : lastPath? (ts.filter Token.isGiving) = lastPath? ts := by
  have hsame : (fun t : Token => if t.isGiving = true then t.path? else none) = Token.path? := by
    funext t
    rw [← t.isSome_path?]
    cases t.path? <;> rfl
  rw [lastPath?, List.filterMap_filter, hsame, lastPath?]

/-! ## What arguments say -/

def Unknown (word : String) : Prop :=
  isConfigOption word = false ∧ (∀ f : Arguments.Flag, word ∉ f.spellings) ∧ ¬ "--config=".toList <+: word.toList

inductive Token.Idle : Token → Prop
  | dangling {option} : Idle (dangling option)
  | unknown {word} : Unknown word → Idle (single word)

theorem Token.Idle.path? {t : Token} (h : t.Idle) : t.path? = none := by
  cases h with
  | dangling => rfl
  | unknown hw =>
    have hlead : ¬ configLead <+: _ := hw.2.2
    rw [Token.path?, joinedPath?, if_neg (mt List.isPrefixOf_iff_prefix.1 hlead)]

theorem Token.Idle.ne_single {t : Token} (h : t.Idle) {f : Arguments.Flag} {word : String} (hw : word ∈ f.spellings) :
    t ≠ single word := by
  rintro rfl
  cases h with
  | unknown h => exact h.2.1 f hw

namespace Arguments

theorem ofTokens_congr {ts ts' : List Token}
    (hflags : ∀ f : Flag, ∀ word ∈ f.spellings, .single word ∈ ts' ↔ .single word ∈ ts)
    (hpath : lastPath? ts' = lastPath? ts) : ofTokens ts' = ofTokens ts := by
  refine eq_of_has (fun f => ?_) ?_
  · rw [Bool.eq_iff_iff, has_ofTokens, has_ofTokens]
    exact exists_congr fun word => and_congr_right fun hw => hflags f word hw
  · rw [configPath_ofTokens, configPath_ofTokens, hpath]

theorem ofTokens_erase {before after : List Token} {t : Token} (h : t.Idle) :
    ofTokens (before ++ after) = ofTokens (before ++ t :: after) := by
  refine ofTokens_congr (fun f word hw => ?_) ?_
  · have hne := (h.ne_single hw).symm
    simp [hne]
  · simp [lastPath?, h.path?]

theorem ofList_toList {ts : List Token} (h : Token.WellFormed ts) : ofList (Token.toList ts) = ofTokens ts := by
  rw [ofList, Token.ofList_toList h]

/-- Arguments are tokens in one way, and a loop over their indices reads them to the end. Each option is set just when
one of its spellings stands by itself. The path is that of the last token which gives one, unless an argument repeats
its option. What is unknown, or an option that waits for its value at the end, might as well not be there; options may
come in any number and order around the tokens that give a path. -/
theorem ofList_grammar (args : List String) :
    ∃ ts, Token.WellFormed ts ∧ Token.toList ts = args ∧
      (∀ other, Token.WellFormed other → Token.toList other = args → other = ts) ∧
      (∀ program, readFrom (program :: args) 1 {} = some (ofList args)) ∧
      (∀ f : Flag, (ofList args).has f = true ↔ ∃ word ∈ f.spellings, .single word ∈ ts) ∧
      ((∀ argument ∈ args, ¬ "--config=--config=".toList <+: argument.toList) →
        (∀ path, (ofList args).configPath = some path ↔
          ∃ before t after, ts = before ++ t :: after ∧ t.Gives path ∧ ∀ u ∈ after, ∀ other, ¬ u.Gives other) ∧
        ((ofList args).configPath = none ↔ ∀ t ∈ ts, ∀ path, ¬ t.Gives path)) ∧
      (∀ before t after, ts = before ++ t :: after → t.Idle →
        ofList (Token.toList (before ++ after)) = ofList args) ∧
      (∀ before t after word, ts = before ++ t :: after → Unknown word →
        ofList (Token.toList before ++ word :: Token.toList (t :: after)) = ofList args) ∧
      ∀ ts', Token.WellFormed ts' → ts'.filter Token.isGiving = ts.filter Token.isGiving →
        (∀ t, t.isGiving = false → ¬ t.Idle → (t ∈ ts' ↔ t ∈ ts)) → ofList (Token.toList ts') = ofList args := by
  obtain ⟨hw, hargs⟩ := Token.ofList_eq_iff.1 (rfl : Token.ofList args = Token.ofList args)
  refine ⟨Token.ofList args, hw, hargs, fun other ho h => (Token.ofList_eq_iff.2 ⟨ho, h⟩).symm, fun program => ?_,
    has_ofTokens _, fun hlead => ?path, fun before t after hts hidle => ?idle,
    fun before t after word hts hword => ?unknown, fun ts' hw' hgiving hothers => ?others⟩
  · rw [readFrom_eq]
    rfl
  -- a joined argument gives its value as it stands only if the lead is not repeated, hence `hsingle`
  case path =>
    have hsingle : ∀ t ∈ Token.ofList args, ∀ argument, t = .single argument →
        ¬ "--config=--config=".toList <+: argument.toList := by
      rintro t ht argument rfl
      exact hlead argument (hargs ▸ Token.mem_toList ht)
    rw [configPath_ofList]
    refine ⟨fun path => ?_, ?_⟩
    · rw [lastPath?_eq_some_iff]
      refine exists_congr fun before => exists_congr fun t => exists_congr fun after => and_congr_right fun hts => ?_
      rw [hts] at hsingle
      rw [Token.path?_eq_some_iff (hsingle t (by simp))]
      exact and_congr_right fun _ => forall₂_congr fun u hu => Token.path?_eq_none_iff (hsingle u (by simp [hu]))
    · rw [lastPath?_eq_none_iff]
      exact forall₂_congr fun t ht => Token.path?_eq_none_iff (hsingle t ht)
  case idle =>
    rw [hts] at hw
    rw [ofList_toList hw.erase, ofTokens_erase hidle, ← hts]
    rfl
  case unknown =>
    rw [hts] at hw
    have hinsert := hw.insert hword.1
    have hspelled := ofList_toList hinsert
    rw [← ofTokens_erase (.unknown hword), ← hts, Token.toList_append] at hspelled
    exact hspelled
  case others =>
    rw [ofList_toList hw']
    refine ofTokens_congr (fun f word hword => ?_) ?_
    · have hnone := joinedPath?_of_mem_spellings hword
      refine hothers _ ?_ fun hidle => hidle.ne_single hword rfl
      rw [← Token.isSome_path?, Token.path?, hnone]
      rfl
    · rw [← lastPath?_filter ts', hgiving, lastPath?_filter]

/-- An option word that is taken for a value, and an option at the end that has none. -/
theorem ofList_grammar_swallowed :
    let args := ["--config", "--help", "--config=a.toml", "-d", "-c"]
    (∀ argument ∈ args, ¬ "--config=--config=".toList <+: argument.toList) ∧
      (ofList args).has .help = false ∧ (ofList args).configPath = some "a.toml" ∧
      ofList ["-d", "--dry", "--config", "--help", "--config=a.toml", "-d"] = ofList args := by
  intro args
  have hlead : ∀ argument ∈ args, ¬ "--config=--config=".toList <+: argument.toList := by decide
  obtain ⟨ts, -, -, huniq, -, hflags, hpath, -, -, hsame⟩ := ofList_grammar args
  obtain rfl : _ = ts := huniq [.pair "--config" "--help", .single "--config=a.toml", .single "-d", .dangling "-c"]
    (.pair rfl (.single rfl (.single rfl (.dangling rfl)))) rfl
  refine ⟨hlead, ?help, ((hpath hlead).1 _).2 ⟨[_], _, [_, _], rfl, ?given, ?last⟩, ?same⟩
  case help =>
    rw [← Bool.not_eq_true, hflags]
    simp [Flag.spellings]
  case given =>
    have hjoined : "--config=a.toml" = "--config=" ++ "a.toml" := by decide
    rw [hjoined]
    exact .joined
  case last =>
    intro u hu other hgives
    have hgiving := Token.isGiving_iff.2 ⟨other, hgives⟩
    simp only [List.mem_cons, List.not_mem_nil, or_false] at hu
    rcases hu with rfl | rfl
    · revert hgiving; decide
    · cases hgiving
  case same =>
    refine hsame [.single "-d", .single "--dry", .pair "--config" "--help", .single "--config=a.toml", .single "-d"]
      (.single rfl (.single rfl (.pair rfl (.single rfl (.single rfl .nil))))) (by decide) fun t _ hidle => ?_
    have hunknown : Unknown "--dry" := ⟨rfl, fun f => by cases f <;> decide, by decide⟩
    have hdry : t ≠ .single "--dry" := by
      rintro rfl
      exact hidle (.unknown hunknown)
    have hdangling : t ≠ .dangling "-c" := by
      rintro rfl
      exact hidle .dangling
    simp only [List.mem_cons, List.not_mem_nil, or_false, hdry, hdangling, false_or]
    tauto

end Arguments

end HookGate.Cli
