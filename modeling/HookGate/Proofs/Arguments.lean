import HookGate.Cli
import Mathlib.Data.List.Basic

/-!
# What the arguments ask for

Tokens are taken one after the other, so tokens before and after a place have their say
apart from each other (`Token.ofList_append`, `foldl_add_withPath`). The configuration
path is that of the last token which gives one. A value that is joined to its option
counts as the same value after the option, unless it starts with the option once more
(`ofList_config_iff`).
-/

namespace HookGate.Cli

/-! ## Tokens -/

namespace Token

theorem ofList_pair {option : String} (h : isConfigOption option = true) (value : String) (rest : List String) :
    ofList (option :: value :: rest) = pair option value :: ofList rest := by
  rw [ofList, if_pos h]

theorem ofList_single {argument : String} (h : isConfigOption argument = false) (rest : List String) :
    ofList (argument :: rest) = single argument :: ofList rest := by
  have hn : ¬ isConfigOption argument = true := by simp [h]
  cases rest with
  | nil => exact if_neg hn
  | cons b rest => rw [ofList, if_neg hn]

end Token

/-- The last argument is an option that still waits for its value. -/
def EndsWaiting (args : List String) : Prop := ∃ option, Token.dangling option ∈ Token.ofList args

theorem Token.ofList_append {before : List String} (h : ¬ EndsWaiting before) (rest : List String) :
    ofList (before ++ rest) = ofList before ++ ofList rest := by
  unfold EndsWaiting at h
  fun_induction ofList before with
  | case1 => rfl
  | case2 a ha => exact absurd ⟨a, List.mem_cons_self ..⟩ h
  | case3 a ha =>
    rw [Bool.not_eq_true] at ha
    exact ofList_single ha rest
  | case4 a b more ha ih =>
    have hmore : ¬ ∃ option, dangling option ∈ ofList more := by
      rintro ⟨option, ho⟩
      exact h ⟨option, List.mem_cons_of_mem _ ho⟩
    rw [List.cons_append, List.cons_append, ofList_pair ha, ih hmore, List.cons_append]
  | case5 a b more ha ih =>
    have hmore : ¬ ∃ option, dangling option ∈ ofList (b :: more) := by
      rintro ⟨option, ho⟩
      exact h ⟨option, List.mem_cons_of_mem _ ho⟩
    rw [Bool.not_eq_true] at ha
    rw [List.cons_append, ofList_single ha, ih hmore, List.cons_append]

/-! ## Values joined to their option -/

section
variable {lead : List Char}

theorem stripLeads_of_not_lead {cs : List Char} (h : ¬ lead <+: cs) (fuel : Nat) :
    stripLeads lead fuel cs = cs := by
  cases fuel with
  | zero => rfl
  | succ fuel =>
    rw [stripLeads, if_neg]
    rwa [List.isPrefixOf_iff_prefix]

theorem stripLeads_append (fuel : Nat) (cs : List Char) :
    stripLeads lead (fuel + 1) (lead ++ cs) = stripLeads lead fuel cs := by
  rw [stripLeads, if_pos (List.isPrefixOf_iff_prefix.2 (List.prefix_append lead cs)), List.drop_left]

theorem length_stripLeads_le (fuel : Nat) (cs : List Char) : (stripLeads lead fuel cs).length ≤ cs.length := by
  induction fuel generalizing cs with
  | zero => exact Nat.le_refl _
  | succ fuel ih =>
    by_cases h : lead <+: cs
    · obtain ⟨rest, rfl⟩ := h
      have := ih rest
      rw [stripLeads_append, List.length_append]
      omega
    · exact Nat.le_of_eq (by rw [stripLeads_of_not_lead h])

end

/-- What is taken for the path is the value as it stands, unless the value starts with the lead itself, which is
taken off once more. -/
theorem joinedPath?_append (value : String) :
    ∃ path, joinedPath? ("--config=" ++ value) = some path ∧ (path = value ↔ ¬ configLead <+: value.toList) := by
  have hcs : ("--config=" ++ value).toList = configLead ++ value.toList := String.toList_append
  have hfuel : (configLead ++ value.toList).length = value.toList.length + 8 + 1 := by
    rw [List.length_append, Nat.add_comm]; rfl
  refine ⟨String.ofList (stripLeads configLead (value.toList.length + 8) value.toList), ?_, ?_, ?_⟩
  · unfold joinedPath?
    simp only [hcs]
    rw [if_pos (List.isPrefixOf_iff_prefix.2 (List.prefix_append ..)), hfuel, stripLeads_append]
  · -- a value that starts with the lead loses it, and does not get longer afterwards
    rintro hpath ⟨rest, hrest⟩
    have hsame := congrArg String.toList hpath
    rw [String.toList_ofList, ← hrest, stripLeads_append] at hsame
    have hlead : 0 < configLead.length := by decide
    have hle : (configLead ++ rest).length ≤ rest.length := hsame ▸ length_stripLeads_le _ rest
    rw [List.length_append] at hle
    omega
  · intro h
    rw [stripLeads_of_not_lead h, String.ofList_toList]

/-! ## The path among the arguments -/

def Token.path? : Token → Option String
  | pair _ value => some value
  | single argument => joinedPath? argument
  | dangling _ => none

def lastPath? (tokens : List Token) : Option String := (tokens.filterMap Token.path?).getLast?

theorem lastPath?_cons (t : Token) (tokens : List Token) : lastPath? (t :: tokens) = (lastPath? tokens).or t.path? := by
  unfold lastPath?
  cases ht : t.path? with
  | none => rw [List.filterMap_cons_none ht, Option.or_none]
  | some path =>
    rw [List.filterMap_cons_some ht, List.getLast?_cons]
    cases (tokens.filterMap Token.path?).getLast? <;> rfl

namespace Arguments

def withPath (a : Arguments) (path : Option String) : Arguments := { a with configPath := path }

theorem addSingle_withPath (a : Arguments) (path : Option String) (argument : String) :
    (a.withPath path).addSingle argument = (a.addSingle argument).withPath ((joinedPath? argument).or path) := by
  unfold addSingle
  split
  case h_10 =>
    cases joinedPath? argument with
    | none => rfl
    | some value => rfl
  -- the other words are no paths
  all_goals rfl

theorem addSingle_of_joinedPath? {argument path : String} (h : joinedPath? argument = some path) (a : Arguments) :
    a.addSingle argument = a.withPath (some path) := by
  unfold addSingle
  split
  case h_10 => rw [h]; rfl
  all_goals cases h

theorem add_withPath (a : Arguments) (path : Option String) (t : Token) :
    (a.withPath path).add t = (a.add t).withPath (t.path?.or path) := by
  cases t with
  | pair option value => rfl
  | single argument => exact a.addSingle_withPath path argument
  | dangling option => rfl

theorem foldl_add_withPath (tokens : List Token) (a : Arguments) (path : Option String) :
    tokens.foldl add (a.withPath path) = (tokens.foldl add a).withPath ((lastPath? tokens).or path) := by
  induction tokens generalizing a path with
  | nil => rfl
  | cons t tokens ih =>
    rw [List.foldl_cons, List.foldl_cons, add_withPath, ih, lastPath?_cons, Option.or_assoc]

theorem configPath_ofTokens (tokens : List Token) : (ofTokens tokens).configPath = lastPath? tokens := by
  have h := foldl_add_withPath tokens {} none
  rw [Option.or_none] at h
  exact congrArg configPath h

theorem configPath_ofList (args : List String) : (ofList args).configPath = lastPath? (Token.ofList args) :=
  configPath_ofTokens _

theorem withPath_inj {a : Arguments} {path path' : Option String} : a.withPath path = a.withPath path' ↔ path = path' :=
  ⟨congrArg configPath, congrArg a.withPath⟩

/-! ## The two spellings -/

section
variable {before : List String} (hb : ¬ EndsWaiting before) (after : List String)
include hb

theorem ofList_append (rest : List String) :
    ofList (before ++ rest) = (Token.ofList rest).foldl add (ofList before) := by
  unfold ofList ofTokens
  rw [Token.ofList_append hb, List.foldl_append]

/-- The arguments on both sides of a token that gives a path say the same whatever the path. -/
theorem ofList_of_path {here : List String} {t : Token} {path : String}
    (ht : Token.ofList (here ++ after) = t :: Token.ofList after)
    (hadd : ∀ a : Arguments, a.add t = a.withPath (some path)) :
    ofList (before ++ here ++ after) =
      ((Token.ofList after).foldl add (ofList before)).withPath ((ofList after).configPath.or (some path)) := by
  rw [List.append_assoc, ofList_append hb, ht, List.foldl_cons, hadd, foldl_add_withPath, configPath_ofList]

theorem ofList_pair {option : String} (ho : isConfigOption option = true) (value : String) :
    ofList (before ++ [option, value] ++ after) =
      ((Token.ofList after).foldl add (ofList before)).withPath ((ofList after).configPath.or (some value)) :=
  ofList_of_path hb after (Token.ofList_pair ho value after) fun _ => rfl

theorem ofList_joined {argument path : String} (h : joinedPath? argument = some path) :
    ofList (before ++ [argument] ++ after) =
      ((Token.ofList after).foldl add (ofList before)).withPath ((ofList after).configPath.or (some path)) := by
  have ho : isConfigOption argument = false := by
    rw [← Bool.not_eq_true]
    intro ho
    simp only [isConfigOption, Bool.or_eq_true, beq_iff_eq] at ho
    rcases ho with rfl | rfl
    · cases h
    · cases h
  exact ofList_of_path hb after (Token.ofList_single ho after) (addSingle_of_joinedPath? h)

end

/-- After arguments that leave no option waiting, the long option and the short one give the value as the path, and
so does the value joined to its option unless it starts with the joined option itself. A path given later counts in
place of either. -/
theorem ofList_config_iff (before after : List String) (value : String) (hb : ¬ EndsWaiting before) :
    let long := ofList (before ++ ["--config", value] ++ after)
    let joined := ofList (before ++ ["--config=" ++ value] ++ after)
    ofList (before ++ ["-c", value] ++ after) = long ∧
      long.configPath = (ofList after).configPath.or (some value) ∧
      (joined = long ↔ (ofList after).configPath ≠ none ∨ ¬ "--config=".toList <+: value.toList) := by
  intro long joined
  have hlong := ofList_pair hb after (by decide : isConfigOption "--config" = true) value
  have hshort := ofList_pair hb after (by decide : isConfigOption "-c" = true) value
  obtain ⟨path, hpath, hself⟩ := joinedPath?_append value
  have hself : path = value ↔ ¬ "--config=".toList <+: value.toList := hself
  have hjoined := ofList_joined hb after hpath
  refine ⟨hshort.trans hlong.symm, congrArg configPath hlong, ?_⟩
  rw [← hself]
  show ofList _ = ofList _ ↔ _
  rw [hjoined, hlong, withPath_inj]
  cases (ofList after).configPath with
  | none => simp
  | some later => simp

/-- A value that reads like an option, between an option word taken as a value and an option that counts. -/
theorem ofList_config_iff_optionLike :
    let before := ["-c", "--config"]
    ¬ EndsWaiting before ∧
      ofList (before ++ ["--config=--help"] ++ ["--dry-run"]) = { configPath := some "--help", dryRun := true } ∧
      ofList (before ++ ["--config", "--help"] ++ ["--dry-run"]) = { configPath := some "--help", dryRun := true } := by
  intro before
  have hb : ¬ EndsWaiting before := by
    rintro ⟨option, h⟩
    have htokens : Token.ofList before = [.pair "-c" "--config"] := by decide
    rw [htokens] at h
    simp at h
  have hlong : ofList (before ++ ["--config", "--help"] ++ ["--dry-run"]) =
      { configPath := some "--help", dryRun := true } := by decide
  obtain ⟨-, -, hjoined⟩ := ofList_config_iff before ["--dry-run"] "--help" hb
  have hsame := hjoined.2 (.inr (by decide))
  exact ⟨hb, hsame.trans hlong, hlong⟩

/-- A path that starts with the joined option itself is not what the joined form gives. -/
theorem ofList_config_repeated :
    (ofList ["--config", "--config=gate.toml"]).configPath = some "--config=gate.toml" ∧
      (ofList ["-c", "--config=gate.toml"]).configPath = some "--config=gate.toml" ∧
      (ofList ["--config=" ++ "--config=gate.toml"]).configPath = some "gate.toml" ∧
      ofList ["--config=" ++ "--config=gate.toml"] ≠ ofList ["--config", "--config=gate.toml"] := by
  decide

end Arguments

end HookGate.Cli
