import HookGate.Proofs.Pattern.Languages
import HookGate.Proofs.RuleTable

/-!
# The built-in rules

The verdicts of the two built-in tables, on any command and on any path and text, by
the languages of their patterns.
-/

/-!
## The built-in command table

Each built-in command pattern is a row between word boundaries, so what it finds is
a stretch of one language with no word character beside it. The verdict on any
command follows from the four languages (`checkCommand_builtin`).
-/

namespace HookGate

open Pattern

/-! ### What the patterns denote -/

namespace CommandRule

def rmRf : Phrase := .exactly "rm" ++ .spacing ++ .exactly "-rf"

def gitPushForce : Phrase :=
  .exactly "git" ++ .spacing ++ .exactly "push" ++ .spacing ++ .oneLine ++ .exactly "--force"

def gitResetHard : Phrase := .exactly "git" ++ .spacing ++ .exactly "reset" ++ .spacing ++ .exactly "--hard"

def sudoWord : Phrase := .exactly "sudo"

theorem denotes_builtin :
    Denotes false "\\brm\\s+-rf\\b" rmRf.asWords ∧
      Denotes false "\\bgit\\s+push\\s+.*--force\\b" gitPushForce.asWords ∧
      Denotes false "\\bgit\\s+reset\\s+--hard\\b" gitResetHard.asWords ∧
      Denotes false "\\bsudo\\b" sudoWord.asWords := by
  decide +kernel

/-! ### What the patterns find -/

section
variable (text : String)

theorem finds_rmRf :
    Finds false "\\brm\\s+-rf\\b" text ↔
      Occurs NoWord (exactly "rm" * spacing * exactly "-rf") NoWord text.toList := by
  have hstart : StartsWithWord (exactly "rm") := startsWithWord_exactly (c := 'r') rfl (by decide)
  have hend : EndsWithWord (exactly "-rf") := endsWithWord_exactly (c := 'f') rfl (by decide)
  refine (denotes_builtin.1.finds_iff text).trans (rmRf.foundIn_asWords _ ?_ ?_)
  · exact (hstart.mul _).mul _
  · exact hend.mul _

theorem finds_gitPushForce :
    Finds false "\\bgit\\s+push\\s+.*--force\\b" text ↔
      Occurs NoWord (exactly "git" * spacing * exactly "push" * spacing * oneLine * exactly "--force") NoWord
        text.toList := by
  have hstart : StartsWithWord (exactly "git") := startsWithWord_exactly (c := 'g') rfl (by decide)
  have hend : EndsWithWord (exactly "--force") := endsWithWord_exactly (c := 'e') rfl (by decide)
  refine (denotes_builtin.2.1.finds_iff text).trans (gitPushForce.foundIn_asWords _ ?_ ?_)
  · exact ((((hstart.mul _).mul _).mul _).mul _).mul _
  · exact hend.mul _

theorem finds_gitResetHard :
    Finds false "\\bgit\\s+reset\\s+--hard\\b" text ↔
      Occurs NoWord (exactly "git" * spacing * exactly "reset" * spacing * exactly "--hard") NoWord
        text.toList := by
  have hstart : StartsWithWord (exactly "git") := startsWithWord_exactly (c := 'g') rfl (by decide)
  have hend : EndsWithWord (exactly "--hard") := endsWithWord_exactly (c := 'd') rfl (by decide)
  refine (denotes_builtin.2.2.1.finds_iff text).trans (gitResetHard.foundIn_asWords _ ?_ ?_)
  · exact (((hstart.mul _).mul _).mul _).mul _
  · exact hend.mul _

theorem finds_sudo : Finds false "\\bsudo\\b" text ↔ Occurs NoWord (exactly "sudo") NoWord text.toList := by
  have hstart : StartsWithWord (exactly "sudo") := startsWithWord_exactly (c := 's') rfl (by decide)
  have hend : EndsWithWord (exactly "sudo") := endsWithWord_exactly (c := 'o') rfl (by decide)
  exact (denotes_builtin.2.2.2.finds_iff text).trans (sudoWord.foundIn_asWords _ hstart hend)

end

end CommandRule

/-! ### The verdict -/

open Classical in
/-- The verdict of the built-in rules on any command. -/
theorem RuleSet.checkCommand_builtin (command : String) :
    RuleSet.builtin.checkCommand command =
      if Occurs NoWord (exactly "rm" * spacing * exactly "-rf") NoWord command.toList then
        .block "rm-rf" "[safety rule] rm -rf is forbidden"
      else if Occurs NoWord (exactly "git" * spacing * exactly "push" * spacing * oneLine * exactly "--force")
          NoWord command.toList then
        .block "git-push-force" "[safety rule] git push --force is forbidden"
      else if Occurs NoWord (exactly "git" * spacing * exactly "reset" * spacing * exactly "--hard") NoWord
          command.toList then
        .block "git-reset-hard" "[safety rule] git reset --hard is forbidden"
      else if Occurs NoWord (exactly "sudo") NoWord command.toList then
        .block "sudo" "[safety rule] sudo is forbidden"
      else .allow := by
  rw [checkCommand_eq_foldr compile_builtin]
  simp only [CommandRule.builtin, List.foldr]
  refine if_congr (CommandRule.finds_rmRf command) rfl ?_
  refine if_congr (CommandRule.finds_gitPushForce command) rfl ?_
  refine if_congr (CommandRule.finds_gitResetHard command) rfl ?_
  exact if_congr (CommandRule.finds_sudo command) rfl rfl

/-!
## The built-in content table

The path pattern of a built-in content rule is a row of folder names with a
separator after each, in any case, but for one that every governed path matches.
The verdict on any governed path and text follows from the languages of the ten
patterns (`checkContent_builtin`).
-/

open Pattern Text

/-! ### Folders -/

namespace Pattern

def separator : Language Char := exactly "/" + exactly "\\"

/-- Folders one in another, a separator after each, up to the case of their names. -/
def folders : List String → Language Char
  | [] => 1
  | name :: names => inAnyCase name * separator * folders names

theorem variants_separators :
    variants '/'.toNat = ['/'.toNat, '/'.toNat] ∧ variants '\\'.toNat = ['\\'.toNat, '\\'.toNat] := by
  decide +kernel

theorem contains_folded_separator_iff {c : Char} :
    (CharSet.folded (.union (.single '/') (.single '\\'))).contains c = true ↔ c = '/' ∨ c = '\\' := by
  obtain ⟨hslash, hback⟩ := variants_separators
  rw [CharSet.contains_folded_union, Bool.or_eq_true, CharSet.contains_folded_single_iff,
    CharSet.contains_folded_single_iff, foldEq_iff_eq hslash, foldEq_iff_eq hback]

namespace Phrase

def separator : Phrase :=
  ⟨[.chars (.folded (.union (.single '/') (.single '\\')))], Pattern.separator, by
    rw [rowMatches_one, matches_chars]
    apply Stretches.ext
    intro p w q
    rw [Stretches.ofLanguage_iff]
    simp only [contains_folded_separator_iff, and_or_left, exists_or, exists_eq_right]
    rfl⟩

def folders : List String → Phrase
  | [] => ⟨[], 1, Stretches.ofLanguage_one.symm⟩
  | name :: names => .inAnyCase name ++ .separator ++ folders names

end Phrase

/-- The folders stand somewhere in the path; what comes before may be part of the first name. -/
def GoesThrough (names : List String) (path : String) : Prop :=
  Occurs Anything (folders names) Anything path.toList

theorem finds_folders {source : String} {names : List String}
    (h : Denotes true source (Phrase.folders names).anywhere) (path : String) :
    Finds true source path ↔ GoesThrough names path := by
  have hlang : (Phrase.folders names).language = folders names := by
    clear h
    induction names with
    | nil => rfl
    | cons name names ih => exact congrArg (inAnyCase name * separator * ·) ih
  rw [h.finds_iff, Phrase.foundIn_anywhere, hlang]
  rfl

end Pattern

/-! ### What the patterns denote -/

namespace ContentRule

def service : Phrase := .exactly "@" ++ .either (.exactly "Service") (.exactly "Component")

def transactional : Phrase := .exactly "@Transactional"

def suspendFun : Phrase := .exactly "suspend" ++ .spacing ++ .exactly "fun"

def reactiveType : Phrase := .either (.exactly "Mono") (.exactly "Flux") ++ .exactly "<"

def dispatchersIO : Phrase := .exactly "Dispatchers.IO"

/-- A row for a suffix of the path, in any case. -/
def atEnd (suffix : String) : Expr := .row ((Phrase.inAnyCase suffix).parts ++ [.look .textEnd])

theorem denotes_paths :
    Denotes true "application[/\\\\]service[/\\\\]" (Phrase.folders ["application", "service"]).anywhere ∧
      Denotes true "\\.kt$" (atEnd ".kt") ∧
      Denotes true "domain[/\\\\]model[/\\\\]" (Phrase.folders ["domain", "model"]).anywhere ∧
      Denotes true "domain[/\\\\]" (Phrase.folders ["domain"]).anywhere ∧
      Denotes true "adapter[/\\\\]out[/\\\\]persistence[/\\\\]"
        (Phrase.folders ["adapter", "out", "persistence"]).anywhere := by
  decide +kernel

theorem denotes_patterns :
    Denotes false "@(Service|Component)\\b" service.endingWord ∧
      Denotes false "@Transactional\\b" transactional.endingWord ∧
      Denotes false "\\bsuspend\\s+fun\\b" suspendFun.asWords ∧
      Denotes false "\\b(Mono|Flux)<" reactiveType.startingWord ∧
      Denotes false "Dispatchers\\.IO\\b" dispatchersIO.endingWord := by
  decide +kernel

/-! ### What the patterns find -/

theorem finds_suffix {path : String} (h : ".kt".toList <:+ path.toList) : Finds true "\\.kt$" path := by
  obtain ⟨u, hu⟩ := h
  refine (denotes_paths.2.1.finds_iff path).2 ⟨u, ".kt".toList, [], ?_, ?_⟩
  · rw [List.append_nil, hu]
  · unfold atEnd
    rw [matches_row, rowMatches_append, rowMatches_one, Phrase.rowMatches_parts, matches_look]
    refine ⟨".kt".toList, [], rfl, Stretches.ofLanguage_iff.2 ?_, rfl, rfl⟩
    exact List.forall₂_same.2 fun c _ => FoldEq.refl c

section
variable (text : String)

theorem finds_service :
    Finds false "@(Service|Component)\\b" text ↔
      Occurs Anything (exactly "@Service" + exactly "@Component") NoWord text.toList := by
  have hlang : service.language = exactly "@Service" + exactly "@Component" := by
    show exactly "@" * (exactly "Service" + exactly "Component") = _
    rw [mul_add, exactly_append, exactly_append]
    rfl
  have hservice : EndsWithWord (exactly "@Service") := endsWithWord_exactly (c := 'e') rfl (by decide)
  have hcomponent : EndsWithWord (exactly "@Component") := endsWithWord_exactly (c := 't') rfl (by decide)
  rw [← hlang]
  refine (denotes_patterns.1.finds_iff text).trans (service.foundIn_endingWord _ ?_)
  rw [hlang]
  exact hservice.add hcomponent

theorem finds_transactional :
    Finds false "@Transactional\\b" text ↔
      Occurs Anything (exactly "@Transactional") NoWord text.toList := by
  have hend : EndsWithWord (exactly "@Transactional") := endsWithWord_exactly (c := 'l') rfl (by decide)
  exact (denotes_patterns.2.1.finds_iff text).trans (transactional.foundIn_endingWord _ hend)

theorem finds_suspendFun :
    Finds false "\\bsuspend\\s+fun\\b" text ↔
      Occurs NoWord (exactly "suspend" * spacing * exactly "fun") NoWord text.toList := by
  have hstart : StartsWithWord (exactly "suspend") := startsWithWord_exactly (c := 's') rfl (by decide)
  have hend : EndsWithWord (exactly "fun") := endsWithWord_exactly (c := 'n') rfl (by decide)
  refine (denotes_patterns.2.2.1.finds_iff text).trans (suspendFun.foundIn_asWords _ ?_ ?_)
  · exact (hstart.mul _).mul _
  · exact hend.mul _

theorem finds_reactiveType :
    Finds false "\\b(Mono|Flux)<" text ↔
      Occurs NoWord (exactly "Mono<" + exactly "Flux<") Anything text.toList := by
  have hlang : reactiveType.language = exactly "Mono<" + exactly "Flux<" := by
    show (exactly "Mono" + exactly "Flux") * exactly "<" = _
    rw [add_mul, exactly_append, exactly_append]
    rfl
  have hmono : StartsWithWord (exactly "Mono<") := startsWithWord_exactly (c := 'M') rfl (by decide)
  have hflux : StartsWithWord (exactly "Flux<") := startsWithWord_exactly (c := 'F') rfl (by decide)
  rw [← hlang]
  refine (denotes_patterns.2.2.2.1.finds_iff text).trans (reactiveType.foundIn_startingWord _ ?_)
  rw [hlang]
  exact hmono.add hflux

theorem finds_dispatchersIO :
    Finds false "Dispatchers\\.IO\\b" text ↔
      Occurs Anything (exactly "Dispatchers.IO") NoWord text.toList := by
  have hend : EndsWithWord (exactly "Dispatchers.IO") := endsWithWord_exactly (c := 'O') rfl (by decide)
  exact (denotes_patterns.2.2.2.2.finds_iff text).trans (dispatchersIO.foundIn_endingWord _ hend)

end

end ContentRule

/-! ### The verdict -/

open Classical in
/-- The verdict of the built-in rules on any path and text. -/
theorem RuleSet.checkContent_builtin (path text : String) :
    RuleSet.builtin.checkContent path text =
      if text = "" ∨ ¬ ".kt".toList <:+ path.toList then .allow
      else if GoesThrough ["application", "service"] path ∧
          Occurs Anything (exactly "@Service" + exactly "@Component") NoWord text.toList then
        .block "service-annotation"
          ("[convention violation] " ++ "@Service/@Component is forbidden in application/service/" ++
            "\nsuggested: " ++ "declare the bean with @Bean inside a @Configuration class")
      else if Occurs Anything (exactly "@Transactional") NoWord text.toList then
        .block "transactional-annotation"
          ("[convention violation] " ++ "@Transactional is forbidden" ++
            "\nsuggested: " ++ "use transactionExecutor.execute \x7b \x7d (see CLAUDE.md)")
      else if GoesThrough ["domain", "model"] path ∧
          Occurs NoWord (exactly "suspend" * spacing * exactly "fun") NoWord text.toList then
        .block "suspend-in-domain-model"
          ("[convention violation] " ++ "suspend fun is forbidden in domain/model/" ++
            "\nsuggested: " ++ "keep domain models pure; do I/O in the port/adapter layers")
      else if GoesThrough ["domain"] path ∧
          Occurs NoWord (exactly "Mono<" + exactly "Flux<") Anything text.toList then
        .block "reactive-in-domain"
          ("[convention violation] " ++ "Mono/Flux is forbidden in domain/" ++
            "\nsuggested: " ++ "return from a suspend fun instead (coroutine-native)")
      else if GoesThrough ["adapter", "out", "persistence"] path ∧
          Occurs Anything (exactly "Dispatchers.IO") NoWord text.toList then
        .block "dispatchers-io-in-persistence"
          ("[convention violation] " ++ "Dispatchers.IO is forbidden in adapter/out/persistence/" ++
            "\nsuggested: " ++ "R2DBC is already non-blocking; withContext(Dispatchers.IO) is unnecessary")
      else .allow := by
  by_cases ht : text = ""
  · rw [if_pos (.inl ht), ht]
    exact checkContent_empty path
  by_cases hp : ".kt".toList <:+ path.toList
  · rw [if_neg (not_or.2 ⟨ht, not_not.2 hp⟩), checkContent_eq_foldr compile_builtin hp ht]
    simp only [ContentRule.builtin, List.foldr]
    obtain ⟨hservice, -, hmodel, hdomain, hpersistence⟩ := ContentRule.denotes_paths
    refine if_congr (and_congr (finds_folders hservice path) (ContentRule.finds_service text)) rfl ?_
    -- the path pattern of the second rule asks for the suffix only, which a governed path has
    have hsuffix := ContentRule.finds_suffix hp
    refine if_congr ((and_iff_right hsuffix).trans (ContentRule.finds_transactional text)) rfl ?_
    refine if_congr (and_congr (finds_folders hmodel path) (ContentRule.finds_suspendFun text)) rfl ?_
    refine if_congr (and_congr (finds_folders hdomain path) (ContentRule.finds_reactiveType text)) rfl ?_
    exact if_congr (and_congr (finds_folders hpersistence path) (ContentRule.finds_dispatchersIO text)) rfl rfl
  · rw [if_pos (.inr hp)]
    exact checkContent_of_not_governs compile_builtin hp

end HookGate
