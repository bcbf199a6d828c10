import HookGate.Proofs.Except
import HookGate.Toml.Reader

/-!
# The reader of a document makes progress

No reader leaves more of a text than it was given (`reads_no_more`), and a statement
leaves less (`statement_ok`). The fuel that each of them starts with is therefore
enough: with more of it every text is read, or refused, in the same way
(`fuel_enough`).
-/

namespace HookGate.Toml

/-! ## What is left of a text -/

/-! ### Blanks and line ends -/

theorem length_dropBlanks_le (cs : List Char) : (dropBlanks cs).length ≤ cs.length :=
  (List.dropWhile_suffix isBlank).length_le

theorem length_dropComment_le (cs : List Char) : (dropComment cs).length ≤ cs.length := by
  unfold dropComment
  split
  · exact Nat.le_succ_of_le (List.dropWhile_suffix isPlain).length_le
  · exact Nat.le_refl _

theorem newline?_some {cs rest : List Char} (h : newline? cs = some rest) : rest.length < cs.length := by
  unfold newline? at h
  split at h
  · cases h; simp
  · cases h; simp +arith
  · cases h

theorem length_dropLines_le (cs : List Char) : (dropLines cs).length ≤ cs.length := by
  fun_induction dropLines cs <;> simp only [List.length_cons, List.length_nil] at * <;> omega

theorem length_dropGaps_le (comment : Bool) (cs : List Char) : (dropGaps comment cs).length ≤ cs.length := by
  fun_induction dropGaps comment cs <;> simp only [List.length_cons, List.length_nil] at * <;> omega

theorem endLine_ok {cs rest : List Char} (h : endLine cs = .ok rest) : rest = [] ∨ rest.length < cs.length := by
  have hstart := Nat.le_trans (length_dropComment_le (dropBlanks cs)) (length_dropBlanks_le cs)
  unfold endLine at h
  split at h
  · cases h
    exact .inl rfl
  · cases hn : newline? (dropComment (dropBlanks cs)) with
    | none => simp only [hn] at h; cases h
    | some more =>
      simp only [hn] at h
      cases h
      exact .inr (Nat.lt_of_lt_of_le (newline?_some hn) hstart)

theorem endLine_ok_le {cs rest : List Char} (h : endLine cs = .ok rest) : rest.length ≤ cs.length := by
  rcases endLine_ok h with rfl | hlt
  · exact Nat.zero_le _
  · exact Nat.le_of_lt hlt

/-! ### Strings -/

theorem codePoint_ok {count : Nat} {cs rest : List Char} {c : Char} (h : codePoint count cs = .ok (c, rest)) :
    rest.length ≤ cs.length := by
  obtain ⟨-, h⟩ := ok_of_pos h
  cases h
  exact (List.drop_suffix count cs).length_le

theorem escape_ok {cs rest : List Char} {c : Char} (h : escape cs = .ok (c, rest)) : rest.length < cs.length := by
  unfold escape at h
  split at h
  case h_8 => exact Nat.lt_succ_of_le (codePoint_ok h)
  case h_9 => exact Nat.lt_succ_of_le (codePoint_ok h)
  case h_10 => cases h
  all_goals
    cases h
    exact Nat.lt_succ_self _

theorem basic_ok {before : List Char} {fuel : Nat} {cs rest : List Char} {s : String}
    (h : basic before fuel cs = .ok (s, rest)) : rest.length < cs.length := by
  induction fuel generalizing before cs with
  | zero => cases cs <;> cases h
  | succ fuel ih =>
    cases cs with
    | nil => cases h
    | cons c cs =>
      rw [basic] at h
      by_cases hq : c = '"'
      · rw [if_pos hq] at h
        cases h
        exact Nat.lt_succ_self _
      rw [if_neg hq] at h
      by_cases hb : c = '\\'
      · rw [if_pos hb] at h
        cases he : escape cs with
        | error e => rw [he] at h; cases h
        | ok r =>
          rw [he] at h
          exact Nat.lt_succ_of_lt (Nat.lt_trans (ih h) (escape_ok he))
      · rw [if_neg hb] at h
        obtain ⟨-, h⟩ := ok_of_pos h
        exact Nat.lt_succ_of_lt (ih h)

theorem literal_ok {cs rest : List Char} {s : String} (h : literal cs = .ok (s, rest)) :
    rest.length ≤ cs.length := by
  unfold literal at h
  dsimp only at h
  split at h
  · rename_i more hmore
    cases h
    have hle := (List.dropWhile_suffix (l := cs) fun c => isPlain c && c != '\'').length_le
    rw [hmore, List.length_cons] at hle
    exact Nat.le_of_succ_le hle
  · cases h

theorem length_close_le (mark : Char) (before cs : List Char) : (close mark before cs).2.length ≤ cs.length := by
  fun_cases close mark before cs <;> simp +arith

theorem joinedLine?_some {cs rest : List Char} (h : joinedLine? cs = some rest) : rest.length < cs.length := by
  obtain ⟨more, hmore, rfl⟩ := Option.map_eq_some_iff.1 h
  exact Nat.lt_of_le_of_lt (length_dropLines_le more)
    (Nat.lt_of_lt_of_le (newline?_some hmore) (length_dropBlanks_le cs))

theorem longBasic_ok {before : List Char} {fuel : Nat} {cs rest : List Char} {s : String}
    (h : longBasic before fuel cs = .ok (s, rest)) : rest.length ≤ cs.length := by
  fun_induction longBasic before fuel cs with
  | case1 => cases h
  | case2 => cases h
  | case3 before fuel more =>
    have hclose := length_close_le '"' before more
    rw [Except.ok.inj h] at hclose
    exact Nat.le_trans hclose (by simp +arith)
  | case4 before fuel more ih =>
    have := ih h
    simp only [List.length_cons]
    omega
  -- a line is joined to the next: what is skipped lies behind the backslash
  | case5 before fuel more left hjoin _ _ ih =>
    have := ih h
    have := joinedLine?_some hjoin
    simp only [List.length_cons]
    omega
  | case6 before fuel more hjoin d left hescape _ _ ih =>
    have := ih h
    have := escape_ok hescape
    simp only [List.length_cons]
    omega
  | case7 => cases h
  | case8 before fuel c more _ _ _ hplain ih =>
    have := ih h
    simp only [List.length_cons]
    omega
  | case9 => cases h

theorem longLiteral_ok {before cs rest : List Char} {s : String} (h : longLiteral before cs = .ok (s, rest)) :
    rest.length ≤ cs.length := by
  fun_induction longLiteral before cs with
  | case1 => cases h
  | case2 before more =>
    have hclose := length_close_le '\'' before more
    rw [Except.ok.inj h] at hclose
    exact Nat.le_trans hclose (by simp +arith)
  | case3 before more ih =>
    have := ih h
    simp only [List.length_cons]
    omega
  | case4 before c more _ _ hplain ih =>
    have := ih h
    simp only [List.length_cons]
    omega
  | case5 => cases h

theorem length_dropNewline_le (cs : List Char) : (dropNewline cs).length ≤ cs.length := by
  unfold dropNewline
  cases hn : newline? cs with
  | none => exact Nat.le_refl _
  | some rest => exact Nat.le_of_lt (newline?_some hn)

theorem quoted_ok {cs rest : List Char} {s : String} (h : quoted cs = .ok (s, rest)) : rest.length ≤ cs.length := by
  unfold quoted at h
  split at h
  · rename_i more
    have := longBasic_ok h
    have := length_dropNewline_le more
    simp only [List.length_cons]
    omega
  · exact Nat.le_succ_of_le (Nat.le_of_lt (basic_ok h))
  · rename_i more
    have := longLiteral_ok h
    have := length_dropNewline_le more
    simp only [List.length_cons]
    omega
  · exact Nat.le_succ_of_le (literal_ok h)
  · cases h

/-! ### Numbers and moments -/

theorem moreDigits_ok {isDigit : Char → Bool} {cs ds rest : List Char} (h : moreDigits isDigit cs = .ok (ds, rest)) :
    rest.length ≤ cs.length := by
  fun_induction moreDigits isDigit cs generalizing ds rest with
  | case1 => cases h; exact Nat.le_refl _
  | case2 => cases h
  | case3 d more hd ih =>
    obtain ⟨⟨es, left⟩, hmore, h⟩ := map_eq_ok_iff.1 h
    cases h
    exact Nat.le_succ_of_le (Nat.le_succ_of_le (ih hmore))
  | case4 => cases h
  | case5 d more _ _ hd ih =>
    obtain ⟨⟨es, left⟩, hmore, h⟩ := map_eq_ok_iff.1 h
    cases h
    exact Nat.le_succ_of_le (ih hmore)
  | case6 => cases h; exact Nat.le_refl _

theorem digits_ok {isDigit : Char → Bool} {cs ds rest : List Char} (h : digits isDigit cs = .ok (ds, rest)) :
    rest.length ≤ cs.length := by
  cases cs with
  | nil => cases h
  | cons d cs =>
    obtain ⟨-, h⟩ := ok_of_pos h
    obtain ⟨⟨es, left⟩, hmore, h⟩ := map_eq_ok_iff.1 h
    cases h
    exact Nat.le_succ_of_le (moreDigits_ok hmore)

theorem wholeDigits_ok {cs ds rest : List Char} (h : wholeDigits cs = .ok (ds, rest)) : rest.length ≤ cs.length := by
  unfold wholeDigits at h
  split at h
  · cases h; exact Nat.le_succ _
  · exact digits_ok h

theorem fraction?_ok {cs rest : List Char} {ds : Option (List Char)} (h : fraction? cs = .ok (ds, rest)) :
    rest.length ≤ cs.length := by
  unfold fraction? at h
  split at h
  · obtain ⟨⟨es, left⟩, hds, h⟩ := map_eq_ok_iff.1 h
    cases h
    exact Nat.le_succ_of_le (digits_ok hds)
  · cases h; exact Nat.le_refl _

theorem exponent?_ok {cs rest : List Char} {n : Option Int} (h : exponent? cs = .ok (n, rest)) :
    rest.length ≤ cs.length := by
  unfold exponent? at h
  split at h
  · split at h
    · dsimp only at h
      split at h
      all_goals
        obtain ⟨⟨ds, left⟩, hds, h⟩ := map_eq_ok_iff.1 h
        cases h
        have hle := digits_ok hds
        simp only [List.length_cons] at hle ⊢
        omega
    · cases h; exact Nat.le_refl _
  · cases h; exact Nat.le_refl _

theorem decimal_ok {negative : Bool} {cs body rest : List Char} {v : Value}
    (h : decimal negative cs body = .ok (v, rest)) : rest.length ≤ body.length := by
  obtain ⟨⟨whole, rest₁⟩, hwhole, h⟩ := bind_eq_ok_iff.1 h
  obtain ⟨⟨fraction, rest₂⟩, hfraction, h⟩ := bind_eq_ok_iff.1 h
  obtain ⟨⟨exponent, rest₃⟩, hexponent, h⟩ := bind_eq_ok_iff.1 h
  have hle := Nat.le_trans (exponent?_ok hexponent) (Nat.le_trans (fraction?_ok hfraction) (wholeDigits_ok hwhole))
  simp only at h
  split at h
  · obtain ⟨w, hw, h⟩ := bind_eq_ok_iff.1 h
    cases h
    exact hle
  · obtain ⟨-, h⟩ := ok_of_not h
    cases h
    exact hle

theorem afterSign_ok {negative : Bool} {cs body rest : List Char} {v : Value}
    (h : afterSign negative cs body = .ok (v, rest)) : rest.length ≤ body.length := by
  unfold afterSign at h
  split at h
  · cases h; simp +arith
  · cases h; simp +arith
  · exact decimal_ok h

theorem basedInteger_ok {base : Nat} {isDigit : Char → Bool} {cs rest : List Char} {v : Value}
    (h : basedInteger base isDigit cs = .ok (v, rest)) : rest.length ≤ cs.length := by
  obtain ⟨⟨ds, rest₁⟩, hds, h⟩ := bind_eq_ok_iff.1 h
  obtain ⟨w, hw, h⟩ := bind_eq_ok_iff.1 h
  cases h
  exact digits_ok hds

theorem number_ok {cs rest : List Char} {v : Value} (h : number cs = .ok (v, rest)) : rest.length ≤ cs.length := by
  unfold number at h
  split at h
  · exact Nat.le_succ_of_le (afterSign_ok h)
  · exact Nat.le_succ_of_le (afterSign_ok h)
  · exact Nat.le_succ_of_le (Nat.le_succ_of_le (basedInteger_ok h))
  · exact Nat.le_succ_of_le (Nat.le_succ_of_le (basedInteger_ok h))
  · exact Nat.le_succ_of_le (Nat.le_succ_of_le (basedInteger_ok h))
  · exact afterSign_ok h

namespace Moment

theorem pair?_some {lo hi n : Nat} {cs rest : List Char} (h : pair? lo hi cs = some (n, rest)) :
    rest.length ≤ cs.length := by
  unfold pair? at h
  split at h
  · simp only [Option.ite_none_right_eq_some] at h
    obtain ⟨-, h⟩ := h
    cases h
    simp +arith
  · cases h

theorem mark?_some {mark : Char} {cs rest : List Char} (h : mark? mark cs = some rest) : rest.length ≤ cs.length := by
  cases cs with
  | nil => cases h
  | cons c cs =>
    simp only [mark?, Option.ite_none_right_eq_some] at h
    obtain ⟨-, h⟩ := h
    cases h
    exact Nat.le_succ _

theorem date?_some {cs rest : List Char} (h : date? cs = some rest) : rest.length ≤ cs.length := by
  simp only [date?, Option.bind_eq_bind, Option.bind_eq_some_iff, Option.pure_def, Option.some_inj] at h
  obtain ⟨⟨_, cs₁⟩, h₁, ⟨_, cs₂⟩, h₂, cs₃, h₃, ⟨_, cs₄⟩, h₄, cs₅, h₅, ⟨_, cs₆⟩, h₆, rfl⟩ := h
  exact Nat.le_trans (pair?_some h₆) <| Nat.le_trans (mark?_some h₅) <| Nat.le_trans (pair?_some h₄) <|
    Nat.le_trans (mark?_some h₃) <| Nat.le_trans (pair?_some h₂) (pair?_some h₁)

theorem length_dropFraction_le (cs : List Char) : (dropFraction cs).length ≤ cs.length := by
  unfold dropFraction
  split
  · split
    · exact Nat.le_succ_of_le (Nat.le_succ_of_le (List.dropWhile_suffix Char.isDigit).length_le)
    · exact Nat.le_refl _
  · exact Nat.le_refl _

theorem time?_some {cs rest : List Char} (h : time? cs = some rest) : rest.length ≤ cs.length := by
  simp only [time?, Option.bind_eq_bind, Option.bind_eq_some_iff, Option.pure_def, Option.some_inj] at h
  obtain ⟨⟨_, cs₁⟩, h₁, cs₂, h₂, ⟨_, cs₃⟩, h₃, cs₄, h₄, ⟨_, cs₅⟩, h₅, rfl⟩ := h
  exact Nat.le_trans (length_dropFraction_le cs₅) <| Nat.le_trans (pair?_some h₅) <|
    Nat.le_trans (mark?_some h₄) <| Nat.le_trans (pair?_some h₃) <| Nat.le_trans (mark?_some h₂) (pair?_some h₁)

theorem hoursMinutes?_some {cs rest : List Char} (h : hoursMinutes? cs = some rest) : rest.length ≤ cs.length := by
  simp only [hoursMinutes?, Option.bind_eq_bind, Option.bind_eq_some_iff, Option.pure_def, Option.some_inj] at h
  obtain ⟨⟨_, cs₁⟩, h₁, cs₂, h₂, ⟨_, cs₃⟩, h₃, rfl⟩ := h
  exact Nat.le_trans (pair?_some h₃) <| Nat.le_trans (mark?_some h₂) (pair?_some h₁)

theorem offset?_some {cs rest : List Char} (h : offset? cs = some rest) : rest.length ≤ cs.length := by
  unfold offset? at h
  split at h
  · cases h; exact Nat.le_succ _
  · cases h; exact Nat.le_succ _
  · exact Nat.le_succ_of_le (hoursMinutes?_some h)
  · exact Nat.le_succ_of_le (hoursMinutes?_some h)
  · cases h; exact Nat.le_refl _

theorem afterDate?_some {cs rest : List Char} (h : afterDate? cs = some rest) : rest.length ≤ cs.length := by
  cases cs with
  | nil => cases h; exact Nat.le_refl _
  | cons c cs =>
    rw [afterDate?] at h
    split at h
    · obtain ⟨more, hmore, h⟩ := Option.bind_eq_some_iff.1 h
      exact Nat.le_succ_of_le (Nat.le_trans (offset?_some h) (time?_some hmore))
    · cases h; exact Nat.le_refl _

end Moment

theorem moment_ok {cs rest : List Char} {v : Value} (h : moment cs = .ok (v, rest)) : rest.length ≤ cs.length := by
  unfold moment at h
  dsimp only at h
  split at h
  · rename_i more hmore
    cases h
    split at hmore
    · obtain ⟨left, hleft, hmore⟩ := Option.bind_eq_some_iff.1 hmore
      exact Nat.le_trans (Moment.afterDate?_some hmore) (Moment.date?_some hleft)
    · exact Moment.time?_some hmore
  · cases h

theorem scalar_ok {cs rest : List Char} {v : Value} (h : scalar cs = .ok (v, rest)) : rest.length ≤ cs.length := by
  unfold scalar at h
  split at h
  · cases h; simp +arith
  · cases h; simp +arith
  · obtain ⟨⟨s, more⟩, hs, h⟩ := map_eq_ok_iff.1 h
    cases h
    exact quoted_ok hs
  · obtain ⟨⟨s, more⟩, hs, h⟩ := map_eq_ok_iff.1 h
    cases h
    exact quoted_ok hs
  · split at h
    · exact moment_ok h
    · exact number_ok h

/-! ### Keys -/

theorem keyName_ok {cs rest : List Char} {s : String} (h : keyName cs = .ok (s, rest)) : rest.length ≤ cs.length := by
  unfold keyName at h
  split at h
  · exact Nat.le_succ_of_le (Nat.le_of_lt (basic_ok h))
  · exact Nat.le_succ_of_le (literal_ok h)
  · split at h
    · cases h
    · cases h
      exact (List.dropWhile_suffix isBare).length_le

theorem keyNames_ok {before : List String} {fuel : Nat} {cs rest : List Char} {k : Key}
    (h : keyNames before fuel cs = .ok (k, rest)) : rest.length ≤ cs.length := by
  induction fuel generalizing before cs with
  | zero => cases h
  | succ fuel ih =>
    rw [keyNames] at h
    split at h
    · cases h
    · rename_i name more hname
      have hmore := Nat.le_trans (keyName_ok hname) (length_dropBlanks_le cs)
      have hblanks := length_dropBlanks_le more
      split at h
      · rename_i left hleft
        rw [hleft, List.length_cons] at hblanks
        have := ih h
        omega
      · obtain ⟨-, h⟩ := ok_of_pos h
        cases h
        omega

theorem keyEquals_ok {cs rest : List Char} {k : Key} (h : keyEquals cs = .ok (k, rest)) :
    rest.length < cs.length := by
  obtain ⟨⟨k', more⟩, hk, h⟩ := bind_eq_ok_iff.1 h
  have hmore := keyNames_ok hk
  dsimp only at h
  split at h
  · rename_i left
    cases h
    exact Nat.lt_of_le_of_lt (length_dropBlanks_le left) hmore
  · cases h

/-! ### Fuel -/

theorem basic_congr (before : List Char) (f₁ f₂ : Nat) (cs : List Char) (h₁ : cs.length ≤ f₁) (h₂ : cs.length ≤ f₂) :
    basic before f₁ cs = basic before f₂ cs := by
  induction f₁ generalizing before f₂ cs with
  | zero =>
    obtain rfl := List.length_eq_zero_iff.1 (Nat.le_zero.1 h₁)
    cases f₂ <;> rfl
  | succ f₁ ih =>
    cases cs with
    | nil => cases f₂ <;> rfl
    | cons c cs =>
      obtain ⟨f₂, rfl⟩ := Nat.exists_eq_add_one_of_ne_zero (Nat.ne_zero_of_lt h₂)
      rw [List.length_cons] at h₁ h₂
      rw [basic, basic, ih (c :: before) f₂ cs (by omega) (by omega)]
      cases he : escape cs with
      | error e => rfl
      | ok r =>
        obtain ⟨d, rest⟩ := r
        have hrest := escape_ok he
        simp only [ih (d :: before) f₂ rest (by omega) (by omega)]

theorem longBasic_congr (before : List Char) (f₁ f₂ : Nat) (cs : List Char) (h₁ : cs.length ≤ f₁)
    (h₂ : cs.length ≤ f₂) : longBasic before f₁ cs = longBasic before f₂ cs := by
  fun_induction longBasic before f₁ cs generalizing f₂ with
  | case1 before cs =>
    obtain rfl := List.length_eq_zero_iff.1 (Nat.le_zero.1 h₁)
    cases f₂ <;> rfl
  | case2 before fuel => cases f₂ <;> rfl
  | case3 before fuel more =>
    obtain ⟨f₂, rfl⟩ := Nat.exists_eq_add_one_of_ne_zero (Nat.ne_zero_of_lt h₂)
    rfl
  | case4 before fuel more ih =>
    obtain ⟨f₂, rfl⟩ := Nat.exists_eq_add_one_of_ne_zero (Nat.ne_zero_of_lt h₂)
    simp only [List.length_cons] at h₁ h₂
    exact ih f₂ (by omega) (by omega)
  | case5 before fuel more left hjoin hquote hreturn ih =>
    obtain ⟨f₂, rfl⟩ := Nat.exists_eq_add_one_of_ne_zero (Nat.ne_zero_of_lt h₂)
    have hleft := joinedLine?_some hjoin
    simp only [List.length_cons] at h₁ h₂
    rw [longBasic, if_pos rfl, hjoin]
    · exact ih f₂ (by omega) (by omega)
    · exact hquote
    · exact hreturn
  | case6 before fuel more hjoin d left hescape hquote hreturn ih =>
    obtain ⟨f₂, rfl⟩ := Nat.exists_eq_add_one_of_ne_zero (Nat.ne_zero_of_lt h₂)
    have hleft := escape_ok hescape
    simp only [List.length_cons] at h₁ h₂
    rw [longBasic, if_pos rfl, hjoin, hescape]
    · exact ih f₂ (by omega) (by omega)
    · exact hquote
    · exact hreturn
  | case7 before fuel more hjoin e hescape hquote hreturn =>
    obtain ⟨f₂, rfl⟩ := Nat.exists_eq_add_one_of_ne_zero (Nat.ne_zero_of_lt h₂)
    rw [longBasic, if_pos rfl, hjoin, hescape]
    · exact hquote
    · exact hreturn
  | case8 before fuel c more hquote hreturn hc hplain ih =>
    obtain ⟨f₂, rfl⟩ := Nat.exists_eq_add_one_of_ne_zero (Nat.ne_zero_of_lt h₂)
    simp only [List.length_cons] at h₁ h₂
    rw [longBasic, if_neg hc, if_pos hplain]
    · exact ih f₂ (by omega) (by omega)
    · exact hquote
    · exact hreturn
  | case9 before fuel c more hquote hreturn hc hplain =>
    obtain ⟨f₂, rfl⟩ := Nat.exists_eq_add_one_of_ne_zero (Nat.ne_zero_of_lt h₂)
    rw [longBasic, if_neg hc, if_neg hplain]
    · exact hquote
    · exact hreturn

theorem keyNames_congr (before : List String) (f₁ f₂ : Nat) (cs : List Char) (h₁ : cs.length ≤ f₁)
    (h₂ : cs.length ≤ f₂) : keyNames before f₁ cs = keyNames before f₂ cs := by
  induction f₁ generalizing before f₂ cs with
  | zero =>
    obtain rfl := List.length_eq_zero_iff.1 (Nat.le_zero.1 h₁)
    cases f₂ <;> rfl
  | succ f₁ ih =>
    cases f₂ with
    | zero =>
      obtain rfl := List.length_eq_zero_iff.1 (Nat.le_zero.1 h₂)
      rfl
    | succ f₂ =>
      rw [keyNames, keyNames]
      cases hname : keyName (dropBlanks cs) with
      | error e => rfl
      | ok r =>
        obtain ⟨name, more⟩ := r
        have hmore := Nat.le_trans (keyName_ok hname) (length_dropBlanks_le cs)
        have hblanks := length_dropBlanks_le more
        dsimp only
        split
        · rename_i left hleft
          rw [hleft, List.length_cons] at hblanks
          exact ih (name :: before) f₂ left (by omega) (by omega)
        · rfl

/-! ## Values -/

theorem value_cases {depth fuel : Nat} {cs rest : List Char} {v : Value}
    (h : value depth (fuel + 1) cs = .ok (v, rest)) :
    scalar cs = .ok (v, rest) ∨ ∃ more, more.length < cs.length ∧
      ((∃ vs, v = .array vs ∧ items (depth - 1) [] fuel more = .ok (vs, rest)) ∨
        (v = .table [] ∧ rest.length ≤ more.length) ∨
          ∃ ms, v = .table (Node.toValues ms) ∧ pairs (depth - 1) [] fuel more = .ok (ms, rest)) := by
  unfold value at h
  split at h
  · rename_i more
    obtain ⟨-, h⟩ := ok_of_not h
    obtain ⟨⟨vs, left⟩, hi, h⟩ := map_eq_ok_iff.1 h
    cases h
    exact .inr ⟨more, Nat.lt_succ_self _, .inl ⟨vs, rfl, hi⟩⟩
  · rename_i more
    obtain ⟨-, h⟩ := ok_of_not h
    have hblanks := length_dropBlanks_le more
    split at h
    · rename_i left hleft
      rw [hleft, List.length_cons] at hblanks
      cases h
      exact .inr ⟨more, Nat.lt_succ_self _, .inr (.inl ⟨rfl, Nat.le_of_succ_le hblanks⟩)⟩
    · obtain ⟨⟨ms, left⟩, hp, h⟩ := map_eq_ok_iff.1 h
      cases h
      exact .inr ⟨dropBlanks more, Nat.lt_succ_of_le hblanks, .inr (.inr ⟨ms, rfl, hp⟩)⟩
  · exact .inl h

theorem items_cases {depth fuel : Nat} {before vs : List Value} {cs rest : List Char}
    (h : items depth before (fuel + 1) cs = .ok (vs, rest)) :
    vs = before.reverse ∧ rest.length ≤ cs.length ∨
      ∃ v start more, start.length ≤ cs.length ∧ value depth fuel start = .ok (v, more) ∧
        (vs = (v :: before).reverse ∧ rest.length ≤ more.length ∨
          ∃ left, left.length < more.length ∧ items depth (v :: before) fuel left = .ok (vs, rest)) := by
  have hstart := length_dropGaps_le false cs
  rw [items] at h
  split at h
  · rename_i left hleft
    rw [hleft, List.length_cons] at hstart
    cases h
    exact .inl ⟨rfl, Nat.le_of_succ_le hstart⟩
  · split at h
    · cases h
    · rename_i v more hv
      have hmore := length_dropGaps_le false more
      refine .inr ⟨v, _, more, hstart, hv, ?_⟩
      split at h
      · rename_i left hleft
        rw [hleft, List.length_cons] at hmore
        exact .inr ⟨left, hmore, h⟩
      · rename_i left hleft
        rw [hleft, List.length_cons] at hmore
        cases h
        exact .inl ⟨rfl, Nat.le_of_succ_le hmore⟩
      · cases h

theorem pairs_cases {depth fuel : Nat} {ms ms' : List (String × Node)} {cs rest : List Char}
    (h : pairs depth ms (fuel + 1) cs = .ok (ms', rest)) :
    ∃ k : Key, ∃ v mid start more, start.length < cs.length ∧ value depth fuel start = .ok (v, more) ∧
      Node.define k.name v k.path ms = .ok mid ∧
        (ms' = mid ∧ rest.length ≤ more.length ∨
          ∃ left, left.length < more.length ∧ pairs depth mid fuel left = .ok (ms', rest)) := by
  rw [pairs] at h
  split at h
  · cases h
  · rename_i k start hk
    split at h
    · cases h
    · rename_i v more hv
      have hmore := length_dropBlanks_le more
      split at h
      · cases h
      · rename_i mid hd
        refine ⟨k, v, mid, start, more, keyEquals_ok hk, hv, hd, ?_⟩
        split at h
        · rename_i left hleft
          rw [hleft, List.length_cons] at hmore
          exact .inr ⟨left, hmore, h⟩
        · rename_i left hleft
          rw [hleft, List.length_cons] at hmore
          cases h
          exact .inl ⟨rfl, Nat.le_of_succ_le hmore⟩
        · cases h

theorem reads_no_more (fuel : Nat) :
    (∀ depth cs v rest, value depth fuel cs = .ok (v, rest) → rest.length ≤ cs.length) ∧
      (∀ depth before cs vs rest, items depth before fuel cs = .ok (vs, rest) → rest.length ≤ cs.length) ∧
      ∀ depth ms cs ms' rest, pairs depth ms fuel cs = .ok (ms', rest) → rest.length ≤ cs.length := by
  -- all three at once: a value may hold items or pairs, and both hold values
  induction fuel with
  | zero =>
    refine ⟨fun _ _ _ _ h => ?_, fun _ _ _ _ _ h => ?_, fun _ _ _ _ _ h => ?_⟩
    · rw [value] at h; cases h
    · rw [items] at h; cases h
    · rw [pairs] at h; cases h
  | succ fuel ih =>
    obtain ⟨hvalue, hitems, hpairs⟩ := ih
    refine ⟨fun depth cs v rest h => ?value, fun depth before cs vs rest h => ?items,
      fun depth ms cs ms' rest h => ?pairs⟩
    case value =>
      rcases value_cases h with hs | ⟨more, hlt, ⟨vs, -, h⟩ | ⟨-, hle⟩ | ⟨ms, -, h⟩⟩
      · exact scalar_ok hs
      · exact Nat.le_of_lt (Nat.lt_of_le_of_lt (hitems _ _ _ _ _ h) hlt)
      · exact Nat.le_of_lt (Nat.lt_of_le_of_lt hle hlt)
      · exact Nat.le_of_lt (Nat.lt_of_le_of_lt (hpairs _ _ _ _ _ h) hlt)
    case items =>
      rcases items_cases h with ⟨-, hle⟩ | ⟨v, start, more, hstart, hv, h⟩
      · exact hle
      have hmore := hvalue _ _ _ _ hv
      rcases h with ⟨-, hle⟩ | ⟨left, hlt, h⟩
      · omega
      · have := hitems _ _ _ _ _ h
        omega
    case pairs =>
      obtain ⟨k, v, mid, start, more, hstart, hv, -, h⟩ := pairs_cases h
      have hmore := hvalue _ _ _ _ hv
      rcases h with ⟨-, hle⟩ | ⟨left, hlt, h⟩
      · omega
      · have := hpairs _ _ _ _ _ h
        omega

/-- Twice as much fuel as characters is enough: more of it changes nothing. -/
theorem reader_congr (f₁ : Nat) : ∀ f₂,
    (∀ depth cs, 2 * cs.length + 1 ≤ f₁ → 2 * cs.length + 1 ≤ f₂ →
      value depth f₁ cs = value depth f₂ cs) ∧
      (∀ depth before cs, 2 * cs.length + 2 ≤ f₁ → 2 * cs.length + 2 ≤ f₂ →
        items depth before f₁ cs = items depth before f₂ cs) ∧
      ∀ depth ms cs, 2 * cs.length + 2 ≤ f₁ → 2 * cs.length + 2 ≤ f₂ →
        pairs depth ms f₁ cs = pairs depth ms f₂ cs := by
  -- an array's first item may start where the items do, so a value gets one unit less than the items around it
  induction f₁ with
  | zero => exact fun f₂ => ⟨fun _ _ h => by omega, fun _ _ _ h => by omega, fun _ _ _ h => by omega⟩
  | succ f₁ ih =>
    intro f₂
    cases f₂ with
    | zero => exact ⟨fun _ _ _ h => by omega, fun _ _ _ _ h => by omega, fun _ _ _ _ h => by omega⟩
    | succ f₂ =>
      obtain ⟨hvalue, hitems, hpairs⟩ := ih f₂
      refine ⟨fun depth cs h₁ h₂ => ?value, fun depth before cs h₁ h₂ => ?items, fun depth ms cs h₁ h₂ => ?pairs⟩
      case value =>
        unfold value
        split
        · rename_i more
          rw [List.length_cons] at h₁ h₂
          rw [hitems (depth - 1) [] more (by omega) (by omega)]
        · rename_i more
          have hblanks := length_dropBlanks_le more
          rw [List.length_cons] at h₁ h₂
          split
          · rfl
          · split
            · rfl
            · rw [hpairs (depth - 1) [] (dropBlanks more) (by omega) (by omega)]
        · rfl
      case items =>
        have hstart := length_dropGaps_le false cs
        rw [items, items]
        split
        · rfl
        · rw [hvalue depth (dropGaps false cs) (by omega) (by omega)]
          split
          · rfl
          · rename_i v more hv
            have hmore := length_dropGaps_le false more
            have hle := (reads_no_more f₂).1 _ _ _ _ hv
            split
            · rename_i left hleft
              rw [hleft, List.length_cons] at hmore
              exact hitems depth (v :: before) left (by omega) (by omega)
            · rfl
            · rfl
      case pairs =>
        rw [pairs, pairs]
        split
        · rfl
        · rename_i k start hk
          have hstart := keyEquals_ok hk
          rw [hvalue depth start (by omega) (by omega)]
          split
          · rfl
          · rename_i v more hv
            have hmore := length_dropBlanks_le more
            have hle := (reads_no_more f₂).1 _ _ _ _ hv
            split
            · rfl
            · rename_i mid _
              split
              · rename_i left hleft
                rw [hleft, List.length_cons] at hmore
                exact hpairs depth mid left (by omega) (by omega)
              · rfl
              · rfl

/-! ## Statements -/

/-- A statement opens a section with a header, or it is a pair on a line. -/
theorem statement_cases {cs rest : List Char} {s : Statement} (h : statement cs = .ok (s, rest)) :
    (∃ header, s = .header header ∧ rest.length < cs.length) ∨
      ∃ k v start more, s = .pair k v ∧ keyEquals cs = .ok (k, start) ∧
        value (depthLimit - 1) (2 * start.length + 2) start = .ok (v, more) ∧ endLine more = .ok rest := by
  unfold statement at h
  split at h
  · obtain ⟨⟨k, more⟩, hk, h⟩ := bind_eq_ok_iff.1 h
    have hmore := keyNames_ok hk
    dsimp only at h
    split at h
    · obtain ⟨left, hleft, h⟩ := bind_eq_ok_iff.1 h
      cases h
      have := endLine_ok_le hleft
      simp only [List.length_cons] at hmore
      exact .inl ⟨_, rfl, by simp only [List.length_cons]; omega⟩
    · cases h
  · obtain ⟨⟨k, more⟩, hk, h⟩ := bind_eq_ok_iff.1 h
    have hmore := keyNames_ok hk
    dsimp only at h
    split at h
    · obtain ⟨left, hleft, h⟩ := bind_eq_ok_iff.1 h
      cases h
      have := endLine_ok_le hleft
      simp only [List.length_cons] at hmore
      exact .inl ⟨_, rfl, by simp only [List.length_cons]; omega⟩
    · cases h
  · obtain ⟨⟨k, start⟩, hk, h⟩ := bind_eq_ok_iff.1 h
    obtain ⟨⟨v, more⟩, hv, h⟩ := bind_eq_ok_iff.1 h
    obtain ⟨left, hleft, h⟩ := bind_eq_ok_iff.1 h
    cases h
    exact .inr ⟨k, v, start, more, rfl, hk, hv, hleft⟩

theorem statement_ok {cs rest : List Char} {s : Statement} (h : statement cs = .ok (s, rest)) :
    rest.length < cs.length := by
  rcases statement_cases h with ⟨-, -, hlt⟩ | ⟨k, v, start, more, -, hk, hv, hleft⟩
  · exact hlt
  · have := keyEquals_ok hk
    have := (reads_no_more _).1 _ _ _ _ hv
    have := endLine_ok_le hleft
    omega

theorem statements_congr (before : List Statement) (f₁ f₂ : Nat) (cs : List Char) (h₁ : cs.length < f₁)
    (h₂ : cs.length < f₂) : statements before f₁ cs = statements before f₂ cs := by
  induction f₁ generalizing before f₂ cs with
  | zero => exact absurd h₁ (Nat.not_lt_zero _)
  | succ f₁ ih =>
    obtain ⟨f₂, rfl⟩ := Nat.exists_eq_add_one_of_ne_zero (Nat.ne_zero_of_lt h₂)
    rw [statements, statements]
    split
    · rfl
    -- a blank line takes its end with it; at the end of the text the loop has stopped
    · rename_i rest hne hrest
      have hlt : rest.length < cs.length := (endLine_ok hrest).resolve_left hne
      exact ih before f₂ rest (by omega) (by omega)
    · split
      · rfl
      · rename_i s rest hs
        have hlt := statement_ok hs
        have hblanks := length_dropBlanks_le cs
        exact ih (s :: before) f₂ rest (by omega) (by omega)

/-- Every reader starts with as much fuel as it can use. -/
theorem fuel_enough (cs : List Char) :
    (∀ before fuel, cs.length ≤ fuel → basic before fuel cs = basic before cs.length cs) ∧
      (∀ before fuel, cs.length ≤ fuel → longBasic before fuel cs = longBasic before cs.length cs) ∧
      (∀ fuel, cs.length ≤ fuel → keyNames [] fuel cs = key cs) ∧
      (∀ depth fuel, 2 * cs.length + 2 ≤ fuel → value depth fuel cs = value depth (2 * cs.length + 2) cs) ∧
      ∀ fuel, cs.length < fuel → statements [] fuel cs = statements [] (cs.length + 1) cs := by
  refine ⟨fun before fuel h => ?basic, fun before fuel h => ?longBasic, fun fuel h => ?key,
    fun depth fuel h => ?value, fun fuel h => ?statements⟩
  case basic => exact basic_congr before fuel cs.length cs h (Nat.le_refl _)
  case longBasic => exact longBasic_congr before fuel cs.length cs h (Nat.le_refl _)
  case key => exact keyNames_congr [] fuel cs.length cs h (Nat.le_refl _)
  case value => exact (reader_congr fuel _).1 depth cs (by omega) (by omega)
  case statements => exact statements_congr [] fuel _ cs h (Nat.lt_succ_self _)

end HookGate.Toml
