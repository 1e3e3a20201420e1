import Treegram.Proofs.Pattern.Classes

/-!
Lexemes look no further than they read: a pattern inside of a group is cut into the same lexemes as
the pattern on its own.
-/

namespace Treegram.Pattern

variable {flags : Flags}

section Groups

theorem groupName_local : IsLocal groupName? := by
  intro text tail
  rw [groupName?]
  split
  · rename_i first others more shape left
    obtain ⟨same, behind⟩ := takeWhile_closed tail left
    rw [groupName?, same, behind, shape]
    simp only
    split
    · exact .some rfl
    · exact .none
  · exact .none

theorem opening_counted (plain : flags.verbose = false) {text : List Char}
    (noMark : ∀ rest, text ≠ '?' :: rest) :
    readOpening? flags text = some (.openGroup true none flags, text) := by
  rw [readOpening?, flags.skip_plain plain]
  split
  case h_8 => rfl
  all_goals exact absurd rfl (noMark _)

theorem opening_python (plain : flags.verbose = false) (text : List Char) :
    readOpening? flags ('?' :: 'P' :: '<' :: text) =
      (groupName? text).map fun found => (.openGroup true (some found.1) flags, found.2) := by
  rw [readOpening?, flags.skip_plain plain]
  rfl

theorem opening_named (plain : flags.verbose = false) {text : List Char}
    (noEqual : ∀ rest, text ≠ '=' :: rest) (noBang : ∀ rest, text ≠ '!' :: rest) :
    readOpening? flags ('?' :: '<' :: text) =
      (groupName? text).map fun found => (.openGroup true (some found.1) flags, found.2) := by
  rw [readOpening?, flags.skip_plain plain]
  split
  case h_7 noName shape => exact absurd (List.cons.inj shape).2.symm (noName text)
  all_goals simp_all

/-- The letters of a text that sets flags, and what stands behind them. -/
def flagLetters (text : List Char) : List Char := text.takeWhile fun c => c != ':' && c != ')'

/-- A group that changes flags, or flags for the rest of the group around them. -/
def flagGroup? (flags : Flags) (text : List Char) : Option (Lexeme × List Char) :=
  (flags.change? (flagLetters text)).bind fun inner =>
    match text.drop (flagLetters text).length with
    | ':' :: rest => some (.openGroup false none inner, rest)
    | ')' :: rest => if (flagLetters text).isEmpty then none else some (.setFlags inner, rest)
    | _ => none

theorem flagGroup_local : IsLocal (flagGroup? flags) := by
  intro text tail
  rw [flagGroup?]
  -- The colon or parenthesis that ends the letters is one of the text, not the one behind it.
  cases left : text.drop (flagLetters text).length with
  | nil =>
      simp only [Option.bind_fun_none]
      exact .none
  | cons stop more =>
      obtain ⟨same, behind⟩ : flagLetters (closed text tail) = flagLetters text
          ∧ (closed text tail).drop (flagLetters text).length = stop :: closed more tail :=
        takeWhile_closed tail left
      rw [flagGroup?, same, behind]
      refine .given fun inner => ?_
      split
      · rename_i shape
        obtain ⟨rfl, rfl⟩ := List.cons.inj shape
        exact .some rfl
      · rename_i shape
        obtain ⟨rfl, rfl⟩ := List.cons.inj shape
        simp only
        split
        · exact .none
        · exact .some rfl
      · exact .none

theorem opening_flags (plain : flags.verbose = false) {text : List Char}
    (noEqual : ∀ rest, text ≠ '=' :: rest) (noBang : ∀ rest, text ≠ '!' :: rest)
    (noName : ∀ rest, text ≠ '<' :: rest) (noPython : ∀ rest, text ≠ 'P' :: '<' :: rest) :
    readOpening? flags ('?' :: text) = flagGroup? flags text := by
  rw [readOpening?, flags.skip_plain plain]
  split
  case h_7 shape =>
    obtain rfl := (List.cons.inj shape).2
    rfl
  all_goals simp_all

/-- What kind of group a parenthesis opens is settled by what stands right behind it. -/
theorem opening_local (plain : flags.verbose = false) : IsLocal (readOpening? flags) := by
  intro text tail
  rw [readOpening?, flags.skip_plain plain]
  split
  case h_5 inner =>
    rw [closed_cons, closed_cons, closed_cons, opening_python plain]
    exact (groupName_local inner tail).map fun _ => rfl
  case h_6 inner noEqual noBang =>
    have noEqual (rest : List Char) : inner ≠ '=' :: rest := fun same => noEqual rest (by rw [same])
    have noBang (rest : List Char) : inner ≠ '!' :: rest := fun same => noBang rest (by rw [same])
    rw [closed_cons, closed_cons, opening_named plain (closed_ne_cons (by decide) noEqual tail)
      (closed_ne_cons (by decide) noBang tail)]
    exact (groupName_local inner tail).map fun _ => rfl
  case h_7 inner noEqual noBang _ _ noPython noName =>
    rw [closed_cons, opening_flags plain (closed_ne_cons (by decide) noEqual tail)
      (closed_ne_cons (by decide) noBang tail) (closed_ne_cons (by decide) noName tail)
      (closed_ne_pair (by decide) (by decide) noPython tail)]
    exact flagGroup_local inner tail
  case h_8 noMark =>
    exact .some (opening_counted plain (closed_ne_cons (by decide) noMark tail))
  all_goals exact .none

end Groups

theorem dropLazy_closed (text tail : List Char) :
    dropLazy (closed text tail) = closed (dropLazy text) tail := by
  cases text with
  | nil => rfl
  | cons c text =>
      by_cases mark : c = '?'
      · rw [mark]
        rfl
      · have stays (rest : List Char) : dropLazy (c :: rest) = c :: rest := by
          rw [dropLazy]
          exact fun behind shape => mark (List.cons.inj shape).1
        rw [closed_cons, stays, stays]
        rfl

/-- Whatever is a lexeme in a pattern of its own is the same lexeme in the pattern inside of a
group. -/
theorem lexeme_local (plain : flags.verbose = false) : IsLocal (Lexeme.read? flags) := by
  intro text tail
  cases text with
  | nil => exact .none
  | cons c text =>
      rw [closed_cons]
      unfold Lexeme.read?
      simp only
      -- The readers that look ahead have lemmas of their own; the other lexemes are one character.
      split
      case h_1 => exact opening_local plain text tail
      case h_4 => exact (class_local plain text tail).map fun _ => rfl
      case h_5 | h_6 | h_7 => exact .some (by rw [dropLazy_closed]; rfl)
      case h_8 =>
        refine (counts_local plain text tail).map fun _ => ?_
        simp only [flags.skip_plain plain, dropLazy_closed]
        rfl
      case h_9 => exact (escape_local plain text tail).bind fun _ => .made fun _ => rfl
      case h_10 => exact .made fun _ => rfl
      all_goals exact .some rfl

end Treegram.Pattern
