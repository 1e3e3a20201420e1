import Mathlib.Data.List.Basic
import Treegram.Language.TokenSource

/-!
The pattern of a token's body, kind by kind: what it is put together from.
-/

namespace Treegram.Rule

variable {rule : Rule}

theorem tokenSource_blank (kind : rule.kind = .blank) : rule.tokenSource = .ok "" := by
  rw [tokenSource, fold_eq]
  simp only [kind]

theorem tokenSource_string (kind : rule.kind = .string) :
    rule.tokenSource = .ok (literalSource (rule.text?.getD "")) := by
  rw [tokenSource, fold_eq]
  simp only [kind]

theorem tokenSource_pattern (kind : rule.kind = .pattern) :
    rule.tokenSource = .ok (if (rule.flags.getD "").toList.contains 'i' then
      "(?i:" ++ rule.text?.getD "" ++ ")" else grouped (rule.text?.getD "") "") := by
  rw [tokenSource, fold_eq]
  simp only [kind]
  split <;> rfl

theorem tokenSource_seq (kind : rule.kind = .seq) :
    rule.tokenSource = (rule.members.mapM tokenSource).map String.join := by
  rw [tokenSource, fold_eq]
  simp only [kind]
  rw [List.mapM_map]
  rfl

theorem filter_zip {α : Type} (keep : Rule → Bool) (f : Rule → α) (rules : List Rule) :
    (rules.zip (rules.map f)).filter (fun pair => keep pair.1) =
      (rules.filter keep).map fun rule => (rule, f rule) := by
  induction rules with
  | nil => rfl
  | cons rule rest ih =>
      rw [List.map_cons, List.zip_cons_cons, List.filter_cons, List.filter_cons, ih]
      split
      · rw [List.map_cons]
      · rfl

/-- A choice is the group of its alternatives, which may be left out if one of them is empty. -/
theorem tokenSource_choice (kind : rule.kind = .choice) :
    rule.tokenSource = ((rule.members.filter (·.kind != .blank)).mapM tokenSource).map fun sources =>
      grouped ("|".intercalate sources)
        (if rule.members.any (·.kind == .blank) then "?" else "") := by
  rw [tokenSource, fold_eq]
  simp only [kind]
  have alternatives := filter_zip (·.kind != .blank) tokenSource rule.members
  change ((List.filter _ (rule.members.zip (rule.members.map tokenSource))).mapM Prod.snd).map _ = _
  rw [alternatives, List.mapM_map]
  rfl

/-- What comes of the content of a wrapper; one without content matches the empty text. -/
def contentSource (rule : Rule) : Except String String :=
  (rule.content.map tokenSource).getD (.ok "")

theorem tokenSource_many (kind : rule.kind = .many) :
    rule.tokenSource = rule.contentSource.map (grouped · "*") := by
  rw [tokenSource, fold_eq]
  simp only [kind]
  rfl

theorem tokenSource_many1 (kind : rule.kind = .many1) :
    rule.tokenSource = rule.contentSource.map (grouped · "+") := by
  rw [tokenSource, fold_eq]
  simp only [kind]
  rfl

/-- All other wrappers mean nothing in a token. -/
theorem tokenSource_wrapper (unary : rule.kind.isUnary = true) (many : rule.kind ≠ .many)
    (many1 : rule.kind ≠ .many1) : rule.tokenSource = rule.contentSource := by
  rw [tokenSource, fold_eq]
  cases kind : rule.kind
  case many => exact absurd kind many
  case many1 => exact absurd kind many1
  case blank | string | pattern | symbol | seq | choice => rw [kind] at unary; cases unary
  all_goals rfl

theorem contentSource_eq {inner : Rule} (held : rule.content = some inner) :
    rule.contentSource = inner.tokenSource := by
  rw [contentSource, held]
  rfl

/-- A group of sources with bars between them, letter by letter. -/
theorem grouped_intercalate (sources : List (List Char)) (suffix : String) :
    (grouped ("|".intercalate (sources.map String.ofList)) suffix).toList =
      ['(', '?', ':'] ++ (['|'].intercalate sources ++ ')' :: suffix.toList) := by
  have same : (sources.map String.ofList).map String.toList = sources := by
    rw [List.map_map]
    exact List.map_id'' (fun _ => String.toList_ofList) sources
  rw [grouped, String.toList_append, String.toList_append, String.toList_append,
    String.toList_intercalate, same, List.append_assoc, List.append_assoc]
  rfl

end Treegram.Rule
