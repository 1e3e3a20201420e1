import Treegram.Pattern.Expr
import Treegram.Proofs.Pattern.Matching

/-!
What sequences, choices and repetitions come down to as sets of texts, however their terms are
put together, and that a repetition may be simplified when its body matches nothing but the
empty text.
-/

namespace Treegram.Pattern

open scoped Computability

namespace CharSet

theorem has_one {c d : Char} : (one c).has d.toNat = true ↔ d = c := by
  rw [← Char.toNat_inj]
  simp only [one, has, Unicode.Ranges.has, Bool.or_false]
  split <;> simp <;> omega

/-- The characters of a list, as a class spells them one by one. -/
def among (chars : List Char) : CharSet :=
  chars.foldl (fun set c => .union set (.one c)) (.ranges [])

theorem has_among {chars : List Char} {d : Char} :
    (among chars).has d.toNat = true ↔ d ∈ chars := by
  have grown (set : CharSet) : (chars.foldl (fun set c => CharSet.union set (.one c)) set).has d.toNat =
      true ↔ set.has d.toNat = true ∨ d ∈ chars := by
    induction chars generalizing set with
    | nil => simp
    | cons c rest ih =>
        rw [List.foldl_cons, ih, has, Bool.or_eq_true, has_one, List.mem_cons, or_assoc]
  rw [among, grown]
  simp [has, Unicode.Ranges.has]

end CharSet

namespace Term

section JoinAll
variable {α : Type} {join : Term → Term → Term} {unit : Term} {measure : Term → α} {op : α → α → α}

theorem pairUp_measure (assoc : ∀ a b c, op (op a b) c = op a (op b c))
    (joins : ∀ first second, measure (join first second) = op (measure first) (measure second))
    (start : α) : ∀ terms : List Term,
      ((pairUp join terms).map measure).foldr op start = (terms.map measure).foldr op start
  | [] | [_] => rfl
  | first :: second :: rest => by
      rw [pairUp, List.map_cons, List.foldr_cons, pairUp_measure assoc joins start rest, joins, assoc]
      rfl

/-- What is measured along a join does not depend on how a row is joined. -/
theorem joinAll_measure (assoc : ∀ a b c, op (op a b) c = op a (op b c))
    (joins : ∀ first second, measure (join first second) = op (measure first) (measure second))
    (neutral : ∀ a, op a (measure unit) = a) (terms : List Term) :
    measure (joinAll join unit terms) = (terms.map measure).foldr op (measure unit) := by
  fun_induction joinAll join unit terms with
  | case1 => rfl
  | case2 only => exact (neutral _).symm
  | case3 first second rest ih =>
      rw [ih, List.map_cons, List.foldr_cons, pairUp_measure assoc joins, joins, assoc]
      rfl

end JoinAll

theorem texts_sequence (terms : List Term) : (sequence terms).texts = (terms.map texts).prod :=
  joinAll_measure mul_assoc (fun _ _ => rfl) mul_one terms

theorem never_texts : never.texts = 0 := by
  ext text
  refine iff_of_false ?_ (Language.notMem_zero text)
  rintro ⟨c, held, _⟩
  cases held

theorem texts_choice (terms : List Term) : (choice terms).texts = (terms.map texts).sum := by
  have joined : (choice terms).texts = (terms.map texts).foldr (· + ·) never.texts :=
    joinAll_measure add_assoc (fun _ _ => rfl) (fun a => by rw [never_texts, add_zero]) terms
  rw [joined, never_texts]
  rfl

theorem foldr_asserts (terms : List Term) :
    (terms.map asserts).foldr or false = terms.any asserts := by
  induction terms with
  | nil => rfl
  | cons term rest ih => rw [List.map_cons, List.foldr_cons, ih, List.any_cons]

theorem asserts_sequence (terms : List Term) : (sequence terms).asserts = terms.any asserts := by
  have joined : (sequence terms).asserts = (terms.map asserts).foldr or false :=
    joinAll_measure Bool.or_assoc (fun _ _ => rfl) Bool.or_false terms
  exact joined.trans (foldr_asserts terms)

theorem asserts_choice (terms : List Term) : (choice terms).asserts = terms.any asserts := by
  have joined : (choice terms).asserts = (terms.map asserts).foldr or false :=
    joinAll_measure Bool.or_assoc (fun _ _ => rfl) Bool.or_false terms
  exact joined.trans (foldr_asserts terms)

theorem times_many1 (body : Term) : body.times 1 none = seq body (star body) := by
  have once : power body 1 = body := by rw [power]; rfl
  rw [times, once]
  rfl

theorem texts_power (body : Term) (count : Nat) : (body.power count).texts = body.texts ^ count := by
  fun_induction power body count with
  | case1 => rfl
  | case2 => exact (pow_one _).symm
  | case3 count some other half even ih =>
      have twice : count / 2 + count / 2 = count := by omega
      rw [texts, ih, ← pow_add, twice]
  | case4 count some other half odd ih =>
      have twice : count / 2 + count / 2 + 1 = count := by omega
      rw [texts, texts, ih, ← pow_add, ← pow_succ', twice]

end Term

namespace Expr

/-- The texts that a pattern matches as a whole, if it does not look around. -/
def texts (expr : Expr) : TextSet := expr.term.texts

def asserts (expr : Expr) : Bool := expr.term.asserts

theorem texts_sequence (parts : List Expr) : (sequence parts).texts = (parts.map texts).prod := by
  rw [texts, term, terms_eq, List.reverse_nil, List.nil_append, Term.texts_sequence, List.map_map]
  rfl

theorem texts_choice (alternatives : List Expr) :
    (choice alternatives).texts = (alternatives.map texts).sum := by
  rw [texts, term, terms_eq, List.reverse_nil, List.nil_append, Term.texts_choice, List.map_map]
  rfl

theorem asserts_sequence (parts : List Expr) : (sequence parts).asserts = parts.any asserts := by
  rw [asserts, term, terms_eq, List.reverse_nil, List.nil_append, Term.asserts_sequence, List.any_map]
  rfl

theorem asserts_choice (alternatives : List Expr) :
    (choice alternatives).asserts = alternatives.any asserts := by
  rw [asserts, term, terms_eq, List.reverse_nil, List.nil_append, Term.asserts_choice, List.any_map]
  rfl

/-- What is said to match only the empty text does so. -/
def IsHonest (expr : Expr) : Prop :=
  expr.isWidthless = true → expr.asserts = false → ∀ text ∈ expr.texts, text = []

theorem honest_nothing : nothing.IsHonest := fun _ _ _ found => found

theorem honest_chars (set : CharSet) : (chars set).IsHonest := fun widthless => nomatch widthless

theorem honest_assert (assertion : Assertion) : (assert assertion).IsHonest :=
  fun _ plain => nomatch plain

theorem empty_mul {left right : TextSet} (first : ∀ text ∈ left, text = [])
    (second : ∀ text ∈ right, text = []) : ∀ text ∈ left * right, text = [] := by
  rintro _ ⟨front, inLeft, rest, inRight, rfl⟩
  rw [first front inLeft, second rest inRight]
  rfl

theorem empty_add {left right : TextSet} (first : ∀ text ∈ left, text = [])
    (second : ∀ text ∈ right, text = []) : ∀ text ∈ left + right, text = [] := by
  rintro text (inLeft | inRight)
  · exact first text inLeft
  · exact second text inRight

theorem honest_sequence {parts : List Expr} (honest : ∀ part ∈ parts, part.IsHonest) :
    (sequence parts).IsHonest := by
  intro widthless plain
  rw [isWidthless, areWidthless_eq] at widthless
  rw [asserts_sequence] at plain
  rw [texts_sequence]
  induction parts with
  | nil => exact fun _ found => found
  | cons part rest ih =>
      rw [List.all_cons, Bool.and_eq_true] at widthless
      rw [List.any_cons, Bool.or_eq_false_iff] at plain
      rw [List.map_cons, List.prod_cons]
      have first := honest part List.mem_cons_self widthless.1 plain.1
      exact empty_mul first (ih (fun part found => honest part (List.mem_cons_of_mem _ found))
        widthless.2 plain.2)

theorem honest_choice {alternatives : List Expr} (honest : ∀ part ∈ alternatives, part.IsHonest) :
    (choice alternatives).IsHonest := by
  intro widthless plain
  rw [isWidthless, areWidthless_eq] at widthless
  rw [asserts_choice] at plain
  rw [texts_choice]
  induction alternatives with
  | nil => exact fun text none => absurd none (Language.notMem_zero text)
  | cons part rest ih =>
      rw [List.all_cons, Bool.and_eq_true] at widthless
      rw [List.any_cons, Bool.or_eq_false_iff] at plain
      rw [List.map_cons, List.sum_cons]
      have first := honest part List.mem_cons_self widthless.1 plain.1
      exact empty_add first (ih (fun part found => honest part (List.mem_cons_of_mem _ found))
        widthless.2 plain.2)

theorem texts_times_optional (body : Expr) : (times body 0 (some 1)).texts = body.texts + 1 := rfl

theorem texts_times_exactly (body : Expr) {count : Nat} (positive : 0 < count) :
    (times body count (some count)).texts = body.texts ^ count := by
  rw [texts, term, Term.times, if_neg positive.ne', if_pos rfl, Term.texts_power, texts]

theorem texts_star (body : Expr) : (times body 0 none).texts = body.texts∗ := rfl

theorem texts_plus (body : Expr) : (times body 1 none).texts = body.texts * body.texts∗ := by
  rw [texts, term, Term.times_many1]
  rfl

theorem mem_chars_pow {set : CharSet} {count : Nat} {text : List Char} :
    text ∈ (chars set).texts ^ count ↔
      text.length = count ∧ ∀ c ∈ text, set.has c.toNat = true := by
  induction count generalizing text with
  | zero =>
      rw [pow_zero, Language.mem_one, List.length_eq_zero_iff]
      exact ⟨fun none => ⟨none, by simp [none]⟩, And.left⟩
  | succ count ih =>
      rw [pow_succ', Language.mem_mul]
      constructor
      · rintro ⟨_, ⟨c, held, rfl⟩, rest, inside, rfl⟩
        obtain ⟨length, all⟩ := ih.mp inside
        exact ⟨congrArg (· + 1) length, List.forall_mem_cons.mpr ⟨held, all⟩⟩
      · rintro ⟨length, all⟩
        obtain ⟨c, rest, rfl⟩ := List.exists_cons_of_length_eq_add_one length
        obtain ⟨held, all⟩ := List.forall_mem_cons.mp all
        exact ⟨[c], ⟨c, held, rfl⟩, rest, ih.mpr ⟨Nat.succ.inj length, all⟩, rfl⟩

/-- Behind a character. -/
theorem mem_one_mul {c : Char} {texts : TextSet} {text : List Char} :
    text ∈ (chars (.one c)).texts * texts ↔ ∃ rest ∈ texts, text = c :: rest := by
  rw [Language.mem_mul]
  constructor
  · rintro ⟨_, ⟨d, held, rfl⟩, rest, inside, rfl⟩
    obtain rfl := CharSet.has_one.mp held
    exact ⟨rest, inside, rfl⟩
  · rintro ⟨rest, inside, rfl⟩
    exact ⟨[c], ⟨c, CharSet.has_one.mpr rfl, rfl⟩, rest, inside, rfl⟩

theorem honest_repeated {body : Expr} (honest : body.IsHonest) (low : Nat) (high : Option Nat) :
    (body.repeated low high).IsHonest := by
  rw [repeated]
  split
  · exact honest_nothing
  · rename_i positive
    split
    · split
      · intro widthless plain
        have plain : body.asserts = false := (Bool.or_eq_false_iff.mp plain).1
        exact empty_add (honest widthless plain) fun _ found => found
      · exact honest
    · rename_i solid
      split
      · exact honest
      · intro widthless
        rw [isWidthless, Bool.or_eq_true, beq_iff_eq] at widthless
        exact (widthless.elim positive solid).elim

/-- What may be left out is kept as it is, whatever it is. -/
theorem repeated_optional (body : Expr) : body.repeated 0 (some 1) = times body 0 (some 1) := by
  rw [repeated, if_neg (by decide)]
  split
  · rfl
  · rw [if_neg (by decide)]

theorem texts_many {body : Expr} (honest : body.IsHonest) (plain : body.asserts = false) :
    (body.repeated 0 none).texts = body.texts∗ := by
  rw [repeated, if_neg nofun]
  split
  · rename_i widthless
    -- A body that matches only the empty text is taken once at most, which comes to the same.
    have blank : body.texts ≤ 1 := honest widthless plain
    rw [if_pos rfl, texts_times_optional, kstar_eq_one.mpr blank]
    exact Set.union_eq_self_of_subset_left blank
  · rfl

theorem texts_many1 {body : Expr} (honest : body.IsHonest) (plain : body.asserts = false) :
    (body.repeated 1 none).texts = body.texts * body.texts∗ := by
  rw [repeated, if_neg nofun]
  split
  · rename_i widthless
    have blank : body.texts ≤ 1 := honest widthless plain
    rw [if_neg nofun, kstar_eq_one.mpr blank, mul_one]
  · rw [if_neg (by decide), texts, term, Term.times_many1]
    rfl

theorem asserts_many (body : Expr) : (body.repeated 0 none).asserts = body.asserts := by
  rw [repeated, if_neg nofun]
  split
  · exact Bool.or_false _
  · rfl

theorem asserts_many1 (body : Expr) : (body.repeated 1 none).asserts = body.asserts := by
  rw [repeated, if_neg nofun]
  split
  · rfl
  · rw [if_neg (by decide), asserts, term, Term.times_many1]
    exact Bool.or_self _

end Expr

end Treegram.Pattern
