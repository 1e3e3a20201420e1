import Treegram.Language.Matcher
import Treegram.Proofs.Pattern.TextSet

/-!
What a term matches, and that the longest match is found. Behind the marks there is a set of
texts still to come; reading a character leaves what stands behind it in that set.
-/

namespace Treegram.Pattern

open TextSet (behind given)
open scoped Computability

namespace Term

/-- Whether the term looks around. -/
def asserts : Term → Bool
  | empty | chars _ => false
  | assert _ => true
  | seq first second => first.asserts || second.asserts
  | alt left right => left.asserts || right.asserts
  | star body => body.asserts

/-- The texts that a term matches as a whole, if it does not look around. -/
def texts : Term → TextSet
  | empty => 1
  | chars set => {text | ∃ c : Char, set.has c.toNat = true ∧ text = [c]}
  | assert _ => 0
  | seq first second => first.texts * second.texts
  | alt left right => left.texts + right.texts
  | star body => body.texts∗

theorem mem_texts_chars {set : CharSet} {text : List Char} :
    text ∈ (chars set).texts ↔ ∃ c : Char, set.has c.toNat = true ∧ text = [c] := Iff.rfl

theorem behind_chars (c : Char) (set : CharSet) :
    behind c (chars set).texts = given (set.has c.toNat) 1 := by
  ext rest
  rw [TextSet.mem_behind, mem_texts_chars, TextSet.mem_given, Language.mem_one]
  constructor
  · rintro ⟨d, held, same⟩
    obtain ⟨rfl, rfl⟩ := List.cons.inj same
    exact ⟨held, rfl⟩
  · rintro ⟨held, rfl⟩
    exact ⟨c, held, rfl⟩

theorem nil_notMem_chars (set : CharSet) : [] ∉ (chars set).texts := by
  rintro ⟨c, _, same⟩
  cases same

theorem nullable_iff {term : Term} (plain : term.asserts = false) (before after : Option Char) :
    term.nullable before after = true ↔ [] ∈ term.texts := by
  induction term with
  | empty => exact iff_of_true rfl Language.nil_mem_one
  | chars set => exact iff_of_false nofun (nil_notMem_chars set)
  | assert assertion => cases plain
  | seq first second left right =>
      obtain ⟨plainFirst, plainSecond⟩ := Bool.or_eq_false_iff.mp plain
      rw [nullable, Bool.and_eq_true, left plainFirst, right plainSecond]
      exact TextSet.nil_mem_mul.symm
  | alt first second left right =>
      obtain ⟨plainFirst, plainSecond⟩ := Bool.or_eq_false_iff.mp plain
      rw [nullable, Bool.or_eq_true, left plainFirst, right plainSecond]
      exact (Language.mem_add _ _ _).symm
  | star body => exact iff_of_true rfl (Language.nil_mem_kstar _)

end Term

namespace Marked

/-- The term without its marks. -/
def term : Marked → Term
  | idle term => term
  | taken set => .chars set
  | seq first second => .seq first.term second.term
  | alt left right => .alt left.term right.term
  | star body => .star body.term

/-- What is still to come behind the marks. -/
def pending : Marked → TextSet
  | idle _ => 0
  | taken _ => 1
  | seq first second => first.pending * second.term.texts + second.pending
  | alt left right => left.pending + right.pending
  | star body => body.pending * body.term.texts∗

theorem joined_term (first second : Marked) :
    (joined first second).term = .seq first.term second.term := by
  cases first <;> cases second <;> rfl

theorem either_term (left right : Marked) : (either left right).term = .alt left.term right.term := by
  cases left <;> cases right <;> rfl

theorem repeated_term (body : Marked) : (repeated body).term = .star body.term := by
  cases body <;> rfl

theorem offer_term (set : CharSet) (c : Char) : (offer set c).term = .chars set := by
  rw [offer]
  split <;> rfl

theorem joined_pending (first second : Marked) :
    (joined first second).pending = first.pending * second.term.texts + second.pending := by
  cases first with
  | idle first =>
      cases second with
      | idle second => exact ((congrArg (· + (0 : TextSet)) (zero_mul _)).trans (add_zero 0)).symm
      | _ => rfl
  | _ => rfl

theorem either_pending (left right : Marked) :
    (either left right).pending = left.pending + right.pending := by
  cases left with
  | idle left =>
      cases right with
      | idle right => exact (add_zero (0 : TextSet)).symm
      | _ => rfl
  | _ => rfl

theorem repeated_pending (body : Marked) :
    (repeated body).pending = body.pending * body.term.texts∗ := by
  cases body with
  | idle body => exact (zero_mul _).symm
  | _ => rfl

theorem offer_pending (set : CharSet) (c : Char) :
    (offer set c).pending = given (set.has c.toNat) 1 := by
  rw [offer]
  cases set.has c.toNat <;> rfl

theorem isIdle_pending {marked : Marked} (still : marked.isIdle = true) : marked.pending = 0 := by
  cases marked with
  | idle term => rfl
  | _ => cases still

/-- The end is reached when nothing more has to come. -/
theorem passes_iff {marked : Marked} (plain : marked.term.asserts = false)
    (before after : Option Char) (reached : Bool) :
    marked.passes before after reached = true ↔
      [] ∈ marked.pending + given reached marked.term.texts := by
  induction marked generalizing reached with
  | idle term =>
      have plain : term.asserts = false := plain
      rw [passes, Bool.and_eq_true, Term.nullable_iff plain, pending, zero_add, TextSet.mem_given]
      rfl
  | taken set => exact iff_of_true rfl (Or.inl Language.nil_mem_one)
  | seq first second left right =>
      obtain ⟨plainFirst, plainSecond⟩ := Bool.or_eq_false_iff.mp plain
      rw [passes, right plainSecond, Language.mem_add, TextSet.mem_given, left plainFirst, pending,
        term, Term.texts, ← TextSet.given_mul]
      simp only [Language.mem_add, TextSet.nil_mem_mul]
      tauto
  | alt first second left right =>
      obtain ⟨plainFirst, plainSecond⟩ := Bool.or_eq_false_iff.mp plain
      rw [passes, Bool.or_eq_true, left plainFirst, right plainSecond, pending, term, Term.texts,
        TextSet.given_add]
      simp only [Language.mem_add]
      tauto
  | star body ih =>
      rw [passes, Bool.or_eq_true, ih plain, pending, term, Term.texts, Language.mem_add,
        Language.mem_add, TextSet.nil_mem_mul, TextSet.mem_given, TextSet.mem_given]
      have empty := Language.nil_mem_kstar body.term.texts
      tauto

end Marked

theorem Term.enter_seq (before : Option Char) (c : Char) (first second : Term) :
    (seq first second).enter before c =
      if (first.enter before c).2 then
        (.joined (first.enter before c).1 (second.enter before c).1, (second.enter before c).2)
      else (.joined (first.enter before c).1 (.idle second), false) := rfl

theorem Term.enter_term (before : Option Char) (c : Char) (term : Term) :
    (term.enter before c).1.term = term := by
  induction term with
  | empty | assert => rfl
  | chars set => exact Marked.offer_term set c
  | seq first second left right =>
      rw [enter_seq]
      split
      · rw [Marked.joined_term, left, right]
      · rw [Marked.joined_term, left]
        rfl
  | alt first second left right => rw [enter, Marked.either_term, left, right]
  | star body ih => rw [enter, Marked.repeated_term, ih]

/-- Entering a term takes the first character of its texts. -/
theorem Term.enter_pending (before : Option Char) (c : Char) {term : Term}
    (plain : term.asserts = false) : (term.enter before c).1.pending = behind c term.texts := by
  induction term with
  | empty => exact (TextSet.behind_one c).symm
  | chars set => exact (Marked.offer_pending set c).trans (behind_chars c set).symm
  | assert assertion => cases plain
  | seq first second left right =>
      obtain ⟨plainFirst, plainSecond⟩ := Bool.or_eq_false_iff.mp plain
      have told := nullable_iff plainFirst before (some c)
      rw [← enter_passes] at told
      rw [texts, TextSet.behind_mul c told, enter_seq]
      split
      · rename_i reached
        rw [Marked.joined_pending, left plainFirst, right plainSecond, enter_term, reached]
        rfl
      · rename_i apart
        rw [Marked.joined_pending, left plainFirst, Bool.eq_false_iff.mpr apart]
        rfl
  | alt first second left right =>
      obtain ⟨plainFirst, plainSecond⟩ := Bool.or_eq_false_iff.mp plain
      rw [enter, Marked.either_pending, left plainFirst, right plainSecond]
      rfl
  | star body ih =>
      rw [enter, Marked.repeated_pending, ih plain, enter_term]
      exact (TextSet.behind_kstar c body.texts).symm

namespace Marked

theorem read_term (before : Option Char) (c : Char) (reached : Bool) (marked : Marked) :
    (marked.read before c reached).1.term = marked.term := by
  induction marked generalizing reached with
  | idle term =>
      rw [read]
      split
      · exact Term.enter_term before c term
      · rfl
  | taken set =>
      rw [read]
      split
      · exact offer_term set c
      · rfl
  | seq first second left right => rw [read, joined_term, left, right]; rfl
  | alt first second left right => rw [read, either_term, left, right]; rfl
  | star body ih => rw [read, repeated_term, ih]; rfl

/-- Reading takes the first character of what is still to come. -/
theorem read_pending (before : Option Char) (c : Char) (reached : Bool) {marked : Marked}
    (plain : marked.term.asserts = false) :
    (marked.read before c reached).1.pending =
      behind c (marked.pending + given reached marked.term.texts) := by
  induction marked generalizing reached with
  | idle term =>
      cases reached with
      | false => exact (congrArg (behind c) (add_zero (0 : TextSet))).symm
      | true =>
          exact (Term.enter_pending before c plain).trans
            (congrArg (behind c) (zero_add term.texts)).symm
  | taken set =>
      rw [read, TextSet.behind_add, pending, TextSet.behind_one, zero_add, TextSet.behind_given, term,
        Term.behind_chars, ← offer_pending]
      cases reached <;> rfl
  | seq first second left right =>
      obtain ⟨plainFirst, plainSecond⟩ := Bool.or_eq_false_iff.mp plain
      -- The second part is entered if the first one can end here, that is, if there is an empty text
      -- among those it has yet to come to.
      have told := passes_iff plainFirst before (some c) reached
      rw [← read_passes] at told
      rw [read, joined_pending, left reached plainFirst, right _ plainSecond, read_term]
      have parted (right : TextSet) := @TextSet.behind_mul c _ right _ told
      rw [pending, term, Term.texts, ← TextSet.given_mul, add_right_comm, ← add_mul,
        TextSet.behind_add c (_ * _), parted, TextSet.behind_add c second.pending,
        TextSet.behind_given, add_assoc, add_comm (behind c second.pending)]
  | alt first second left right =>
      obtain ⟨plainFirst, plainSecond⟩ := Bool.or_eq_false_iff.mp plain
      rw [read, either_pending, left reached plainFirst, right reached plainSecond, pending, term,
        Term.texts, TextSet.given_add, ← TextSet.behind_add, add_add_add_comm]
  | star body ih =>
      have plain : body.term.asserts = false := plain
      have told := passes_iff plain before (some c) false
      rw [TextSet.given, if_neg Bool.false_ne_true, add_zero] at told
      rw [read, repeated_pending, ih _ plain, read_term, pending, term, Term.texts,
        TextSet.behind_add, TextSet.behind_add, TextSet.behind_mul c told, TextSet.behind_given,
        TextSet.behind_given, TextSet.behind_kstar, TextSet.given_or, add_mul, add_mul,
        TextSet.given_mul, TextSet.given_mul, add_assoc,
        add_comm (given reached (behind c body.term.texts * body.term.texts∗))]

/-- The end is reached from the marks when nothing more has to come. -/
theorem passes_pending {marked : Marked} (plain : marked.term.asserts = false)
    (before after : Option Char) :
    marked.passes before after false = true ↔ [] ∈ marked.pending := by
  rw [passes_iff plain, TextSet.given, if_neg nofun, add_zero]

theorem behind_pending (before : Option Char) (c : Char) {marked : Marked}
    (plain : marked.term.asserts = false) :
    (marked.read before c false).1.pending = behind c marked.pending := by
  rw [read_pending before c false plain, TextSet.given, if_neg Bool.false_ne_true, add_zero]

end Marked

/-- The longest of the texts that the input begins with, if it begins with any. -/
def IsLongestFront (texts : TextSet) (input front : List Char) : Prop :=
  front <+: input ∧ front ∈ texts
    ∧ ∀ other, other <+: input → other ∈ texts → other.length ≤ front.length

theorem IsLongestFront.cons {texts : TextSet} {c : Char} {rest front : List Char}
    (longest : IsLongestFront (behind c texts) rest front) :
    IsLongestFront texts (c :: rest) (c :: front) := by
  obtain ⟨inside, member, most⟩ := longest
  refine ⟨List.cons_prefix_cons.mpr ⟨rfl, inside⟩, member, fun other fits found => ?_⟩
  cases other with
  | nil => exact Nat.zero_le _
  | cons d other =>
      obtain ⟨rfl, inner⟩ := List.cons_prefix_cons.mp fits
      exact Nat.succ_le_succ (most other inner found)

/-- The empty text is the longest if nothing can follow. -/
theorem IsLongestFront.nil {texts : TextSet} {c : Char} {rest : List Char} (empty : [] ∈ texts)
    (ends : ∀ front, front <+: rest → front ∉ behind c texts) :
    IsLongestFront texts (c :: rest) [] := by
  refine ⟨List.nil_prefix, empty, fun other fits found => ?_⟩
  cases other with
  | nil => exact Nat.le_refl _
  | cons d other =>
      obtain ⟨rfl, inner⟩ := List.cons_prefix_cons.mp fits
      exact absurd found (ends other inner)

/-- The answer from a place on: where the longest of the texts ends, or the best answer so far if the
input does not begin with any. -/
def AnswersFrom (texts : TextSet) (input : List Char) (position : Nat) (best : Option Nat)
    (answer : Option Nat) : Prop :=
  (∃ front, IsLongestFront texts input front ∧ answer = some (position + byteLength front))
    ∨ ((∀ front, front <+: input → front ∉ texts) ∧ answer = best)

/-- Where nothing can follow, the answer is settled at this place. -/
theorem AnswersFrom.settled {texts : TextSet} {c : Char} {rest : List Char} {position : Nat}
    {best answer : Option Nat} {passed : Bool} (told : passed = true ↔ [] ∈ texts)
    (ends : ∀ front, front <+: rest → front ∉ behind c texts)
    (same : answer = if passed then some position else best) :
    AnswersFrom texts (c :: rest) position best answer := by
  cases passed with
  | true => exact Or.inl ⟨[], .nil (told.mp rfl) ends, same⟩
  | false =>
      refine Or.inr ⟨fun front fits found => ?_, same⟩
      cases front with
      | nil => exact Bool.false_ne_true (told.mpr found)
      | cons d front =>
          obtain ⟨rfl, inner⟩ := List.cons_prefix_cons.mp fits
          exact ends front inner found

/-- What is found behind a character is found with it, and if nothing is found there, the place in
front of the character counts. -/
theorem AnswersFrom.cons {texts : TextSet} {c : Char} {rest : List Char} {position : Nat}
    {best answer : Option Nat} {passed : Bool} (told : passed = true ↔ [] ∈ texts)
    (behind : AnswersFrom (behind c texts) rest (position + c.utf8Size)
      (if passed then some position else best) answer) :
    AnswersFrom texts (c :: rest) position best answer := by
  rcases behind with ⟨front, longest, same⟩ | ⟨ends, same⟩
  · refine Or.inl ⟨c :: front, longest.cons, same.trans ?_⟩
    rw [Nat.add_assoc]
    rfl
  · exact .settled told ends same

/-- Behind a character the best match so far may be a better one, and without a mark left it is the
answer. -/
theorem longestFrom_cons (marked : Marked) (before : Option Char) (position : Nat) (best : Option Nat)
    (c : Char) (rest : List Char) :
    longestFrom marked before position best (c :: rest) =
      if (marked.read before c false).1.isIdle then
        if (marked.read before c false).2 then some position else best
      else
        longestFrom (marked.read before c false).1 (some c) (position + c.utf8Size)
          (if (marked.read before c false).2 then some position else best) rest :=
  rfl

/-- Going on finds the longest text that is still to come, or leaves the best match as it is. -/
theorem longestFrom_exact {marked : Marked} (plain : marked.term.asserts = false)
    (before : Option Char) (position : Nat) (best : Option Nat) (text : List Char) :
    AnswersFrom marked.pending text position best (longestFrom marked before position best text) := by
  induction text generalizing marked before position best with
  | nil =>
      rw [longestFrom]
      split
      · rename_i passed
        have empty := (Marked.passes_pending plain before none).mp passed
        refine Or.inl ⟨[], ⟨List.nil_prefix, empty, fun other fits _ => ?_⟩, rfl⟩
        rw [List.prefix_nil.mp fits]
      · rename_i more
        refine Or.inr ⟨fun front fits found => more ?_, rfl⟩
        rw [List.prefix_nil.mp fits] at found
        exact (Marked.passes_pending plain before none).mpr found
  | cons c rest ih =>
      have nextPlain : (marked.read before c false).1.term.asserts = false := by
        rw [Marked.read_term]
        exact plain
      have told := Marked.passes_pending plain before (some c)
      rw [← Marked.read_passes] at told
      have nextPending := Marked.behind_pending before c plain
      have unfolded := longestFrom_cons marked before position best c rest
      by_cases still : (marked.read before c false).1.isIdle = true
      · -- No mark is left, so the rest of the text is not looked at.
        rw [if_pos still] at unfolded
        refine .settled told (fun front _ found => ?_) unfolded
        rw [← nextPending, Marked.isIdle_pending still] at found
        exact Language.notMem_zero front found
      · rw [if_neg still] at unfolded
        have further := ih nextPlain (some c) (position + c.utf8Size)
          (if (marked.read before c false).2 then some position else best)
        rw [nextPending] at further
        rw [unfolded]
        exact .cons told further

/-- The answer to what is the longest text, not an empty one, that the input begins with: its length
in bytes. -/
def AnswersLongest (texts : TextSet) (input : List Char) : Option Nat → Prop
  | none => ∀ front, front <+: input → front ∈ texts → front = []
  | some length =>
      ∃ front, front ≠ [] ∧ IsLongestFront texts input front ∧ length = byteLength front

/-- The longest match is the longest text of the term that the input begins with. -/
theorem Term.longest?_exact {term : Term} (plain : term.asserts = false) (input : List Char) :
    AnswersLongest term.texts input (term.longest? input) := by
  cases input with
  | nil => exact fun front fits _ => List.prefix_nil.mp fits
  | cons c rest =>
      have entered : (term.enter none c).1.term.asserts = false := by
        rw [enter_term]
        exact plain
      -- The first character is read on entering, so the run begins behind it.
      rcases longestFrom_exact entered (some c) c.utf8Size none rest with
        ⟨front, longest, answer⟩ | ⟨ends, answer⟩
      · rw [enter_pending none c plain] at longest
        rw [longest?, answer]
        exact ⟨c :: front, List.cons_ne_nil c front, longest.cons, rfl⟩
      · rw [enter_pending none c plain] at ends
        rw [longest?, answer]
        intro front fits found
        cases front with
        | nil => rfl
        | cons d front =>
            obtain ⟨rfl, inner⟩ := List.cons_prefix_cons.mp fits
            exact absurd found (ends front inner)

/-- Nothing is found if no text of the term begins like the input. -/
theorem Term.longest?_of_idle {term : Term} (plain : term.asserts = false) {c : Char}
    (still : (term.enter none c).1.isIdle = true) (rest : List Char) :
    term.longest? (c :: rest) = none := by
  have answers := longest?_exact plain (c :: rest)
  have nothing := enter_pending none c plain
  rw [Marked.isIdle_pending still] at nothing
  cases answer : term.longest? (c :: rest) with
  | none => rfl
  | some length =>
      rw [answer] at answers
      obtain ⟨front, solid, ⟨fits, member, _⟩, _⟩ := answers
      obtain ⟨d, front, rfl⟩ := List.exists_cons_of_ne_nil solid
      obtain ⟨rfl, _⟩ := List.cons_prefix_cons.mp fits
      exact absurd (nothing ▸ TextSet.mem_behind.mpr member) (Language.notMem_zero front)

/-- What a text begins with is the whole text if it takes as many bytes. -/
theorem eq_of_byteLength {front text : List Char} (fits : front <+: text)
    (same : byteLength text = byteLength front) : front = text := by
  induction front generalizing text with
  | nil =>
      cases text with
      | nil => rfl
      | cons c rest =>
          have positive : c.utf8Size + byteLength rest = 0 := same
          exact absurd (Nat.eq_zero_of_add_eq_zero positive).1 (Nat.ne_of_gt c.utf8Size_pos)
  | cons c front ih =>
      cases text with
      | nil => exact absurd (List.prefix_nil.mp fits) (List.cons_ne_nil c front)
      | cons d rest =>
          obtain ⟨rfl, inner⟩ := List.cons_prefix_cons.mp fits
          rw [ih inner (Nat.add_left_cancel same)]

/-- The texts of a term are those that it matches as a whole. -/
theorem Term.mem_texts_iff {term : Term} (plain : term.asserts = false) {text : List Char}
    (solid : text ≠ []) : text ∈ term.texts ↔ term.longest? text = some (byteLength text) := by
  have answers := longest?_exact plain text
  cases answer : term.longest? text with
  | none =>
      rw [answer] at answers
      exact ⟨fun found => absurd (answers text (List.prefix_refl text) found) solid, nofun⟩
  | some length =>
      rw [answer] at answers
      obtain ⟨front, _, ⟨fits, member, most⟩, rfl⟩ := answers
      constructor
      · intro found
        rw [fits.eq_of_length_le (most text (List.prefix_refl text) found)]
      · intro same
        rw [← eq_of_byteLength fits (Option.some.inj same).symm]
        exact member

end Treegram.Pattern
