import Mathlib.Computability.Language

/-!
Sets of texts. What may stand behind a first character is worked out along the operations that
sets are made with, and so is whether the empty text is in them.
-/

/-- A set of texts, with concatenation as its product and union as its sum. -/
abbrev TextSet : Type := Language Char

namespace Treegram.TextSet

open scoped Computability

/-- What stands behind `c` in the texts that begin with it. -/
def behind (c : Char) (texts : TextSet) : TextSet := {rest | c :: rest ∈ texts}

theorem mem_behind {c : Char} {texts : TextSet} {rest : List Char} :
    rest ∈ behind c texts ↔ c :: rest ∈ texts := Iff.rfl

theorem behind_add (c : Char) (left right : TextSet) :
    behind c (left + right) = behind c left + behind c right := rfl

theorem behind_one (c : Char) : behind c 1 = 0 := by
  ext rest
  rw [mem_behind, Language.mem_one]
  exact iff_of_false (List.cons_ne_nil c rest) (Language.notMem_zero rest)

theorem nil_mem_mul {left right : TextSet} :
    [] ∈ left * right ↔ [] ∈ left ∧ [] ∈ right := by
  rw [Language.mem_mul]
  constructor
  · rintro ⟨first, inLeft, second, inRight, joined⟩
    obtain ⟨rfl, rfl⟩ := List.append_eq_nil_iff.mp joined
    exact ⟨inLeft, inRight⟩
  · rintro ⟨inLeft, inRight⟩
    exact ⟨[], inLeft, [], inRight, rfl⟩

/-- The texts, if they count at all. -/
def given (counts : Bool) (texts : TextSet) : TextSet := if counts then texts else 0

theorem mem_given {counts : Bool} {texts : TextSet} {text : List Char} :
    text ∈ given counts texts ↔ counts = true ∧ text ∈ texts := by
  cases counts with
  | false => exact iff_of_false (Language.notMem_zero text) nofun
  | true => exact (and_iff_right rfl).symm

theorem behind_given (c : Char) (counts : Bool) (texts : TextSet) :
    behind c (given counts texts) = given counts (behind c texts) := by
  cases counts <;> rfl

theorem given_mul (counts : Bool) (left right : TextSet) :
    given counts left * right = given counts (left * right) := by
  cases counts with
  | false => exact zero_mul right
  | true => rfl

theorem given_add (counts : Bool) (left right : TextSet) :
    given counts (left + right) = given counts left + given counts right := by
  cases counts with
  | false => exact (add_zero 0).symm
  | true => rfl

theorem given_or (first second : Bool) (texts : TextSet) :
    given (first || second) texts = given first texts + given second texts := by
  cases first with
  | false => exact (zero_add _).symm
  | true =>
      cases second with
      | false => exact (add_zero texts).symm
      | true => exact (Language.add_self texts).symm

/-- A first part that can be empty leaves the character to the second one. -/
theorem behind_mul (c : Char) {left right : TextSet} {empty : Bool}
    (told : empty = true ↔ [] ∈ left) :
    behind c (left * right) = behind c left * right + given empty (behind c right) := by
  ext rest
  rw [mem_behind, Language.mem_mul, Language.mem_add, Language.mem_mul, mem_given, mem_behind, told]
  constructor
  · rintro ⟨first, inLeft, second, inRight, joined⟩
    cases first with
    | nil => exact Or.inr ⟨inLeft, joined ▸ inRight⟩
    | cons d first =>
        obtain ⟨rfl, rfl⟩ := List.cons.inj joined
        exact Or.inl ⟨first, inLeft, second, inRight, rfl⟩
  · rintro (⟨first, inLeft, second, inRight, rfl⟩ | ⟨empty, inRight⟩)
    · exact ⟨c :: first, inLeft, second, inRight, rfl⟩
    · exact ⟨[], empty, c :: rest, inRight, rfl⟩

/-- The first repetition that is not empty takes the character. -/
theorem behind_kstar (c : Char) (texts : TextSet) : behind c texts∗ = behind c texts * texts∗ := by
  ext rest
  rw [mem_behind, Language.mem_kstar_iff_exists_nonempty, Language.mem_mul]
  constructor
  · rintro ⟨parts, joined, good⟩
    cases parts with
    | nil => cases joined
    | cons first others =>
        obtain ⟨inside, solid⟩ := good first List.mem_cons_self
        cases first with
        | nil => exact absurd rfl solid
        | cons d first =>
            obtain ⟨rfl, rfl⟩ := List.cons.inj joined
            have others := Language.join_mem_kstar fun part found =>
              (good part (List.mem_cons_of_mem _ found)).1
            exact ⟨first, inside, _, others, rfl⟩
  · rintro ⟨first, inside, second, others, rfl⟩
    have joined : (c :: first) ++ second ∈ texts∗ := by
      rw [← Language.one_add_self_mul_kstar_eq_kstar]
      exact Or.inr (Language.append_mem_mul inside others)
    exact Language.mem_kstar_iff_exists_nonempty.mp joined

/-- Taking many of the others at a time makes the same texts. -/
theorem kstar_add_many1 (one other : TextSet) : (one + other * other∗)∗ = (one + other)∗ := by
  apply le_antisymm
  · have many : other * other∗ ≤ (one + other)∗ := by
      have once : other ≤ one + other := le_add_self
      calc
        other * other∗ ≤ (one + other)∗ * (one + other)∗ :=
          mul_le_mul' (once.trans le_kstar) (kstar_mono once)
        _ = (one + other)∗ := kstar_mul_kstar _
    calc
      (one + other * other∗)∗ ≤ ((one + other)∗)∗ :=
        kstar_mono (add_le (le_self_add.trans le_kstar) many)
      _ = (one + other)∗ := kstar_idem _
  · have once : other ≤ other * other∗ := le_mul_of_one_le_right' one_le_kstar
    exact kstar_mono (add_le_add_right once one)

end Treegram.TextSet
