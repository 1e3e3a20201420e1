import Treegram.Builtin.Load
import Treegram.Proofs.Language.TokenMeaning
import Treegram.Proofs.Pattern.Room

/-!
The parts of names, with the largest sets of the built-in grammar. To lay out the letters byte by byte
is too much work for a proof, so their boundaries are counted, and the patterns are admitted because
they take no more room than so many boundaries can.
-/

namespace Treegram.Builtin

open Pattern (CharSet Footprint Limits Outline)
open Unicode (Category)

/-- A name, or a part of one behind a full stop. -/
def nameParts : List Rule := [.pattern segment, .choice [.pattern segment, quotedSegment]]

/-- Whether a matcher can be made for a body, wherever it stands. -/
def makes (body : Rule) : Bool := (tokenMatcher .standard "" body).isOk

theorem makes_of_read {body : Rule} {source : String} {piece : Pattern.Piece}
    (other : body.stringText? = none) (made : body.tokenSource = .ok source)
    (read : Pattern.Piece.read? source.toList = some piece)
    (admitted : Limits.standard.admit piece = true) : makes body = true := by
  rw [makes, (tokenMatcher_pattern other made).mpr ⟨piece, read, admitted, rfl⟩]
  rfl

/-! ## The sets -/

def letters : CharSet := .property (.among Category.letters)

/-- What a name begins with, the letters given. -/
def firstSet (letters : CharSet) : CharSet :=
  .minus (.union (.union (.ranges []) (.one '_')) letters)
    (.union (.union (.union (.ranges []) (.one 'λ')) (.one 'Π')) (.one 'Σ'))

/-- What a name goes on with. -/
def nextSet (letters : CharSet) : CharSet :=
  let marks : CharSet := .union (.union (.union (.ranges []) (.one '_')) (.one '!')) (.one '?')
  let subscripts : CharSet :=
    .union (.union (.union (.union marks letters) (.ranges [(0x2080, 0x2089)]))
      (.ranges [(0x2090, 0x209C)])) (.ranges [(0x1D62, 0x1D6A)])
  .union (.union subscripts (.one 'ⱼ')) (.one '\'')

def nameExpr : Pattern.Expr :=
  .sequence [.chars (firstSet letters), .times (.chars (nextSet letters)) 0 none]

def quotedExpr : Pattern.Expr :=
  .sequence [.chars (.one '«'), .times (.chars (.complement (.one '»'))) 1 none, .chars (.one '»')]

theorem name_read : Pattern.Piece.read? "(?:[[_\\pL]--[λΠΣ]][_!?\\pL[₀-₉][ₐ-ₜ][ᵢ-ᵪ]ⱼ']*)".toList =
    some { expr := nameExpr, depth := 6 } := rfl

theorem quoted_read :
    Pattern.Piece.read? "(?:(?:[[_\\pL]--[λΠΣ]][_!?\\pL[₀-₉][ₐ-ₜ][ᵢ-ᵪ]ⱼ']*)|«(?:[^»]+)»)".toList =
      some { expr := .choice [nameExpr, quotedExpr], depth := 8 } := rfl

theorem letters_few : letters.size ≤ 1400 := by
  decide +kernel

theorem size_firstSet (letters : CharSet) : (firstSet letters).size = letters.size + 8 := by
  simp only [firstSet, CharSet.one, CharSet.size, List.length_cons, List.length_nil]
  omega

theorem size_nextSet (letters : CharSet) : (nextSet letters).size = letters.size + 16 := by
  simp only [nextSet, CharSet.one, CharSet.size, List.length_cons, List.length_nil]
  omega

theorem firstSet_few : (firstSet letters).boundaries.length ≤ 1408 :=
  calc
    (firstSet letters).boundaries.length ≤ (firstSet letters).size := CharSet.length_boundaries_le _
    _ = letters.size + 8 := size_firstSet letters
    _ ≤ 1408 := Nat.add_le_add_right letters_few 8

theorem nextSet_few : (nextSet letters).boundaries.length ≤ 1416 :=
  calc
    (nextSet letters).boundaries.length ≤ (nextSet letters).size := CharSet.length_boundaries_le _
    _ = letters.size + 16 := size_nextSet letters
    _ ≤ 1416 := Nat.add_le_add_right letters_few 16

/-! ## The outlines -/

/-- What a name goes on with, as often as it comes. -/
def nextOutline : Outline := .times (.ofSet (nextSet letters).boundaries) 0 none

/-- What stands between the quotes of a name. -/
def betweenOutline : Outline := .times (.ofSet (CharSet.complement (.one '»')).boundaries) 1 none

/-- What stands behind the first quote of a name. -/
def quotedOutlines : List Outline := [betweenOutline, .text ['»']]

theorem nameExpr_outline :
    nameExpr.outline = .sequence [.ofSet (firstSet letters).boundaries, nextOutline] := by
  have parts : nameExpr.outline =
      .inSequence [.ofSet (firstSet letters).boundaries, nextOutline] := by
    simp only [nameExpr, Pattern.Expr.outline, Pattern.Expr.outlines, nextOutline, List.reverse_cons,
      List.reverse_nil, List.nil_append, List.singleton_append]
  rw [parts]
  rcases Outline.ofSet_cases (firstSet letters).boundaries with same | ⟨c, same⟩ <;> rw [same] <;> rfl

theorem quotedExpr_outline : quotedExpr.outline = .sequence (.text ['«'] :: quotedOutlines) := by
  have first : Outline.ofSet (CharSet.one '«').boundaries = .text ['«'] := rfl
  have last : Outline.ofSet (CharSet.one '»').boundaries = .text ['»'] := rfl
  simp only [quotedExpr, Pattern.Expr.outline, Pattern.Expr.outlines, first, last]
  rfl

/-- The ways have nothing that both begin with, unless that is the quote. -/
theorem anyOf_names {first : Outline} (other : first ≠ .text ['«']) :
    Outline.anyOf [.sequence [first, nextOutline], .sequence (.text ['«'] :: quotedOutlines)] =
      .choice [.sequence [first, nextOutline], .sequence (.text ['«'] :: quotedOutlines)] := by
  have shared : Outline.sharedParts [[first, nextOutline], .text ['«'] :: quotedOutlines] = [] :=
    if_neg other
  change (if (Outline.sharedParts [[first, nextOutline], .text ['«'] :: quotedOutlines]).isEmpty
    then _ else _) = _
  rw [shared]
  rfl

theorem anyOf_quoted :
    Outline.anyOf [.sequence [.text ['«'], nextOutline], .sequence (.text ['«'] :: quotedOutlines)] =
      .sequence [.text ['«'], .choice [nextOutline, .sequence quotedOutlines]] :=
  rfl

/-! ## The room -/

theorem firstSet_within :
    ((Outline.ofSet (firstSet letters).boundaries).footprint Footprint.ofSet).Within 3300000 :=
  (Outline.footprint_ofSet_within (firstSet letters).boundaries).mono
    (Nat.le_trans (Nat.add_le_add_left (Nat.mul_le_mul_left _ firstSet_few) _) (by decide))

theorem nextOutline_within : (nextOutline.footprint Footprint.ofSet).Within 3300000 := by
  have within := (Outline.footprint_ofSet_within (nextSet letters).boundaries).mono
    (Nat.add_le_add_left (Nat.mul_le_mul_left _ nextSet_few) _)
  rw [nextOutline, Outline.footprint]
  exact (within.unbounded _ 0).mono (by decide)

theorem name_within : (nameExpr.outline.footprint Footprint.ofSet).Within 6600000 := by
  rw [nameExpr_outline, Outline.footprint, Outline.footprints, Outline.footprints, Outline.footprints]
  exact ((Footprint.within_both 0).add firstSet_within).add nextOutline_within

theorem betweenOutline_within : (betweenOutline.footprint Footprint.ofSet).Within 30000 := by
  have within := (Outline.footprint_ofSet_within (CharSet.complement (.one '»')).boundaries).unbounded
  rw [betweenOutline, Outline.footprint]
  exact (within _ 1).mono (by decide +kernel)

theorem quote_within (c : Char) : ((Outline.text [c]).footprint Footprint.ofSet).Within 128 :=
  Outline.footprint_char_within c _

theorem quotedOutlines_within :
    ((Outline.sequence quotedOutlines).footprint Footprint.ofSet).Within 40000 := by
  rw [quotedOutlines, Outline.footprint, Outline.footprints, Outline.footprints, Outline.footprints]
  exact (((Footprint.within_both 0).add betweenOutline_within).add (quote_within '»')).mono (by decide)

theorem quoted_within : (quotedExpr.outline.footprint Footprint.ofSet).Within 40000 := by
  rw [quotedExpr_outline, quotedOutlines, Outline.footprint, Outline.footprints, Outline.footprints,
    Outline.footprints, Outline.footprints]
  exact ((((Footprint.within_both 0).add (quote_within '«')).add betweenOutline_within).add
    (quote_within '»')).mono (by decide)

theorem quotedName_outline : (Pattern.Expr.choice [nameExpr, quotedExpr]).outline =
    .anyOf [nameExpr.outline, quotedExpr.outline] := by
  simp only [Pattern.Expr.outline, Pattern.Expr.outlines, List.reverse_cons, List.reverse_nil,
    List.nil_append, List.singleton_append]

theorem quotedName_within :
    ((Pattern.Expr.choice [nameExpr, quotedExpr]).outline.footprint Footprint.ofSet).Within
      6700000 := by
  have name := name_within
  have quoted := quoted_within
  rw [nameExpr_outline] at name
  rw [quotedExpr_outline] at quoted
  rw [quotedName_outline, nameExpr_outline, quotedExpr_outline]
  by_cases same : Outline.ofSet (firstSet letters).boundaries = .text ['«']
  · rw [same, anyOf_quoted, Outline.footprint, Outline.footprints, Outline.footprints,
      Outline.footprints, Outline.footprint_choice rfl, Outline.footprints, Outline.footprints,
      Outline.footprints]
    exact (((Footprint.within_both 0).add (quote_within '«')).add
      (((Footprint.within_both _).add nextOutline_within).add quotedOutlines_within)).mono (by decide)
  · rw [anyOf_names same, Outline.footprint_choice rfl, Outline.footprints, Outline.footprints,
      Outline.footprints]
    exact (((Footprint.within_both _).add name).add quoted).mono (by decide)

theorem around_within : Footprint.around.Within 1000 := by
  constructor <;> decide

theorem name_admitted : Limits.standard.admit { expr := nameExpr, depth := 6 } = true := by
  have within := around_within.add name_within
  rw [← Pattern.Expr.footprint_eq] at within
  exact Limits.admit_of_within within (by decide) (by decide)

theorem quotedName_admitted :
    Limits.standard.admit { expr := .choice [nameExpr, quotedExpr], depth := 8 } = true := by
  have within := around_within.add quotedName_within
  rw [← Pattern.Expr.footprint_eq] at within
  exact Limits.admit_of_within within (by decide) (by decide)

theorem nameParts_made : ∀ body ∈ nameParts, makes body = true := by
  intro body held
  rcases List.mem_pair.mp held with rfl | rfl
  · exact makes_of_read rfl rfl name_read name_admitted
  · exact makes_of_read rfl rfl quoted_read quotedName_admitted

end Treegram.Builtin
