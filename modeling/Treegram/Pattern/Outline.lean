import Treegram.Pattern.Expr

/-!
Outlines: patterns brought to the form in which they are laid out for matching.
Nothing empty stands in a sequence, characters that follow each other are one text,
alternatives that are all single characters or all sets are one set, and what all
alternatives begin with stands in front of them once.
-/

namespace Treegram.Pattern

open Unicode (Boundaries)

inductive Outline where
  | empty
  | text (chars : List Char)
  | oneOf (set : Boundaries)
  | assertion (assertion : Assertion)
  | sequence (parts : List Outline)
  | choice (alternatives : List Outline)
  | times (body : Outline) (low : Nat) (high : Option Nat)
  | group (number : Nat) (body : Outline)

namespace Outline

instance : Inhabited Outline := ⟨empty⟩

mutual

def same : Outline → Outline → Bool
  | empty, empty => true
  | text chars, text others => decide (chars = others)
  | oneOf set, oneOf other => decide (set = other)
  | assertion held, assertion other => decide (held = other)
  | sequence parts, sequence others => sameAll parts others
  | choice alternatives, choice others => sameAll alternatives others
  | times body low high, times other low' high' =>
      decide (low = low' ∧ high = high') && same body other
  | group number body, group number' other => decide (number = number') && same body other
  | _, _ => false

def sameAll : List Outline → List Outline → Bool
  | [], [] => true
  | outline :: rest, other :: others => same outline other && sameAll rest others
  | _, _ => false

end

mutual

theorem same_iff : ∀ outline other : Outline, same outline other = true ↔ outline = other := by
  intro outline other
  cases outline <;> cases other <;> simp [same]
  case sequence parts others => exact sameAll_iff parts others
  case choice alternatives others => exact sameAll_iff alternatives others
  case times body low high other low' high' => grind [same_iff body other]
  case group number body number' other => grind [same_iff body other]

theorem sameAll_iff : ∀ outlines others : List Outline,
    sameAll outlines others = true ↔ outlines = others
  | [], [] | [], _ :: _ | _ :: _, [] => by simp [sameAll]
  | outline :: rest, other :: others => by
      simp [sameAll, same_iff outline other, sameAll_iff rest others]

end

instance : DecidableEq Outline := fun _ _ => decidable_of_iff _ (same_iff _ _)

def never : Outline := oneOf []

/-- A set of one character is a text. -/
def ofSet (set : Boundaries) : Outline :=
  match set with
  | [point, behind] => if behind = point + 1 then text [Char.ofNat point] else oneOf set
  | _ => oneOf set

/-- The parts of an outline in a sequence. -/
def parts : Outline → List Outline
  | empty => []
  | sequence parts => parts
  | outline => [outline]

/-- Puts a part in front of others. -/
def precede (outline : Outline) (rest : List Outline) : List Outline :=
  match outline, rest with
  | text first, text second :: rest => text (first ++ second) :: rest
  | outline, rest => outline :: rest

def inSequence (outlines : List Outline) : Outline :=
  match (outlines.flatMap parts).foldr precede [] with
  | [] => empty
  | [only] => only
  | parts => sequence parts

def alternatives : Outline → List Outline
  | choice alternatives => alternatives
  | outline => [outline]

/-- The only character of a text, as a set. -/
def single? : Outline → Option Boundaries
  | text [c] => some [c.toNat, c.toNat + 1]
  | _ => none

def set? : Outline → Option Boundaries
  | oneOf set => some set
  | _ => none

/-- Alternatives that are no choices themselves. -/
def ofAlternatives (all : List Outline) : Outline :=
  match all with
  | [] => never
  | [only] => only
  | _ =>
      match (all.mapM single?).or (all.mapM set?) with
      | some sets => ofSet (.unionAll sets)
      | none => choice all

def sequence? : Outline → Option (List Outline)
  | sequence parts => some parts
  | _ => none

def commonParts : List Outline → List Outline → List Outline
  | a :: left, b :: right => if a = b then a :: commonParts left right else []
  | _, _ => []

/-- What all sequences begin with. -/
def sharedParts : List (List Outline) → List Outline
  | [] => []
  | first :: others => others.foldl commonParts first

def anyOf (outlines : List Outline) : Outline :=
  let all := outlines.flatMap alternatives
  match ofAlternatives all, all.mapM sequence? with
  | choice _, some sequences =>
      let shared := sharedParts sequences
      if shared.isEmpty then choice all
      else
        let rests := sequences.map fun parts => inSequence (parts.drop shared.length)
        inSequence (shared ++ [ofAlternatives (rests.flatMap alternatives)])
  | plain, _ => plain

mutual

/-- The number of bytes that are read at least; nothing if nothing can be matched. -/
def least? : Outline → Option Nat
  | empty | assertion _ => some 0
  | text chars => some chars.length
  | oneOf set => if set.isEmpty then none else some 1
  | sequence parts => leastOfAll? 0 parts
  | choice alternatives => leastOfAny? none alternatives
  | times body low _ => (least? body).map (low * ·)
  | group _ body => least? body

def leastOfAll? (found : Nat) : List Outline → Option Nat
  | [] => some found
  | outline :: rest => (least? outline).bind fun size => leastOfAll? (found + size) rest

def leastOfAny? (found : Option Nat) : List Outline → Option Nat
  | [] => found
  | outline :: rest =>
      (least? outline).bind fun size => leastOfAny? (some ((found.map (min size)).getD size)) rest

end

end Outline

mutual

/-- The outline of a pattern. -/
def Expr.outline : Expr → Outline
  | .nothing => .empty
  | .chars set => .ofSet set.boundaries
  | .assert assertion => .assertion assertion
  | .sequence parts => .inSequence (Expr.outlines [] parts)
  | .choice alternatives => .anyOf (Expr.outlines [] alternatives)
  | .times body low high => .times (Expr.outline body) low high
  | .group number body => .group number (Expr.outline body)

/-- Outlines behind those already found, which come last first. -/
def Expr.outlines (found : List Outline) : List Expr → List Outline
  | [] => found.reverse
  | expr :: rest => Expr.outlines (Expr.outline expr :: found) rest

end

end Treegram.Pattern
