import Treegram.Pattern.Reader

/-!
Whether case counts makes no difference to how a pattern is cut into lexemes. The same readers are
gone through under both flags, only the sets that they come to are not the same.
-/

namespace Treegram.Pattern

/-- The same flags, with case that counts. -/
def Flags.unfolded (flags : Flags) : Flags := { flags with foldCase := false }

theorem Flags.unfolded_skip (flags : Flags) (text : List Char) :
    flags.unfolded.skip text = flags.skip text := by
  cases flags
  rfl

theorem Flags.unfolded_unicode (flags : Flags) : flags.unfolded.unicode = flags.unicode := rfl

/-- What remains of a lexeme when it is forgotten what it matches. -/
def Lexeme.outline : Lexeme → Lexeme
  | .piece _ _ => .piece .nothing 0
  | .times low high => .times low high
  | .bar => .bar
  | .openGroup isCounted name flags => .openGroup isCounted name flags.unfolded
  | .setFlags flags => .setFlags flags.unfolded
  | .closeGroup => .closeGroup

theorem alike_cases {α β : Type} {f : α → β} {left right : Option α}
    (same : left.map f = right.map f) :
    (left = none ∧ right = none)
      ∨ ∃ one other, left = some one ∧ right = some other ∧ f one = f other := by
  cases left with
  | none => exact .inl ⟨rfl, Option.map_eq_none_iff.mp same.symm⟩
  | some one =>
      obtain ⟨other, found, equal⟩ := Option.map_eq_some_iff.mp same.symm
      exact .inr ⟨one, other, rfl, found, equal.symm⟩

/-- What is made of a value makes no difference if there is only one thing to make. -/
theorem alike_of_isSome {α β : Type} {left right : Option α} (same : left.isSome = right.isSome)
    (value : β) : left.map (fun _ => value) = right.map fun _ => value := by
  cases left <;> cases right <;> first | rfl | cases same

variable (flags : Flags)

section Escapes

theorem fixedHex_unfolded (count number : Nat) (text : List Char) :
    fixedHex? flags.unfolded count number text = fixedHex? flags count number text := by
  induction count generalizing number text with
  | zero => rfl
  | succ count ih => cases text <;> simp only [fixedHex?, Flags.unfolded_skip, ih]

theorem bracedHex_unfolded (turns : Nat) (number : Option Nat) (text : List Char) :
    bracedHex? flags.unfolded turns number text = bracedHex? flags turns number text := by
  induction turns generalizing number text with
  | zero => rfl
  | succ turns ih => cases text <;> simp only [bracedHex?, Flags.unfolded_skip, ih]

theorem untilBrace_unfolded (turns : Nat) (name text : List Char) :
    untilBrace? flags.unfolded turns name text = untilBrace? flags turns name text := by
  induction turns generalizing name text with
  | zero => rfl
  | succ turns ih => cases text <;> simp only [untilBrace?, Flags.unfolded_skip, ih]

theorem hexEscape_unfolded (count : Nat) (text : List Char) :
    hexEscape? flags.unfolded count text = hexEscape? flags count text := by
  simp only [hexEscape?, Flags.unfolded_skip, bracedHex_unfolded, fixedHex_unfolded]

theorem propertyEscape_unfolded (negated : Bool) (text : List Char) :
    propertyEscape? flags.unfolded negated text = propertyEscape? flags negated text := by
  simp only [propertyEscape?, Flags.unfolded_skip, untilBrace_unfolded]

theorem edgeName_unfolded (text : List Char) :
    edgeName? flags.unfolded text = edgeName? flags text := by
  simp only [edgeName?, Flags.unfolded_skip, untilBrace_unfolded]

theorem escape_unfolded (text : List Char) :
    Escape.read? flags.unfolded text = Escape.read? flags text := by
  cases text with
  | nil => rfl
  | cons c rest =>
      simp only [Escape.read?, hexEscape_unfolded, propertyEscape_unfolded, edgeName_unfolded]

theorem foldAndNegate_isSome (negated : Bool) (set : CharSet) :
    (flags.foldAndNegate? negated set).isSome = (!negated || flags.unicode) := by
  rw [Flags.foldAndNegate?]
  cases negated <;> cases flags.unicode <;> rfl

theorem propertySet_isSome (named : Unicode.Property) (negated : Bool) :
    (propertySet? flags.unfolded named negated).isSome = (propertySet? flags named negated).isSome := by
  rw [propertySet?, propertySet?, Flags.unfolded_unicode]
  split
  · rw [foldAndNegate_isSome, foldAndNegate_isSome, Flags.unfolded_unicode]
  · rfl

theorem escapeExpr_isSome (escape : Escape) :
    (escape.expr? flags.unfolded).isSome = (escape.expr? flags).isSome := by
  cases escape with
  | char c => rfl
  | byte c =>
      rw [Escape.expr?, Escape.expr?, Flags.unfolded_unicode]
      split <;> rfl
  | shorthand kind negated => rfl
  | property named negated =>
      rw [Escape.expr?, Escape.expr?, Option.isSome_map, Option.isSome_map, propertySet_isSome]
  | assertion make => rfl

end Escapes

section Counts

theorem takeDigits_unfolded (turns : Nat) (number : Option Nat) (text : List Char) :
    takeDigits flags.unfolded turns number text = takeDigits flags turns number text := by
  induction turns generalizing number text with
  | zero => rfl
  | succ turns ih => cases text <;> simp only [takeDigits, Flags.unfolded_skip, ih]

theorem decimal_unfolded (text : List Char) :
    decimal? flags.unfolded text = decimal? flags text := by
  simp only [decimal?, takeDigits_unfolded]

theorem counts_unfolded (text : List Char) : counts? flags.unfolded text = counts? flags text := by
  simp only [counts?, Flags.unfolded_skip, decimal_unfolded]

end Counts

section Classes

/-- What remains of an item when it is forgotten which set it is. -/
def ClassItem.outline : ClassItem → ClassItem
  | .char c => .char c
  | .set _ => .set .none

/-- What remains of an open bracket or an operator: whether the bracket is negated. -/
def OpenClass.outline : OpenClass → Option Bool
  | .bracket _ negated => some negated
  | .operator _ _ => none

theorem escapeItem_unfolded (escape : Escape) :
    (escape.classItem? flags.unfolded).map ClassItem.outline =
      (escape.classItem? flags).map ClassItem.outline := by
  cases escape with
  | property named negated =>
      rw [Escape.classItem?, Escape.classItem?, Option.map_map, Option.map_map]
      exact alike_of_isSome (propertySet_isSome flags named negated) (ClassItem.set .none)
  | char c | byte c | shorthand kind negated | assertion make => rfl

theorem classItem_unfolded (text : List Char) :
    (ClassItem.read? flags.unfolded text).map (fun found => (found.1.outline, found.2)) =
      (ClassItem.read? flags text).map (fun found => (found.1.outline, found.2)) := by
  unfold ClassItem.read?
  split
  · rfl
  · rename_i rest
    rw [escape_unfolded]
    cases Escape.read? flags rest with
    | none => rfl
    | some found =>
        have same := congrArg (Option.map (·, found.2)) (escapeItem_unfolded flags found.1)
        simpa only [Option.bind_some, Option.map_map, Function.comp_def] using same
  · rfl

theorem classRange_unfolded (text : List Char) :
    (readClassRange? flags.unfolded text).map (·.2) = (readClassRange? flags text).map (·.2) := by
  rw [readClassRange?, readClassRange?]
  rcases alike_cases (classItem_unfolded flags text) with
    ⟨left, right⟩ | ⟨⟨first, behind⟩, ⟨first', _⟩, left, right, same⟩
  · rw [left, right]
    rfl
  · obtain ⟨firstAlike, rfl⟩ := Prod.mk.inj same
    rw [left, right]
    simp only [Option.bind_some, Flags.unfolded_skip]
    split
    · rename_i further _
      split
      · rfl
      · rcases alike_cases (classItem_unfolded flags (flags.skip further)) with
          ⟨left, right⟩ | ⟨⟨last, behind⟩, ⟨last', _⟩, left, right, same⟩
        · rw [left, right]
          rfl
        · obtain ⟨lastAlike, rfl⟩ := Prod.mk.inj same
          rw [left, right]
          cases first <;> cases first' <;> cases firstAlike <;>
            cases last <;> cases last' <;> cases lastAlike <;> rfl
    · rfl

theorem leadingHyphens_unfolded (turns : Nat) (items : List ClassPiece) (text : List Char) :
    leadingHyphens flags.unfolded turns items text = leadingHyphens flags turns items text := by
  induction turns generalizing items text with
  | zero => rfl
  | succ turns ih =>
      unfold leadingHyphens
      split
      · rename_i shape
        cases shape
        exact ih _ _
      · rfl

theorem openBracket_unfolded (text : List Char) :
    openBracket flags.unfolded text = openBracket flags text := by
  simp only [openBracket, Flags.unfolded_skip, leadingHyphens_unfolded]

/-- Stacks that look alike are empty together, and else begin with brackets that are negated alike or
both with an operator. -/
theorem outline_cases {stack stack' : List OpenClass}
    (same : stack.map OpenClass.outline = stack'.map OpenClass.outline) :
    (stack = [] ∧ stack' = [])
      ∨ (∃ negated before before' below below', stack = .bracket before negated :: below
        ∧ stack' = .bracket before' negated :: below'
        ∧ below.map OpenClass.outline = below'.map OpenClass.outline)
      ∨ ∃ kind kind' left left' below below', stack = .operator kind left :: below
        ∧ stack' = .operator kind' left' :: below'
        ∧ below.map OpenClass.outline = below'.map OpenClass.outline := by
  cases stack with
  | nil => exact .inl ⟨rfl, List.map_eq_nil_iff.mp same.symm⟩
  | cons first below =>
      obtain ⟨first', below', rfl, alike, rest⟩ := List.map_eq_cons_iff.mp same.symm
      cases first with
      | bracket before negated =>
          cases first' with
          | bracket before' negated' =>
              obtain rfl := Option.some.inj alike
              exact .inr (.inl ⟨_, _, _, _, _, rfl, rfl, rest.symm⟩)
          | operator => cases alike
      | operator kind left =>
          cases first' with
          | bracket => cases alike
          | operator kind' left' => exact .inr (.inr ⟨_, _, _, _, _, _, rfl, rfl, rest.symm⟩)

theorem settle_outline (left right : ClassPiece) {stack stack' : List OpenClass}
    (same : stack.map OpenClass.outline = stack'.map OpenClass.outline) :
    (settle flags.unfolded left stack).2.map OpenClass.outline =
      (settle flags right stack').2.map OpenClass.outline := by
  rcases outline_cases same with
    ⟨rfl, rfl⟩ | ⟨_, _, _, _, _, rfl, rfl, _⟩ | ⟨_, _, _, _, _, _, rfl, rfl, below⟩
  · rfl
  · exact same
  · exact below

theorem foldAndNegate_alike (negated : Bool) (set set' : CharSet) :
    (flags.unfolded.foldAndNegate? negated set = none ∧ flags.foldAndNegate? negated set' = none)
      ∨ ∃ folded folded', flags.unfolded.foldAndNegate? negated set = some folded
        ∧ flags.foldAndNegate? negated set' = some folded' := by
  rw [Flags.foldAndNegate?, Flags.foldAndNegate?, Flags.unfolded_unicode]
  cases negated <;> cases flags.unicode <;> simp

/-- The brackets that are open decide how a class goes on, whatever stands in them. -/
theorem classFrom_unfolded {turns : Nat} {stack stack' : List OpenClass}
    (same : stack.map OpenClass.outline = stack'.map OpenClass.outline) (items items' : List ClassPiece)
    (text : List Char) :
    (readClassFrom? flags.unfolded turns stack items text).map (·.2) =
      (readClassFrom? flags turns stack' items' text).map (·.2) := by
  induction turns generalizing stack stack' items items' text with
  | zero => rfl
  | succ turns ih =>
      have operator (kind : ClassOperator) (rest : List Char) :
          (readClassFrom? flags.unfolded turns
            (.operator kind (settle flags.unfolded (joinItems items) stack).1
              :: (settle flags.unfolded (joinItems items) stack).2) [] rest).map (·.2) =
          (readClassFrom? flags turns
            (.operator kind (settle flags (joinItems items') stack').1
              :: (settle flags (joinItems items') stack').2) [] rest).map (·.2) := by
        refine ih ?_ _ _ _
        rw [List.map_cons, List.map_cons, settle_outline flags _ (joinItems items') same]
        rfl
      rw [readClassFrom?, readClassFrom?]
      simp only [Flags.unfolded_skip]
      split
      case h_1 => rfl
      case h_2 =>
        split
        · rename_i negated set behind _
          rcases foldAndNegate_alike flags negated set set with
            ⟨left, right⟩ | ⟨folded, folded', left, right⟩
          · rw [left, right]
            rfl
          · rw [left, right]
            exact ih same _ _ _
        · rw [openBracket_unfolded]
          refine ih ?_ _ _ _
          rw [List.map_cons, List.map_cons, same]
          rfl
      case h_3 rest _ =>
        have settled := settle_outline flags (joinItems items) (joinItems items') same
        generalize settle flags.unfolded (joinItems items) stack = inside at settled ⊢
        generalize settle flags (joinItems items') stack' = inside' at settled ⊢
        obtain ⟨inside, left⟩ := inside
        obtain ⟨inside', left'⟩ := inside'
        rcases outline_cases settled with
          ⟨rfl, rfl⟩ | ⟨negated, _, _, _, _, rfl, rfl, below⟩ | ⟨_, _, _, _, _, _, rfl, rfl, _⟩
        · rfl
        · -- The outermost bracket is the outermost one on both sides.
          have ends := congrArg List.isEmpty below
          rw [List.isEmpty_map, List.isEmpty_map] at ends
          simp only [ends]
          rcases foldAndNegate_alike flags negated inside.set inside'.set with
            ⟨none, none'⟩ | ⟨folded, folded', some, some'⟩
          · rw [none, none']
            rfl
          · rw [some, some']
            simp only [Option.bind_some]
            split
            · rfl
            · exact ih below _ _ _
        · rfl
      case h_4 | h_5 | h_6 => exact operator _ _
      case h_7 =>
        rcases alike_cases (classRange_unfolded flags (flags.skip text)) with
          ⟨left, right⟩ | ⟨⟨set, behind⟩, ⟨set', _⟩, left, right, rest⟩
        · rw [left, right]
          rfl
        · obtain rfl := rest
          rw [left, right]
          exact ih same _ _ _

theorem class_unfolded (text : List Char) :
    (readClass? flags.unfolded text).map (·.2) = (readClass? flags text).map (·.2) := by
  rw [readClass?, readClass?, openBracket_unfolded]
  exact classFrom_unfolded flags rfl _ _ _

end Classes

section Groups

theorem set_alike {flags flags' : Flags} (same : flags.unfolded = flags'.unfolded) (letter : Char)
    (value : Bool) :
    (flags.set? letter value).map Flags.unfolded = (flags'.set? letter value).map Flags.unfolded := by
  obtain ⟨_, _, _, _, _, _⟩ := flags
  obtain ⟨_, _, _, _, _, _⟩ := flags'
  cases same
  unfold Flags.set?
  split <;> rfl

theorem setAll_alike {flags flags' : Flags} (same : flags.unfolded = flags'.unfolded) (value : Bool)
    (letters : List Char) :
    (letters.foldlM (fun (flags : Flags) letter => flags.set? letter value) flags).map
        Flags.unfolded =
      (letters.foldlM (fun (flags : Flags) letter => flags.set? letter value) flags').map
        Flags.unfolded := by
  induction letters generalizing flags flags' with
  | nil => exact congrArg some same
  | cons letter letters ih =>
      rw [List.foldlM_cons, List.foldlM_cons]
      rcases alike_cases (set_alike same letter value) with
        ⟨left, right⟩ | ⟨next, next', left, right, same⟩
      · rw [left, right]
      · rw [left, right]
        exact ih same

theorem change_unfolded (letters : List Char) :
    (flags.unfolded.change? letters).map Flags.unfolded =
      (flags.change? letters).map Flags.unfolded := by
  rw [Flags.change?, Flags.change?]
  split
  · rfl
  · have on := setAll_alike (show flags.unfolded.unfolded = flags.unfolded from rfl) true
      (letters.span (· != '-')).1
    rcases alike_cases on with ⟨left, right⟩ | ⟨next, next', left, right, same⟩
    · simp only [left, right, Option.bind_none]
    · simp only [left, right]
      exact setAll_alike same false _

theorem opening_unfolded (text : List Char) :
    (readOpening? flags.unfolded text).map (fun found => (found.1.outline, found.2)) =
      (readOpening? flags text).map (fun found => (found.1.outline, found.2)) := by
  unfold readOpening?
  rw [Flags.unfolded_skip]
  split
  case h_5 | h_6 =>
    rw [Option.map_map, Option.map_map]
    rfl
  case h_7 rest _ _ _ _ _ _ _ =>
    rcases alike_cases (change_unfolded flags
        (rest.takeWhile fun c => c != ':' && c != ')')) with
      ⟨left, right⟩ | ⟨inner, inner', left, right, same⟩
    · simp only [left, right, Option.bind_none]
    · simp only [left, right, Option.bind_some]
      split
      · exact congrArg (fun flags => some (Lexeme.openGroup false none flags, _)) same
      · split
        · rfl
        · exact congrArg (fun flags => some (Lexeme.setFlags flags, _)) same
      · rfl
  all_goals rfl

end Groups

theorem anyChar_isSome : (anyChar? flags).isSome = flags.unicode := by
  rw [anyChar?]
  cases flags.unicode <;> rfl

/-- A text is cut in the same way whether or not case counts. -/
theorem lexeme_unfolded (text : List Char) :
    (Lexeme.read? flags.unfolded text).map (fun found => (found.1.outline, found.2)) =
      (Lexeme.read? flags text).map (fun found => (found.1.outline, found.2)) := by
  cases text with
  | nil => rfl
  | cons c text =>
      unfold Lexeme.read?
      simp only
      split
      case h_1 => exact opening_unfolded flags text
      case h_4 =>
        rw [Option.map_map, Option.map_map]
        have same := congrArg (Option.map (Lexeme.piece .nothing 0, ·)) (class_unfolded flags text)
        rw [Option.map_map, Option.map_map] at same
        exact same
      case h_8 => simp only [counts_unfolded, Flags.unfolded_skip]
      case h_9 =>
        rw [escape_unfolded]
        cases Escape.read? flags text with
        | none => rfl
        | some found =>
            simp only [Option.bind_some, Option.map_map]
            exact alike_of_isSome (escapeExpr_isSome flags found.1) (Lexeme.piece .nothing 0, found.2)
      case h_10 =>
        rw [Option.map_map, Option.map_map]
        exact alike_of_isSome ((anyChar_isSome flags.unfolded).trans (anyChar_isSome flags).symm)
          (Lexeme.piece .nothing 0, text)
      all_goals rfl

end Treegram.Pattern
