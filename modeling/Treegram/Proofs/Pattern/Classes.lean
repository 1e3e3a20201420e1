import Treegram.Proofs.Pattern.Locality

/-!
Bracketed classes look no further than they read. A class ends within the text that it stands in, so
the parenthesis behind the text is not among its items; and what only looks like a named class does
so inside of a group as well, since no class has a parenthesis in its name.
-/

namespace Treegram.Pattern

variable {flags : Flags}

theorem classItem_char {c : Char} (noSlash : c ≠ '\\') (text : List Char) :
    ClassItem.read? flags (c :: text) =
      if flags.unicode || c.toNat < 0x80 then some (.char c, text) else none := by
  rw [ClassItem.read?]
  exact noSlash

theorem classItem_local (plain : flags.verbose = false) : IsLocal (ClassItem.read? flags) := by
  intro text tail
  cases text with
  | nil => exact .none
  | cons c text =>
      by_cases slash : c = '\\'
      · rw [slash, closed_cons, ClassItem.read?, ClassItem.read?]
        exact (escape_local plain text tail).bind fun _ => .made fun _ => rfl
      · rw [closed_cons, classItem_char slash, classItem_char slash]
        split
        · exact .some rfl
        · exact .none

theorem head_closed {text : List Char} {c : Char} (open₁ : c ≠ ')') (tail : List Char) :
    ((closed text tail).head? == some c) = (text.head? == some c) := by
  cases text with
  | nil =>
      have other : ((some ')' : Option Char) == some c) = false := by
        rw [beq_eq_false_iff_ne]
        exact fun same => open₁ (Option.some.inj same).symm
      exact other
  | cons d text => rfl

/-- A range needs a hyphen and what it leads to, so it does not reach out of the text. -/
theorem classRange_local (plain : flags.verbose = false) : IsLocal (readClassRange? flags) := by
  intro text tail
  rw [readClassRange?, readClassRange?]
  refine (classItem_local plain text tail).bind ?_
  rintro ⟨first, between⟩
  simp only [foundInside, flags.skip_plain plain]
  split
  · rename_i behind
    rw [closed_cons]
    simp only [head_closed (show ']' ≠ ')' by decide), head_closed (show '-' ≠ ')' by decide)]
    split
    · exact .some rfl
    · refine (classItem_local plain behind tail).bind ?_
      rintro ⟨last, rest⟩
      simp only [foundInside]
      split
      · split
        · exact .some rfl
        · exact .none
      · exact .none
  · rename_i noHyphen
    split
    · rename_i behind shape
      exact absurd shape (closed_ne_cons (by decide) noHyphen tail behind)
    · exact .some rfl

theorem leadingHyphens_closed (plain : flags.verbose = false) {turns more : Nat} {text : List Char}
    (enough : text.length ≤ turns) (le : turns ≤ more) (items : List ClassPiece) (tail : List Char) :
    leadingHyphens flags more items (closed text tail) =
      ((leadingHyphens flags turns items text).1, closed (leadingHyphens flags turns items text).2 tail) := by
  induction text generalizing turns more items with
  | nil =>
      have left : leadingHyphens flags turns items [] = (items, []) := by cases turns <;> rfl
      have right : leadingHyphens flags more items (closed [] tail) = (items, closed [] tail) := by
        cases more <;> rfl
      rw [left, right]
  | cons c text ih =>
      rw [List.length_cons] at enough
      obtain ⟨turns, rfl⟩ : ∃ fewer, turns = fewer + 1 := ⟨turns - 1, by omega⟩
      obtain ⟨more, rfl⟩ : ∃ fewer, more = fewer + 1 := ⟨more - 1, by omega⟩
      rw [closed_cons]
      unfold leadingHyphens
      split
      · rename_i shape
        obtain ⟨rfl, rfl⟩ := List.cons.inj shape
        simp only [flags.skip_plain plain]
        exact ih (by omega) (by omega) _
      · rename_i noHyphen
        split
        · rename_i shape
          obtain ⟨rfl, rfl⟩ := List.cons.inj shape
          exact (noHyphen _ _ rfl rfl).elim
        · rfl

/-- A closing bracket that stands first closes nothing. -/
def firstBracket (flags : Flags) (negated : Bool) :
    List ClassPiece × List Char → Bool × List ClassPiece × List Char
  | ([], ']' :: rest) => (negated, [{ set := .one ']' }], flags.skip rest)
  | (items, rest) => (negated, items, rest)

theorem firstBracket_closed (plain : flags.verbose = false) (negated : Bool) (items : List ClassPiece)
    (text tail : List Char) :
    firstBracket flags negated (items, closed text tail) =
      ((firstBracket flags negated (items, text)).1, (firstBracket flags negated (items, text)).2.1,
        closed (firstBracket flags negated (items, text)).2.2 tail) := by
  cases items with
  | cons item items => rfl
  | nil =>
      cases text with
      | nil => rfl
      | cons c text =>
          by_cases bracket : c = ']'
          · rw [bracket, closed_cons, firstBracket, firstBracket, flags.skip_plain plain,
              flags.skip_plain plain]
          · have stays (rest : List Char) :
                firstBracket flags negated ([], c :: rest) = (negated, [], c :: rest) := by
              rw [firstBracket]
              intro behind _ shape
              exact bracket (List.cons.inj shape).1
            rw [closed_cons, stays, stays]
            rfl

theorem openBracket_eq (plain : flags.verbose = false) (text : List Char) :
    openBracket flags text =
      if text.head? == some '^' then
        firstBracket flags true
          (leadingHyphens flags (text.drop 1).length [] (text.drop 1))
      else firstBracket flags false (leadingHyphens flags text.length [] text) := by
  rw [openBracket, flags.skip_plain plain]
  cases text.head? == some '^' with
  | false => rfl
  | true =>
      simp only [flags.skip_plain plain (text.drop 1), if_true]
      rfl

theorem openBracket_closed (plain : flags.verbose = false) (text tail : List Char) :
    openBracket flags (closed text tail) =
      ((openBracket flags text).1, (openBracket flags text).2.1,
        closed (openBracket flags text).2.2 tail) := by
  have hyphens (text : List Char) :=
    leadingHyphens_closed plain (Nat.le_refl text.length)
      (length_le_closed text tail) [] tail
  rw [openBracket_eq plain, openBracket_eq plain, head_closed (by decide)]
  cases text with
  | nil =>
      rw [if_neg nofun, if_neg nofun, hyphens, firstBracket_closed plain]
  | cons c text =>
      split
      · rw [closed_cons, List.drop_one, List.tail_cons, List.drop_one, List.tail_cons, hyphens,
          firstBracket_closed plain]
      · rw [hyphens, firstBracket_closed plain]

theorem namedClass_parenthesis {name : List Char} (held : ')' ∈ name) :
    namedClass? (String.ofList name) = none := by
  have other (word : String) (free : ')' ∉ word.toList) : String.ofList name ≠ word := by
    rintro rfl
    rw [String.toList_ofList] at free
    exact free held
  unfold namedClass?
  split
  case h_15 => rfl
  all_goals
    rename_i same
    exact absurd same (other _ (by decide))

/-- The class of that name, if a colon and a bracket stand behind the name. -/
def classNamed? (name : List Char) : List Char → Option (CharSet × List Char)
  | ':' :: ']' :: rest => (namedClass? (String.ofList name)).map (·, rest)
  | _ => none

theorem classNamed_none {name text : List Char} (other : ∀ rest, text ≠ ':' :: ']' :: rest) :
    classNamed? name text = none := by
  rw [classNamed?]
  exact other

theorem classNamed_parenthesis {name : List Char} (held : ')' ∈ name) (text : List Char) :
    classNamed? name text = none := by
  unfold classNamed?
  rw [namedClass_parenthesis held]
  split <;> rfl

theorem classNamed_closed (name : List Char) (stop : Char) (text tail : List Char) :
    classNamed? name (stop :: closed text tail) =
      (classNamed? name (stop :: text)).map fun found => (found.1, closed found.2 tail) := by
  by_cases colon : ∃ rest, stop :: text = ':' :: ']' :: rest
  · obtain ⟨rest, shape⟩ := colon
    obtain ⟨rfl, rfl⟩ := List.cons.inj shape
    rw [closed_cons, classNamed?, classNamed?, Option.map_map]
    rfl
  · rw [classNamed_none fun rest shape => colon ⟨rest, shape⟩, classNamed_none]
    · rfl
    · intro rest shape
      obtain ⟨rfl, behind⟩ := List.cons.inj shape
      obtain ⟨inner, rfl, _⟩ := closed_eq_cons behind (by decide)
      exact colon ⟨inner, rfl⟩

/-- A class between colons, read from behind the first one. -/
def classInColons? (text : List Char) : Option (CharSet × List Char) :=
  classNamed? (text.takeWhile (· != ':')) (text.drop (text.takeWhile (· != ':')).length)

/-- A name that runs out of the text has a parenthesis in it, and no class is called so. -/
theorem classInColons_closed (text tail : List Char) :
    classInColons? (closed text tail) =
      (classInColons? text).map fun found => (found.1, closed found.2 tail) := by
  rw [classInColons?, classInColons?]
  cases left : text.drop (text.takeWhile (· != ':')).length with
  | nil =>
      -- No second colon in the text: the name runs over the parenthesis, so it is none of a class.
      have whole : text.takeWhile (· != ':') = text :=
        (List.takeWhile_prefix _).eq_of_length_le (List.drop_eq_nil_iff.mp left)
      have held : ')' ∈ (closed text tail).takeWhile (· != ':') := by
        rw [closed, List.takeWhile_append_of_pos (List.takeWhile_eq_self_iff.mp whole)]
        exact List.mem_append_right _ List.mem_cons_self
      rw [classNamed_parenthesis held]
      rfl
  | cons stop more =>
      obtain ⟨same, behind⟩ := takeWhile_closed tail left
      rw [same, behind, classNamed_closed]

theorem namedClass_eq (text : List Char) :
    readNamedClass? (':' :: text) =
      if text.head? == some '^' then
        (classInColons? (text.drop 1)).map fun found => (true, found.1, found.2)
      else (classInColons? text).map fun found => (false, found.1, found.2) := by
  have named (negated : Bool) (name text : List Char) :
      (match text with
        | ':' :: ']' :: rest =>
            (namedClass? (String.ofList name)).map fun set => (negated, set, rest)
        | _ => none) =
        (classNamed? name text).map fun found => (negated, found.1, found.2) := by
    rw [classNamed?.eq_def]
    split
    · rw [Option.map_map]
      rfl
    · rfl
  rw [readNamedClass?]
  cases text.head? == some '^' with
  | false => exact named false _ _
  | true => exact named true _ _

theorem namedClass_none {text : List Char} (other : ∀ rest, text ≠ ':' :: rest) :
    readNamedClass? text = none := by
  rw [readNamedClass?]
  exact other

/-- A class in colons ends within the text, and so does what only looks like one. -/
theorem namedClass_closed (text tail : List Char) :
    readNamedClass? (closed text tail) =
      (readNamedClass? text).map fun found => (found.1, found.2.1, closed found.2.2 tail) := by
  by_cases colon : ∃ inner, text = ':' :: inner
  · obtain ⟨inner, rfl⟩ := colon
    rw [closed_cons, namedClass_eq, namedClass_eq, head_closed (by decide)]
    cases inner with
    | nil => rw [if_neg nofun, if_neg nofun, classInColons_closed, Option.map_map, Option.map_map]; rfl
    | cons c inner =>
        split
        · rw [closed_cons, List.drop_one, List.tail_cons, List.drop_one, List.tail_cons,
            classInColons_closed, Option.map_map, Option.map_map]
          rfl
        · rw [classInColons_closed, Option.map_map, Option.map_map]
          rfl
  · rw [namedClass_none fun rest same => colon ⟨rest, same⟩, namedClass_none]
    · rfl
    · exact closed_ne_cons (by decide) (fun rest same => colon ⟨rest, same⟩) tail

/-- What stands in a bracket and is no bracket, no operator and no end is an item. -/
structure StartsItem (text : List Char) : Prop where
  solid : text ≠ []
  noOpening : ∀ rest, text ≠ '[' :: rest
  noClosing : ∀ rest, text ≠ ']' :: rest
  noBoth : ∀ rest, text ≠ '&' :: '&' :: rest
  noWithout : ∀ rest, text ≠ '-' :: '-' :: rest
  noOneOf : ∀ rest, text ≠ '~' :: '~' :: rest

theorem StartsItem.closed {text : List Char} (item : StartsItem text) (tail : List Char) :
    StartsItem (closed text tail) := by
  constructor
  · exact List.append_ne_nil_of_left_ne_nil item.solid _
  · exact closed_ne_cons (by decide) item.noOpening tail
  · exact closed_ne_cons (by decide) item.noClosing tail
  · exact closed_ne_pair (by decide) (by decide) item.noBoth tail
  · exact closed_ne_pair (by decide) (by decide) item.noWithout tail
  · exact closed_ne_pair (by decide) (by decide) item.noOneOf tail

theorem readClassFrom_item (plain : flags.verbose = false) {text : List Char} (item : StartsItem text)
    (turns : Nat) (stack : List OpenClass) (items : List ClassPiece) :
    readClassFrom? flags (turns + 1) stack items text =
      (readClassRange? flags text).bind fun found =>
        readClassFrom? flags turns stack ({ set := found.1 } :: items) found.2 := by
  rw [readClassFrom?, flags.skip_plain plain]
  split
  · exact absurd rfl item.solid
  · exact absurd rfl (item.noOpening _)
  · exact absurd rfl (item.noClosing _)
  · exact absurd rfl (item.noBoth _)
  · exact absurd rfl (item.noWithout _)
  · exact absurd rfl (item.noOneOf _)
  · rfl

theorem classFrom_more (plain : flags.verbose = false) {turns more : Nat} (le : turns ≤ more)
    (stack : List OpenClass) (items : List ClassPiece) (text tail : List Char) :
    Keeps (foundInside tail) (readClassFrom? flags turns stack items text)
      (readClassFrom? flags more stack items (closed text tail)) := by
  induction turns generalizing more stack items text with
  | zero => exact .none
  | succ turns ih =>
      obtain ⟨more, rfl⟩ : ∃ fewer, more = fewer + 1 := ⟨more - 1, by omega⟩
      have le : turns ≤ more := by omega
      rw [readClassFrom?.eq_def flags (turns + 1), flags.skip_plain plain]
      -- One case for each thing that can stand in a bracket; the parenthesis is none of them.
      dsimp only
      split
      case h_1 => exact .none
      case h_2 inner =>
        rw [closed_cons, readClassFrom?, flags.skip_plain plain]
        simp only [namedClass_closed]
        cases readNamedClass? inner with
        | some found => exact .given fun set => ih le _ _ _
        | none =>
            simp only [Option.map_none, openBracket_closed plain]
            exact ih le _ _ _
      case h_3 inner =>
        rw [closed_cons, readClassFrom?, flags.skip_plain plain]
        simp only
        split
        · refine .given fun set => ?_
          split
          · exact .some rfl
          · exact ih le _ _ _
        · exact .none
      case h_4 | h_5 | h_6 =>
        rw [closed_cons, closed_cons, readClassFrom?, flags.skip_plain plain]
        exact ih le _ _ _
      case h_7 inner noEnd noOpening noClosing noBoth noWithout noOneOf =>
        have item : StartsItem text := by
          constructor <;> assumption
        rw [readClassFrom_item plain (item.closed tail)]
        exact (classRange_local plain text tail).bind fun found => ih le _ _ _

theorem class_local (plain : flags.verbose = false) : IsLocal (readClass? flags) := by
  intro text tail
  rw [readClass?, readClass?, openBracket_closed plain]
  exact classFrom_more plain (turns_le_closed text tail) _ _ _ tail

end Treegram.Pattern
