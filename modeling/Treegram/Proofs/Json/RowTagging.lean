import Treegram.Proofs.Json.Lexeme

/-!
Tagging strict texts. Of a text in the grammar of JSON, the tagger changes the scalars that stand
behind a key spelled `value`, as lexemes, and nothing else.
-/

namespace Treegram.Json

namespace Lexeme

/-- The key whose scalars are tagged, as long as it is spelled out. -/
def isValueKey : Lexeme → Bool
  | key inside _ => inside == ['v', 'a', 'l', 'u', 'e']
  | _ => false

/-- The tag of a scalar. Numbers with a fraction or an exponent get none. -/
def tag? : Lexeme → Option (List Char)
  | string _ => some Scalar.textTag
  | number decimal => if decimal.isWhole then some Scalar.levelTag else none
  | _ => none

end Lexeme

namespace Row

/-- A scalar in an object that names its type. -/
def wrapped (space : List Char) (lexeme : Lexeme) : Row :=
  match lexeme.tag? with
  | none => [(space, lexeme)]
  | some tag => [(space, .beginObject), ([], .key tag []), ([], lexeme), ([], .endObject)]

/-- The row with its scalars tagged; `wanted` tells that the key in front of it wants that. -/
def tagged (wanted : Bool) : Row → Row
  | [] => []
  | (space, lexeme) :: rest =>
      (if wanted then wrapped space lexeme else [(space, lexeme)]) ++ tagged lexeme.isValueKey rest

end Row

namespace Decimal

/-- A whole number is one whose spelling has neither a point nor the letter of an exponent. -/
theorem integerLength_chars {number : Decimal} (strict : number.IsStrict) {rest : List Char}
    (ends : EndsNumber rest) :
    Scalar.integerLength? (number.chars ++ rest) =
      if number.isWhole then some number.chars.length else none := by
  have length : number.whole.length ≠ 0 := by simpa using strict.whole.1
  have whole := takeWhile_stops strict.whole.2 (strict.behind_stops ends)
  have unsigned := number.drop_sign rest
  have next : (number.chars ++ rest)[(if number.negative = true then 1 else 0) + number.whole.length]? =
      (number.behindWhole ++ rest).head? := by
    rw [← List.getElem?_drop, unsigned, List.getElem?_append_right (Nat.le_refl _), Nat.sub_self,
      List.head?_eq_getElem?]
  simp only [Scalar.integerLength?, strict.head_chars, unsigned, whole, next, length, false_or]
  have marks := strict.exponent
  obtain ⟨negative, digits, fraction, exponent⟩ := number
  cases fraction with
  | some fraction => rfl
  | none =>
      cases exponent with
      | some exponent =>
          rcases (marks exponent rfl).letter with same | same <;>
            simp [behindWhole, exponentChars, Exponent.chars, isWhole, same]
      | none =>
          have free : ¬ (rest.head? = some '.' ∨ rest.head? = some 'e' ∨ rest.head? = some 'E') := by
            rintro (here | here | here)
            · exact (ends _ here).2.1 rfl
            · exact (ends _ here).2.2.1 rfl
            · exact (ends _ here).2.2.2 rfl
          simp only [behindWhole, exponentChars, Option.map_none, Option.getD_none, List.append_nil,
            List.nil_append, if_neg free, isWhole, Option.isNone_none, Bool.and_self, if_true, chars,
            List.length_append]
          cases negative <;> rfl

end Decimal

namespace Scalar

theorem closing_quote {inside : List Char} (strict : IsInside inside) (rest : List Char) :
    closing? 0 (inside ++ ['"'] ++ rest) = some (inside ++ ['"']).length := by
  obtain ⟨units, spelled⟩ := strict
  rw [List.append_assoc, List.singleton_append, closing_inside spelled, List.length_append,
    List.length_singleton, Nat.zero_add]

theorem quotedLength_quote {inside : List Char} (strict : IsInside inside) (rest : List Char) :
    quotedLength? (quote inside ++ rest) = some (quote inside).length := by
  obtain ⟨units, spelled⟩ := strict
  rw [quote, List.cons_append, List.append_assoc, List.singleton_append, quotedLength?,
    closing_inside spelled, List.length_cons, List.length_append, List.length_singleton]
  congr 1
  omega

theorem quotedLength_other {c : Char} (other : c ≠ '"') (rest : List Char) :
    quotedLength? (c :: rest) = none := by
  unfold quotedLength?
  split
  · rename_i same
    exact absurd (List.cons.inj same).1 other
  · rfl

theorem integerLength_other {c : Char} (start : Token.isNumberStart c = false) (rest : List Char) :
    integerLength? (c :: rest) = none := by
  rw [Token.isNumberStart, Bool.or_eq_false_iff, beq_eq_false_iff_ne] at start
  simp [integerLength?, start]

theorem wrap_other {c : Char} (quote : c ≠ '"') (start : Token.isNumberStart c = false)
    (rest : List Char) : wrap (c :: rest) = none := by
  rw [wrap, quotedLength_other quote, integerLength_other start]
  rfl

/-- The scalars that are wrapped are those that have a tag. -/
theorem wrap_chars {lexeme : Lexeme} (strict : lexeme.IsStrict)
    (other : ∀ inside gap, lexeme ≠ .key inside gap) {rest : List Char}
    (ends : ∀ decimal, lexeme = .number decimal → EndsNumber rest) :
    wrap (lexeme.chars ++ rest) =
      lexeme.tag?.map fun tag => (lexeme.chars.length, tagged tag lexeme.chars) := by
  cases lexeme with
  | string inside =>
      rw [wrap, Lexeme.chars, quotedLength_quote strict]
      simp only [List.take_left]
      rfl
  | number decimal =>
      obtain ⟨c, tail, shape, start⟩ := Decimal.IsStrict.start strict
      have none : quotedLength? (decimal.chars ++ rest) = none := by
        rw [shape]
        exact quotedLength_other (Token.numberStart_only start).2.2 _
      rw [wrap, Lexeme.chars, none]
      simp only [Decimal.integerLength_chars strict (ends decimal rfl), Lexeme.tag?]
      cases decimal.isWhole <;> simp
  | key inside gap => exact absurd rfl (other inside gap)
  | bool value => cases value <;> exact wrap_other (by decide) (by decide) _
  | _ => exact wrap_other (by decide) (by decide) _

theorem blanks_space {space rest : List Char} (blank : IsSpace space)
    (stops : ∀ c ∈ rest.head?, isBlank c = false) : blanks (space ++ rest) = space.length := by
  have all : ∀ c ∈ space, isBlank c = true := by
    intro c held
    rcases blank c held with rfl | rfl | rfl | rfl <;> rfl
  rw [blanks, List.takeWhile_append_of_pos all, List.length_append]
  cases rest with
  | nil => rfl
  | cons c rest =>
      rw [List.takeWhile_cons, stops c rfl, if_neg (by decide), List.length_nil, Nat.add_zero]

theorem IsSpace.plain {space : List Char} (blank : IsSpace space) : ∀ c ∈ space, c ≠ '"' := by
  intro c held
  rcases blank c held with rfl | rfl | rfl | rfl <;> decide

/-- What becomes of a text behind a key: its first scalar is wrapped if that is wanted. -/
def resume (wanted : Bool) (text : List Char) : List Char :=
  if wanted then
    text.take (blanks text) ++ match wrap (text.drop (blanks text)) with
      | none => tag (text.drop (blanks text))
      | some (size, new) => new ++ tag ((text.drop (blanks text)).drop size)
  else tag text

theorem resume_space {space rest : List Char} (blank : IsSpace space)
    (stops : ∀ c ∈ rest.head?, isBlank c = false) (wanted : Bool) :
    resume wanted (space ++ rest) = space ++
      match (if wanted then wrap rest else none) with
      | none => tag rest
      | some (size, new) => new ++ tag (rest.drop size) := by
  cases wanted with
  | false => exact substitute_text (IsSpace.plain blank) rest
  | true =>
      rw [resume, if_pos rfl, blanks_space blank stops, List.take_left, List.drop_left]
      rfl

theorem toContent_none {space rest : List Char} (blank : IsSpace space)
    (stops : ∀ c ∈ rest.head?, isBlank c = false ∧ c ≠ ':') : toContent? (space ++ rest) = none := by
  rw [toContent?, blanks_space blank fun c here => (stops c here).1]
  simp only [List.drop_left]
  split
  · rename_i tail
    exact absurd rfl (stops ':' rfl).2
  · rfl

theorem toContent_key {gap : List Char} (blank : IsSpace gap) (rest : List Char) :
    toContent? (gap ++ ':' :: rest) = some (gap.length + 1 + blanks rest) := by
  rw [toContent?, blanks_space blank (by simp [isBlank])]
  simp only [List.drop_left]

/-- A key spelled `value` hands what is behind it over. -/
theorem tag_valueKey {gap : List Char} (blank : IsSpace gap) (rest : List Char) :
    tag (valueKey ++ (gap ++ ':' :: rest)) = valueKey ++ (gap ++ ':' :: resume true rest) := by
  have shape : gap ++ ':' :: rest =
      (gap ++ ':' :: rest.take (blanks rest)) ++ rest.drop (blanks rest) := by simp
  have length : (gap ++ ':' :: rest.take (blanks rest)).length = gap.length + 1 + blanks rest := by
    have inside : blanks rest ≤ rest.length := (List.takeWhile_prefix isBlank).length_le
    rw [List.length_append, List.length_cons, List.length_take, Nat.min_eq_left inside]
    omega
  have reached := toContent_key blank rest
  rw [shape, ← length] at reached
  rw [shape, tag, substitute_member wrap reached, resume, if_pos rfl]
  simp only [List.append_assoc, List.cons_append]
  rfl

end Scalar

theorem IsDigits.plain {digits : List Char} (known : IsDigits digits) : ∀ c ∈ digits, c ≠ '"' := by
  rintro c held rfl
  exact absurd (known.2 _ held) (by decide)

theorem Decimal.IsStrict.plain {number : Decimal} (strict : number.IsStrict) :
    ∀ c ∈ number.chars, c ≠ '"' := by
  obtain ⟨negative, whole, fraction, exponent⟩ := number
  rw [chars]
  simp only [List.forall_mem_append]
  refine ⟨⟨⟨?_, strict.whole.plain⟩, ?_⟩, ?_⟩
  · cases negative <;> simp
  · cases fraction with
    | none => exact List.forall_mem_nil _
    | some digits => exact List.forall_mem_cons.mpr ⟨by decide, (strict.fraction digits rfl).plain⟩
  · cases exponent with
    | none => exact List.forall_mem_nil _
    | some exponent =>
        obtain ⟨letter, sign, digits⟩ := strict.exponent exponent rfl
        refine List.forall_mem_cons.mpr ⟨?_, List.forall_mem_append.mpr ⟨?_, digits.plain⟩⟩
        · rcases letter with same | same <;> rw [same] <;> decide
        · intro c held
          rcases sign c (Option.mem_toList.mp held) with rfl | rfl <;> decide

namespace Lexeme

theorem chars_valueKey {inside gap : List Char} (own : (key inside gap).isValueKey = true) :
    quote inside = Scalar.valueKey := by
  rw [isValueKey, beq_iff_eq] at own
  rw [own]
  rfl

theorem quote_other {inside gap : List Char} (other : (key inside gap).isValueKey = false) :
    '"' :: (inside ++ ['"']) ≠ Scalar.valueKey := by
  intro same
  have inner : inside = ['v', 'a', 'l', 'u', 'e'] := List.append_cancel_right (List.cons.inj same).2
  rw [isValueKey, inner] at other
  cases other

/-- A lexeme by itself stays as it is. -/
theorem tag_chars {lexeme : Lexeme} (strict : lexeme.IsStrict) {rest : List Char}
    (apart : Scalar.toContent? rest = none) :
    Scalar.tag (lexeme.chars ++ rest) =
      lexeme.chars ++ Scalar.resume lexeme.isValueKey rest := by
  cases lexeme with
  | string inside => exact Scalar.substitute_quoted Scalar.wrap (Scalar.closing_quote strict rest) (.inr apart)
  | key inside gap =>
      rw [chars, List.append_assoc, List.append_assoc, List.singleton_append]
      cases known : (key inside gap).isValueKey with
      | true =>
          rw [chars_valueKey known, Scalar.tag_valueKey strict.2, List.append_assoc, List.append_assoc]
          rfl
      | false =>
          have kept := Scalar.substitute_quoted Scalar.wrap
            (Scalar.closing_quote strict.1 (gap ++ ':' :: rest)) (.inl (quote_other known))
          have behind : Scalar.tag (gap ++ ':' :: rest) = gap ++ ':' :: Scalar.tag rest := by
            rw [Scalar.tag, Scalar.substitute_text (Scalar.IsSpace.plain strict.2),
              Scalar.substitute_plain (by decide)]
            rfl
          rw [List.append_assoc, List.append_assoc]
          exact kept.trans (congrArg (quote inside ++ ·) behind)
  | number decimal => exact Scalar.substitute_text (Decimal.IsStrict.plain strict) rest
  | bool value => cases value <;> exact Scalar.substitute_text (by simp [chars]) rest
  | _ => exact Scalar.substitute_text (by simp [chars]) rest

end Lexeme

namespace Row
variable {row : Row} {last : List Char}

theorem chars_wrapped (space : List Char) {lexeme : Lexeme} {tag : List Char}
    (known : lexeme.tag? = some tag) :
    (wrapped space lexeme).chars = space ++ Scalar.tagged tag lexeme.chars := by
  simp [wrapped, known, chars, Lexeme.chars, quote, Scalar.tagged]

/-- No colon stands behind a lexeme of a row. -/
theorem toContent_row (strict : row.IsStrict) (blank : IsSpace last) :
    Scalar.toContent? (row.chars ++ last) = none := by
  cases row with
  | nil =>
      rw [← List.append_nil (Row.chars [] ++ last)]
      exact Scalar.toContent_none blank nofun
  | cons entry rest =>
      obtain ⟨space, next⟩ := entry
      obtain ⟨front, own⟩ := strict _ List.mem_cons_self
      rw [chars_cons, List.append_assoc, List.append_assoc]
      exact Scalar.toContent_none front (Lexeme.head_chars own _)

/-- What becomes of a row is told by the lexeme in front of it. -/
theorem resume_chars {first : Lexeme} (strict : row.IsStrict) (blank : IsSpace last)
    (apart : (first :: row.map (·.2)).IsChain (Lexeme.precedes · ·)) :
    Scalar.resume first.isValueKey (row.chars ++ last) =
      (row.tagged first.isValueKey).chars ++ last := by
  induction row generalizing first with
  | nil =>
      have none : (if first.isValueKey then Scalar.wrap [] else none) = none := by
        cases first.isValueKey <;> rfl
      have stops : ∀ c ∈ ([] : List Char).head?, Scalar.isBlank c = false := by simp
      rw [chars, tagged, chars, List.flatMap_nil, List.nil_append, ← List.append_nil last,
        Scalar.resume_space blank stops, none]
      exact congrArg (last ++ ·) (Scalar.substitute_nil Scalar.wrap)
  | cons entry rest ih =>
      obtain ⟨space, lexeme⟩ := entry
      obtain ⟨⟨front, own⟩, others⟩ := List.forall_mem_cons.mp strict
      obtain ⟨goes, apart⟩ := List.isChain_cons_cons.mp apart
      have behind := ih others apart
      have ends : ∀ decimal, lexeme = .number decimal → EndsNumber (Row.chars rest ++ last) := by
        rintro decimal rfl
        exact ends_number others blank apart
      have kept := Lexeme.tag_chars own (toContent_row others blank)
      rw [behind] at kept
      have head := fun c here => (Lexeme.head_chars own (Row.chars rest ++ last) c here).1
      rw [chars_cons, List.append_assoc, List.append_assoc, Scalar.resume_space front head, tagged,
        chars_append, List.append_assoc]
      -- Nothing but a key `value` wants the lexeme behind it tagged, and that lexeme is no key itself.
      cases wanted : first.isValueKey with
      | false =>
          simp only [Bool.false_eq_true, if_false, kept]
          rw [chars_cons]
          simp [chars]
      | true =>
          have content : ∀ inside gap, lexeme ≠ .key inside gap := by
            rintro inside gap rfl
            cases first with
            | key => cases goes
            | _ => cases wanted
          simp only [if_true, Scalar.wrap_chars own content ends]
          cases known : lexeme.tag? with
          | none =>
              simp only [Option.map_none, kept, wrapped, known]
              rw [chars_cons]
              simp [chars]
          | some tag =>
              have scalar : lexeme.isValueKey = false := by
                cases lexeme with
                | key => cases known
                | _ => rfl
              rw [scalar] at behind ⊢
              simp only [Option.map_some, List.drop_left, chars_wrapped space known, List.append_assoc]
              exact congrArg (fun tail => space ++ (Scalar.tagged tag lexeme.chars ++ tail)) behind

end Row

namespace Lexeme

theorem tag_strict {lexeme : Lexeme} {tag : List Char} (known : lexeme.tag? = some tag) :
    IsInside tag := by
  have either : tag = Scalar.textTag ∨ tag = Scalar.levelTag := by
    cases lexeme <;> simp_all [tag?]
  rcases either with rfl | rfl <;> exact isInside_plain (by simp [Scalar.textTag, Scalar.levelTag])

/-- What is wrapped is a scalar, which stands by a key and a mark. -/
theorem tag_precedes {lexeme : Lexeme} {tag : List Char} (known : lexeme.tag? = some tag)
    (inside gap : List Char) : (key inside gap).precedes lexeme = true := by
  cases lexeme with
  | key => cases known
  | _ => rfl

end Lexeme

namespace Row
variable {row : Row}

theorem tagged_strict (strict : row.IsStrict) (wanted : Bool) : (row.tagged wanted).IsStrict := by
  induction row generalizing wanted with
  | nil => exact strict
  | cons entry rest ih =>
      obtain ⟨space, lexeme⟩ := entry
      obtain ⟨own, others⟩ := List.forall_mem_cons.mp strict
      have single : Row.IsStrict [(space, lexeme)] := List.forall_mem_singleton.mpr own
      refine List.forall_mem_append.mpr ⟨?_, ih others _⟩
      split
      · rw [wrapped]
        split
        · exact single
        · rename_i tag known
          simp only [List.forall_mem_cons, Lexeme.IsStrict]
          exact ⟨⟨own.1, trivial⟩, ⟨isSpace_nil, Lexeme.tag_strict known, isSpace_nil⟩,
            ⟨isSpace_nil, own.2⟩, ⟨isSpace_nil, trivial⟩, List.forall_mem_nil _⟩
      · exact single

theorem tagged_apart {first : Lexeme}
    (apart : (first :: row.map (·.2)).IsChain (Lexeme.precedes · ·)) (wanted : Bool) :
    (first :: (row.tagged wanted).map (·.2)).IsChain (Lexeme.precedes · ·) := by
  induction row generalizing first wanted with
  | nil => exact apart
  | cons entry rest ih =>
      obtain ⟨space, lexeme⟩ := entry
      obtain ⟨goes, others⟩ := List.isChain_cons_cons.mp apart
      have single : (first :: lexeme :: (tagged lexeme.isValueKey rest).map (·.2)).IsChain
          (Lexeme.precedes · ·) := List.isChain_cons_cons.mpr ⟨goes, ih others _⟩
      rw [tagged]
      split
      · rw [wrapped]
        split
        · exact single
        · -- The closing bracket takes the place of the scalar in front of the rest.
          rename_i tag known
          have closed : (Lexeme.endObject :: rest.map (·.2)).IsChain (Lexeme.precedes · ·) :=
            Lexeme.isChain_mark rfl (List.IsChain.tail others)
          simp only [List.cons_append, List.nil_append, List.map_cons, List.isChain_cons_cons]
          exact ⟨(Lexeme.precedes_mark rfl first).1, rfl, Lexeme.tag_precedes known _ _,
            (Lexeme.precedes_mark rfl lexeme).1, ih closed _⟩
      · exact single

end Row

namespace Spelling
variable {spelling : Spelling}

def tagged (spelling : Spelling) : Spelling := ⟨spelling.row.tagged false, spelling.last⟩

theorem IsStrict.apart (strict : spelling.IsStrict) :
    (Lexeme.comma :: spelling.row.map (·.2)).IsChain (Lexeme.precedes · ·) :=
  Lexeme.isChain_mark rfl strict.value.apart

/-- A strict text is tagged lexeme by lexeme. -/
theorem tag_chars (strict : spelling.IsStrict) : Scalar.tag spelling.chars = spelling.tagged.chars :=
  Row.resume_chars strict.row strict.last strict.apart

/-- The tokens of a strict text that has been tagged. -/
theorem scan_tagged (strict : spelling.IsStrict) :
    Token.scan (Scalar.tag spelling.chars) = spelling.tagged.row.tokens := by
  rw [tag_chars strict]
  exact Row.scan_chars (Row.tagged_strict strict.row false)
    (List.IsChain.tail (Row.tagged_apart strict.apart false)) strict.last

end Spelling

end Treegram.Json
