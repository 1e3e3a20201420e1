import Mathlib.Data.List.Chain
import Treegram.Proofs.Json.Spelling

/-!
Texts as rows of lexemes with space between them. Every strict text of a value is such a row, and its
lexemes form one value. Its tokens can be read off the row.
-/

namespace Treegram.Json

/-- What a text is made of. A key takes the colon behind it along, with the space between them. -/
inductive Lexeme where
  | beginArray
  | endArray
  | beginObject
  | endObject
  | comma
  | null
  | bool (value : Bool)
  | number (number : Decimal)
  | string (inside : List Char)
  | key (inside gap : List Char)
  deriving DecidableEq

def quote (inside : List Char) : List Char := '"' :: (inside ++ ['"'])

namespace Lexeme

def chars : Lexeme → List Char
  | beginArray => ['[']
  | endArray => [']']
  | beginObject => ['\x7b']
  | endObject => ['\x7d']
  | comma => [',']
  | null => ['n', 'u', 'l', 'l']
  | bool true => ['t', 'r', 'u', 'e']
  | bool false => ['f', 'a', 'l', 's', 'e']
  | number decimal => decimal.chars
  | string inside => quote inside
  | key inside gap => quote inside ++ (gap ++ [':'])

/-- Numbers without leading zeros, quoted texts without raw control characters, space that is space. -/
def IsStrict : Lexeme → Prop
  | number decimal => decimal.IsStrict
  | string inside => IsInside inside
  | key inside gap => IsInside inside ∧ IsSpace gap
  | _ => True

/-- Whether a lexeme can stand right behind another one: numbers would run together, and a key has to
have its value. -/
def precedes : Lexeme → Lexeme → Bool
  | number _, number _ => false
  | key _ _, key _ _ => false
  | _, _ => true

mutual

/-- The lexemes of a value. -/
inductive IsValue : List Lexeme → Prop where
  | null : IsValue [null]
  | bool (value : Bool) : IsValue [bool value]
  | number (decimal : Decimal) : IsValue [number decimal]
  | string (inside : List Char) : IsValue [string inside]
  | emptyArray : IsValue [beginArray, endArray]
  | array {items : List Lexeme} (inside : IsItems items) : IsValue (beginArray :: (items ++ [endArray]))
  | emptyObject : IsValue [beginObject, endObject]
  | object {members : List Lexeme} (inside : IsMembers members) :
      IsValue (beginObject :: (members ++ [endObject]))

/-- Values with commas between them. -/
inductive IsItems : List Lexeme → Prop where
  | one {item : List Lexeme} (value : IsValue item) : IsItems item
  | more {item rest : List Lexeme} (value : IsValue item) (behind : IsItems rest) :
      IsItems (item ++ comma :: rest)

/-- Keys with their values, and commas between them. -/
inductive IsMembers : List Lexeme → Prop where
  | one (inside gap : List Char) {content : List Lexeme} (value : IsValue content) :
      IsMembers (key inside gap :: content)
  | more (inside gap : List Char) {content rest : List Lexeme} (value : IsValue content)
      (behind : IsMembers rest) : IsMembers (key inside gap :: (content ++ comma :: rest))

end

end Lexeme

/-- Lexemes with the space in front of each. -/
abbrev Row := List (List Char × Lexeme)

namespace Row

def chars (row : Row) : List Char := row.flatMap fun (space, lexeme) => space ++ lexeme.chars

/-- No lexeme runs into the next one. -/
def IsApart (row : Row) : Prop := (row.map (·.2)).IsChain (Lexeme.precedes · ·)

def IsStrict (row : Row) : Prop := ∀ entry ∈ row, IsSpace entry.1 ∧ entry.2.IsStrict

end Row

/-- A whole text, lexeme by lexeme, and the space at its end. -/
structure Spelling where
  row : Row
  last : List Char

namespace Spelling

def chars (spelling : Spelling) : List Char := spelling.row.chars ++ spelling.last

/-- A text in the grammar of JSON. -/
structure IsStrict (spelling : Spelling) : Prop where
  value : Lexeme.IsValue (spelling.row.map (·.2))
  row : spelling.row.IsStrict
  last : IsSpace spelling.last

end Spelling

/-! ## Neighbours -/

namespace Lexeme

/-- A bracket or a comma. -/
def isMark : Lexeme → Bool
  | beginArray | endArray | beginObject | endObject | comma => true
  | _ => false

/-- Marks stand by anything. -/
theorem precedes_mark {mark : Lexeme} (known : mark.isMark = true) (lexeme : Lexeme) :
    lexeme.precedes mark = true ∧ mark.precedes lexeme = true := by
  cases mark <;> cases known <;> cases lexeme <;> exact ⟨rfl, rfl⟩

theorem isChain_mark {mark : Lexeme} {row : List Lexeme} (known : mark.isMark = true)
    (chain : row.IsChain (precedes · ·)) : (mark :: row).IsChain (precedes · ·) :=
  List.isChain_cons.mpr ⟨fun next _ => (precedes_mark known next).2, chain⟩

theorem isChain_join {mark : Lexeme} {first second : List Lexeme} (known : mark.isMark = true)
    (before : first.IsChain (precedes · ·)) (behind : second.IsChain (precedes · ·)) :
    (first ++ mark :: second).IsChain (precedes · ·) := by
  refine List.isChain_append.mpr ⟨before, isChain_mark known behind, fun last _ next here => ?_⟩
  rw [← Option.some.inj here]
  exact (precedes_mark known last).1

/-- A key stands by what is no key. -/
theorem isChain_key (inside gap : List Char) {row : List Lexeme}
    (chain : row.IsChain (precedes · ·))
    (content : ∀ next ∈ row.head?, ∀ other space, next ≠ key other space) :
    (key inside gap :: row).IsChain (precedes · ·) := by
  refine List.isChain_cons.mpr ⟨fun next here => ?_, chain⟩
  cases next <;> first | rfl | exact absurd rfl (content _ here _ _)

theorem IsValue.not_nil {row : List Lexeme} (value : IsValue row) : row ≠ [] := by
  cases value <;> exact List.cons_ne_nil _ _

theorem IsValue.head {row : List Lexeme} (value : IsValue row) :
    ∀ first ∈ row.head?, ∀ inside gap, first ≠ key inside gap := by
  cases value <;> simp

mutual

theorem IsValue.apart : ∀ {row : List Lexeme}, IsValue row → row.IsChain (precedes · ·)
  | _, .null | _, .bool _ | _, .number _ | _, .string _ => List.isChain_singleton _
  | _, .emptyArray | _, .emptyObject => by simp [precedes]
  | _, .array inside => isChain_mark rfl (isChain_join rfl inside.apart List.isChain_nil)
  | _, .object inside => isChain_mark rfl (isChain_join rfl inside.apart List.isChain_nil)

theorem IsItems.apart : ∀ {row : List Lexeme}, IsItems row → row.IsChain (precedes · ·)
  | _, .one value => value.apart
  | _, .more value behind => isChain_join rfl value.apart behind.apart

theorem IsMembers.apart : ∀ {row : List Lexeme}, IsMembers row → row.IsChain (precedes · ·)
  | _, .one inside gap value => isChain_key inside gap value.apart value.head
  | _, .more inside gap value behind => by
      refine isChain_key inside gap (isChain_join rfl value.apart behind.apart) ?_
      rw [List.head?_append_of_ne_nil _ value.not_nil]
      exact value.head

end

end Lexeme

/-! ## Tokens -/

theorem ends_nil : EndsNumber [] := nofun

/-- Space ends a number, and what comes behind space that is not there has to. -/
theorem ends_space {space rest : List Char} (blank : IsSpace space) (ends : EndsNumber rest) :
    EndsNumber (space ++ rest) := by
  cases space with
  | nil => exact ends
  | cons c others =>
      intro first here
      obtain rfl := Option.some.inj here
      rcases blank c List.mem_cons_self with rfl | rfl | rfl | rfl <;> decide

theorem numberStart_blank {c : Char} (start : Token.isNumberStart c = true) :
    Scalar.isBlank c = false := by
  cases found : Scalar.isBlank c with
  | false => rfl
  | true =>
      simp only [Scalar.isBlank, Bool.or_eq_true, beq_iff_eq] at found
      rcases found with (((rfl | rfl) | rfl) | rfl) | rfl <;> exact absurd start (by decide)

theorem Decimal.IsStrict.start {number : Decimal} (strict : number.IsStrict) :
    ∃ c tail, number.chars = c :: tail ∧ Token.isNumberStart c = true := by
  obtain ⟨first, others, shape⟩ := List.exists_cons_of_ne_nil strict.whole.1
  have digit : first.isDigit = true := strict.whole.2 first (by simp [shape])
  rw [Decimal.chars_eq, shape]
  cases number.negative with
  | true => exact ⟨'-', _, rfl, rfl⟩
  | false => exact ⟨first, _, rfl, by simp [Token.isNumberStart, digit]⟩

namespace Lexeme

/-- A lexeme begins with what is neither space nor a colon. -/
theorem head_chars {lexeme : Lexeme} (strict : lexeme.IsStrict) (rest : List Char) :
    ∀ c ∈ (lexeme.chars ++ rest).head?, Scalar.isBlank c = false ∧ c ≠ ':' := by
  intro c here
  cases lexeme with
  | number decimal =>
      obtain ⟨first, tail, shape, start⟩ := Decimal.IsStrict.start strict
      rw [chars, shape] at here
      obtain rfl := Option.some.inj here
      refine ⟨numberStart_blank start, ?_⟩
      rintro rfl
      exact absurd start (by decide)
  | bool value => cases value <;> obtain rfl := Option.some.inj here <;> decide
  | _ => obtain rfl := Option.some.inj here; decide

theorem ends_chars {lexeme : Lexeme} (other : ∀ decimal, lexeme ≠ .number decimal) (rest : List Char) :
    EndsNumber (lexeme.chars ++ rest) := by
  intro c here
  cases lexeme with
  | number decimal => exact absurd rfl (other decimal)
  | bool value => cases value <;> obtain rfl := Option.some.inj here <;> decide
  | _ => obtain rfl := Option.some.inj here; decide

end Lexeme

namespace Row
variable {row : Row} {last : List Char}

theorem chars_cons (space : List Char) (lexeme : Lexeme) (rest : Row) :
    Row.chars ((space, lexeme) :: rest) = space ++ (lexeme.chars ++ rest.chars) := by
  rw [chars, List.flatMap_cons, List.append_assoc]
  rfl

theorem chars_append (row other : Row) : Row.chars (row ++ other) = row.chars ++ other.chars :=
  List.flatMap_append

/-- Whatever comes behind a number in a row ends it. -/
theorem ends_number {decimal : Decimal} (strict : row.IsStrict) (blank : IsSpace last)
    (apart : (Lexeme.number decimal :: row.map (·.2)).IsChain (Lexeme.precedes · ·)) :
    EndsNumber (row.chars ++ last) := by
  cases row with
  | nil =>
      rw [← List.append_nil (Row.chars [] ++ last)]
      exact ends_space blank ends_nil
  | cons entry rest =>
      obtain ⟨space, next⟩ := entry
      have other : ∀ decimal, next ≠ .number decimal := by
        rintro decimal rfl
        exact absurd (List.isChain_cons_cons.mp apart).1 (by simp [Lexeme.precedes])
      rw [chars_cons, List.append_assoc, List.append_assoc]
      exact ends_space (strict _ List.mem_cons_self).1 (Lexeme.ends_chars other _)

end Row

namespace Token

theorem scan_space {space : List Char} (blank : IsSpace space) (rest : List Char) :
    scan (space ++ rest) = scan rest := by
  induction space with
  | nil => rfl
  | cons c space ih =>
      have here : isBlank c = true := by
        rcases blank c List.mem_cons_self with rfl | rfl | rfl | rfl <;> rfl
      rw [List.cons_append, scan, scanOnto, if_pos here]
      exact ih fun d held => blank d (List.mem_cons_of_mem c held)

/-- A quoted text in front of other tokens. -/
def readText (inside : List Char) (behind : List Token) : List Token :=
  match unescape? inside with
  | none => [bad]
  | some content => string (String.ofList content) :: behind

theorem scan_quote {inside : List Char} (strict : IsInside inside) (rest : List Char) :
    scan (quote inside ++ rest) = readText inside (scan rest) := by
  obtain ⟨units, spelled⟩ := strict
  have closed := closing_inside spelled 0 rest
  rw [Nat.zero_add] at closed
  rw [quote, List.cons_append, List.append_assoc, List.singleton_append, scan, scanOnto,
    if_neg (by decide), show punctuation? '"' = none from rfl]
  dsimp only
  rw [if_pos rfl, closed]
  dsimp only
  rw [Nat.add_sub_cancel, List.take_left, readText]
  cases unescape? inside with
  | none => rfl
  | some content =>
      dsimp only
      rw [scanOnto_eq, show inside ++ '"' :: rest = (inside ++ ['"']) ++ rest by simp,
        List.drop_left' (by simp)]
      rfl

theorem scan_decimal {number : Decimal} (strict : number.IsStrict) {rest : List Char}
    (ends : EndsNumber rest) :
    scan (number.chars ++ rest) = if number.isValid then .number number :: scan rest else [bad] := by
  obtain ⟨c, tail, shape, start⟩ := strict.start
  have read := Decimal.front_chars strict ends
  split
  · rename_i valid
    exact scan_number (by rw [shape]; rfl) start rfl read valid
  · rename_i invalid
    obtain ⟨blank, mark, quote⟩ := numberStart_only start
    rw [shape, List.cons_append] at read ⊢
    rw [scan, scanOnto, blank, mark]
    dsimp only
    rw [if_neg (by decide), if_neg quote, if_pos start, read, if_neg invalid]
    rfl

theorem scan_null (rest : List Char) : scan ('n' :: 'u' :: 'l' :: 'l' :: rest) = null :: scan rest := by
  rw [scan, scanOnto]
  simp [isBlank, punctuation?, isNumberStart, word?, scanOnto_eq]

end Token

namespace Lexeme

/-- The tokens of a lexeme in front of those behind it. -/
def read (behind : List Token) : Lexeme → List Token
  | beginArray => .beginArray :: behind
  | endArray => .endArray :: behind
  | beginObject => .beginObject :: behind
  | endObject => .endObject :: behind
  | comma => .comma :: behind
  | null => .null :: behind
  | bool value => .bool value :: behind
  | number decimal => if decimal.isValid then .number decimal :: behind else [.bad]
  | string inside => Token.readText inside behind
  | key inside _ => Token.readText inside (.colon :: behind)

theorem scan_chars {lexeme : Lexeme} (strict : lexeme.IsStrict) {rest : List Char}
    (ends : ∀ decimal, lexeme = .number decimal → EndsNumber rest) :
    Token.scan (lexeme.chars ++ rest) = lexeme.read (Token.scan rest) := by
  cases lexeme with
  | beginArray | endArray | beginObject | endObject | comma =>
      exact Token.scan_punctuation (by decide) rfl rest
  | null => exact Token.scan_null rest
  | bool value =>
      have read := Token.scan_bool value rest
      cases value <;> exact read
  | number decimal => exact Token.scan_decimal strict (ends decimal rfl)
  | string inside => exact Token.scan_quote strict rest
  | key inside gap =>
      have colon : Token.scan (':' :: rest) = .colon :: Token.scan rest :=
        Token.scan_punctuation (by decide) rfl rest
      rw [chars, List.append_assoc, Token.scan_quote strict.1, List.append_assoc,
        Token.scan_space strict.2, List.singleton_append, colon, read]

end Lexeme

namespace Row
variable {row : Row} {last : List Char}

/-- The tokens of a row, up to the first that cannot be read. -/
def tokens (row : Row) : List Token := row.foldr (fun entry behind => entry.2.read behind) []

theorem scan_chars (strict : row.IsStrict) (apart : row.IsApart) (blank : IsSpace last) :
    Token.scan (row.chars ++ last) = row.tokens := by
  induction row with
  | nil =>
      have none := Token.scan_space blank []
      rw [List.append_nil] at none
      rw [chars, List.flatMap_nil, List.nil_append, none, Token.scan, Token.scanOnto]
      rfl
  | cons entry rest ih =>
      obtain ⟨space, lexeme⟩ := entry
      obtain ⟨⟨front, own⟩, others⟩ := List.forall_mem_cons.mp strict
      have behind := ih others (List.IsChain.tail apart)
      rw [chars_cons, List.append_assoc, List.append_assoc, Token.scan_space front,
        Lexeme.scan_chars own, behind]
      · rfl
      · rintro decimal rfl
        exact ends_number others blank apart

end Row

/-! ## Texts of values -/

theorem SpellsChar.isInside {c : Char} {spelled rest : List Char} (first : SpellsChar c spelled)
    (behind : IsInside rest) : IsInside (spelled ++ rest) := by
  obtain ⟨units, behind⟩ := behind
  cases first with
  | raw control quote slash => exact ⟨_, .raw control quote slash behind⟩
  | short known => exact ⟨_, .short known behind⟩
  | unit number => exact ⟨_, .unit number behind⟩
  | pair high low =>
      rw [List.cons_append, List.cons_append, List.append_assoc]
      exact ⟨_, .unit high (.unit low behind)⟩

theorem SpellsChars.isInside {content inside : List Char} (spelled : SpellsChars content inside) :
    IsInside inside := by
  induction spelled with
  | nil => exact ⟨[], .nil⟩
  | cons first _ ih => exact first.isInside ih

theorem SpellsText.quote {content : String} {text : List Char} (spelled : SpellsText content text) :
    ∃ inside, IsInside inside ∧ text = quote inside := by
  obtain ⟨inside, spelled, rfl⟩ := spelled
  exact ⟨inside, spelled.isInside, rfl⟩

namespace Row

/-- A strict row with such lexemes and the space behind it make up a text. -/
structure Makes (Lexemes : List Lexeme → Prop) (row : Row) (last text : List Char) : Prop where
  lexemes : Lexemes (row.map (·.2))
  strict : row.IsStrict
  blank : IsSpace last
  chars : row.chars ++ last = text

variable {Lexemes Others : List Lexeme → Prop} {row other : Row} {space last text others : List Char}

theorem Makes.as (made : Makes Lexemes row last text) (known : Others (row.map (·.2))) :
    Makes Others row last text :=
  ⟨known, made.strict, made.blank, made.chars⟩

/-- Nothing but space. -/
theorem makes_space (blank : IsSpace space) : Makes (· = []) [] space space :=
  ⟨rfl, nofun, blank, rfl⟩

/-- What has space behind it. -/
theorem Makes.before_space (made : Makes Lexemes row [] text) (blank : IsSpace space) :
    Makes Lexemes row space (text ++ space) :=
  ⟨made.lexemes, made.strict, blank, by rw [← made.chars, List.append_nil]⟩

theorem Makes.cons {lexeme : Lexeme} (blank : IsSpace space) (strict : lexeme.IsStrict)
    (made : Makes Lexemes row last text) (known : Others (lexeme :: row.map (·.2))) :
    Makes Others ((space, lexeme) :: row) last (space ++ (lexeme.chars ++ text)) where
  lexemes := known
  strict := List.forall_mem_cons.mpr ⟨⟨blank, strict⟩, made.strict⟩
  blank := made.blank
  chars := by rw [chars_cons, ← made.chars, List.append_assoc, List.append_assoc]

/-- Two rows and the lexeme between them, which stands behind the space of the first. -/
theorem Makes.append {First Second : List Lexeme → Prop} (made : Makes First row space text)
    {lexeme : Lexeme} (strict : lexeme.IsStrict) (behind : Makes Second other last others)
    (known : Lexemes (row.map (·.2) ++ lexeme :: other.map (·.2))) :
    Makes Lexemes (row ++ (space, lexeme) :: other) last (text ++ (lexeme.chars ++ others)) where
  lexemes := by rwa [List.map_append, List.map_cons]
  strict := List.forall_mem_append.mpr
    ⟨made.strict, List.forall_mem_cons.mpr ⟨⟨made.blank, strict⟩, behind.strict⟩⟩
  blank := behind.blank
  chars := by simp only [chars_append, chars_cons, ← made.chars, ← behind.chars, List.append_assoc]

theorem makes_one (lexeme : Lexeme) (blank : IsSpace space) (strict : lexeme.IsStrict)
    (known : Lexemes [lexeme]) : Makes Lexemes [(space, lexeme)] [] (space ++ lexeme.chars) := by
  have made := Makes.cons blank strict (makes_space isSpace_nil) known
  rwa [List.append_nil] at made

/-- What stands between brackets. -/
theorem Makes.between (opening closing : Lexeme) (front : IsSpace space)
    (marks : opening.IsStrict ∧ closing.IsStrict) (made : Makes Others row last text)
    (known : Lexemes (opening :: (row.map (·.2) ++ [closing]))) :
    Makes Lexemes ((space, opening) :: (row ++ [(last, closing)])) []
      (space ++ (opening.chars ++ (text ++ closing.chars))) := by
  have closed : Makes (· = row.map (·.2) ++ [closing]) (row ++ [(last, closing)]) []
      (text ++ (closing.chars ++ [])) := made.append marks.2 (makes_space isSpace_nil) rfl
  rw [List.append_nil] at closed
  exact .cons front marks.1 closed (closed.lexemes ▸ known)

/-- A key in front, with the space between it and its colon. -/
theorem Makes.behind_key {inside gap : List Char} (front : IsSpace space) (strict : IsInside inside)
    (left : IsSpace gap) (made : Makes Lexemes row last text)
    (known : Others (.key inside gap :: row.map (·.2))) :
    Makes Others ((space, .key inside gap) :: row) last
      (space ++ quote inside ++ gap ++ ':' :: text) := by
  have own : (Lexeme.key inside gap).IsStrict := ⟨strict, left⟩
  simpa only [Lexeme.chars, List.append_assoc, List.singleton_append] using
    Makes.cons front own made known

end Row

open Row in
mutual

/-- Every text of a value is a row of lexemes that form one. -/
theorem Spells.makes : ∀ {value : Value} {text : List Char}, Spells value text →
    ∀ {space : List Char}, IsSpace space → ∃ row, Makes Lexeme.IsValue row [] (space ++ text)
  | _, _, .null, _, blank => ⟨_, makes_one .null blank trivial .null⟩
  | _, _, .true, _, blank => ⟨_, makes_one (.bool true) blank trivial (.bool true)⟩
  | _, _, .false, _, blank => ⟨_, makes_one (.bool false) blank trivial (.bool false)⟩
  | _, _, .number strict, _, blank => ⟨_, makes_one (.number _) blank strict (.number _)⟩
  | _, _, .string spelled, _, blank => by
      obtain ⟨inside, strict, rfl⟩ := spelled.quote
      exact ⟨_, makes_one (.string inside) blank strict (.string inside)⟩
  | _, _, .emptyArray inside, _, blank =>
      ⟨_, (makes_space inside).between .beginArray .endArray blank ⟨trivial, trivial⟩ .emptyArray⟩
  | _, _, .array inside, _, blank => by
      obtain ⟨row, last, made⟩ := inside.makes
      exact ⟨_, made.between .beginArray .endArray blank ⟨trivial, trivial⟩ (.array made.lexemes)⟩
  | _, _, .emptyObject inside, _, blank =>
      ⟨_, (makes_space inside).between .beginObject .endObject blank ⟨trivial, trivial⟩ .emptyObject⟩
  | _, _, .object inside, _, blank => by
      obtain ⟨row, last, made⟩ := inside.makes
      exact ⟨_, made.between .beginObject .endObject blank ⟨trivial, trivial⟩ (.object made.lexemes)⟩

theorem SpellsItems.makes : ∀ {items : List Value} {text : List Char}, SpellsItems items text →
    ∃ row last, Makes Lexeme.IsItems row last text
  | _, _, .one front spelled back => by
      obtain ⟨row, made⟩ := spelled.makes front
      exact ⟨row, _, (made.before_space back).as (.one made.lexemes)⟩
  | _, _, .more front spelled back behind => by
      obtain ⟨row, made⟩ := spelled.makes front
      obtain ⟨others, last, rest⟩ := behind.makes
      have comma : Lexeme.comma.IsStrict := trivial
      exact ⟨_, _, (made.before_space back).append comma rest (.more made.lexemes rest.lexemes)⟩

theorem SpellsMembers.makes : ∀ {members : List (String × Value)} {text : List Char},
    SpellsMembers members text → ∃ row last, Makes Lexeme.IsMembers row last text
  | _, _, .one front named left right spelled back => by
      obtain ⟨inside, strict, rfl⟩ := named.quote
      obtain ⟨row, made⟩ := spelled.makes right
      exact ⟨_, _, (made.before_space back).behind_key front strict left (.one _ _ made.lexemes)⟩
  | _, _, .more front named left right spelled back behind => by
      obtain ⟨inside, strict, rfl⟩ := named.quote
      obtain ⟨row, made⟩ := spelled.makes right
      obtain ⟨others, last, rest⟩ := behind.makes
      have comma : Lexeme.comma.IsStrict := trivial
      have content := (made.before_space back).append comma rest rfl
      refine ⟨_, _, content.behind_key front strict left ?_⟩
      rw [← content.lexemes]
      exact .more _ _ made.lexemes rest.lexemes

end

/-- Every text of a value is a spelling. -/
theorem IsTextOf.spelling {value : Value} {text : List Char} (spelled : IsTextOf value text) :
    ∃ spelling : Spelling, spelling.IsStrict ∧ spelling.chars = text := by
  obtain ⟨before, inside, after, front, spelled, back, rfl⟩ := spelled
  obtain ⟨row, made⟩ := spelled.makes front
  have whole := made.before_space back
  exact ⟨⟨row, after⟩, ⟨whole.lexemes, whole.strict, whole.blank⟩, whole.chars⟩

end Treegram.Json
