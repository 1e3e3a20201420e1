import Treegram.Proofs.Json.Decimal

/-!
Strict texts. The grammar of JSON, as a relation between a value tree and the texts that spell
it: exactly one comma between neighbours and none elsewhere, exactly one colon behind a key,
numbers without leading zeros, and no raw control character in a quoted text. What is written
of a tree spells it.
-/

namespace Treegram.Json

/-! ## The grammar -/

/-- White space that means nothing. -/
def IsSpace (text : List Char) : Prop := ∀ c ∈ text, c = ' ' ∨ c = '\t' ∨ c = '\n' ∨ c = '\r'

/-- The letters that stand for a character behind a backslash. -/
def shortEscapes : List (Char × Char) :=
  [('"', '"'), ('\\', '\\'), ('/', '/'), ('b', '\x08'), ('f', '\x0c'), ('n', '\n'), ('r', '\r'),
    ('t', '\t')]

/-- Four hexadecimal digits and their number. -/
def IsCodeUnit (digits : List Char) (number : Nat) : Prop :=
  digits.length = 4
    ∧ digits.foldlM (fun number c => (hexValue? c).map (number * 16 + ·)) 0 = some number

/-- A character between quotes, and how it may be spelled there. -/
inductive SpellsChar : Char → List Char → Prop where
  | raw {c : Char} (control : 0x20 ≤ c.toNat) (quote : c ≠ '"') (slash : c ≠ '\\') : SpellsChar c [c]
  | short {letter c : Char} (known : (letter, c) ∈ shortEscapes) : SpellsChar c ['\\', letter]
  | unit {c : Char} {digits : List Char} (number : IsCodeUnit digits c.toNat) :
      SpellsChar c ('\\' :: 'u' :: digits)
  /-- Above the basic plane, two code units. -/
  | pair {c : Char} {high low : Nat} {first second : List Char} (highDigits : IsCodeUnit first high)
      (lowDigits : IsCodeUnit second low) (highRange : 0xD800 ≤ high ∧ high < 0xDC00)
      (lowRange : 0xDC00 ≤ low ∧ low < 0xE000)
      (number : c.toNat = 0x10000 + (high - 0xD800) * 0x400 + (low - 0xDC00)) :
      SpellsChar c ('\\' :: 'u' :: (first ++ '\\' :: 'u' :: second))

/-- A text and what may stand for it between quotes. -/
inductive SpellsChars : List Char → List Char → Prop where
  | nil : SpellsChars [] []
  | cons {c : Char} {rest spelled others : List Char} (first : SpellsChar c spelled)
      (behind : SpellsChars rest others) : SpellsChars (c :: rest) (spelled ++ others)

/-- A text with its quotes. -/
def SpellsText (content : String) (text : List Char) : Prop :=
  ∃ inside, SpellsChars content.toList inside ∧ text = '"' :: (inside ++ ['"'])

/-- Digits that stand somewhere, at least one. -/
def IsDigits (digits : List Char) : Prop := digits ≠ [] ∧ ∀ c ∈ digits, c.isDigit = true

structure Exponent.IsStrict (exponent : Exponent) : Prop where
  letter : exponent.letter = 'e' ∨ exponent.letter = 'E'
  sign : ∀ sign ∈ exponent.sign, sign = '+' ∨ sign = '-'
  digits : IsDigits exponent.digits

structure Decimal.IsStrict (number : Decimal) : Prop where
  whole : IsDigits number.whole
  leading : number.whole.head? = some '0' → number.whole = ['0']
  fraction : ∀ digits ∈ number.fraction, IsDigits digits
  exponent : ∀ exponent ∈ number.exponent, exponent.IsStrict

mutual

/-- A value and a text that spells it. -/
inductive Spells : Value → List Char → Prop where
  | null : Spells .null ['n', 'u', 'l', 'l']
  | true : Spells (.bool true) ['t', 'r', 'u', 'e']
  | false : Spells (.bool false) ['f', 'a', 'l', 's', 'e']
  | number {number : Decimal} (strict : number.IsStrict) : Spells (.number number) number.chars
  | string {content : String} {text : List Char} (spelled : SpellsText content text) :
      Spells (.string content) text
  | emptyArray {space : List Char} (blank : IsSpace space) :
      Spells (.array []) ('[' :: (space ++ [']']))
  | array {items : List Value} {text : List Char} (inside : SpellsItems items text) :
      Spells (.array items) ('[' :: (text ++ [']']))
  | emptyObject {space : List Char} (blank : IsSpace space) :
      Spells (.object []) ('\x7b' :: (space ++ ['\x7d']))
  | object {members : List (String × Value)} {text : List Char}
      (inside : SpellsMembers members text) :
      Spells (.object members) ('\x7b' :: (text ++ ['\x7d']))

/-- Items with space around them and commas between them. -/
inductive SpellsItems : List Value → List Char → Prop where
  | one {item : Value} {before text after : List Char} (front : IsSpace before)
      (spelled : Spells item text) (back : IsSpace after) :
      SpellsItems [item] (before ++ text ++ after)
  | more {item : Value} {rest : List Value} {before text after others : List Char}
      (front : IsSpace before) (spelled : Spells item text) (back : IsSpace after)
      (behind : SpellsItems rest others) :
      SpellsItems (item :: rest) (before ++ text ++ after ++ ',' :: others)

/-- Members, each a key with a colon and a value behind it, with space around all of them. -/
inductive SpellsMembers : List (String × Value) → List Char → Prop where
  | one {key : String} {value : Value} {before name between gap text after : List Char}
      (front : IsSpace before) (named : SpellsText key name) (left : IsSpace between)
      (right : IsSpace gap) (spelled : Spells value text) (back : IsSpace after) :
      SpellsMembers [(key, value)] (before ++ name ++ between ++ ':' :: (gap ++ text ++ after))
  | more {key : String} {value : Value} {rest : List (String × Value)}
      {before name between gap text after others : List Char}
      (front : IsSpace before) (named : SpellsText key name) (left : IsSpace between)
      (right : IsSpace gap) (spelled : Spells value text) (back : IsSpace after)
      (behind : SpellsMembers rest others) :
      SpellsMembers ((key, value) :: rest)
        (before ++ name ++ between ++ ':' :: (gap ++ text ++ after ++ ',' :: others))

end

/-- A whole text, which may begin and end with space. -/
def IsTextOf (value : Value) (text : List Char) : Prop :=
  ∃ before inside after, IsSpace before ∧ Spells value inside ∧ IsSpace after
    ∧ text = before ++ inside ++ after

/-! ## Quoted texts -/

theorem isSpace_nil : IsSpace [] := nofun

/-- The two digits of a character of one byte, with zeros in front of them. -/
theorem isCodeUnit_small {number : Nat} (small : number < 256) :
    IsCodeUnit ['0', '0', hexDigit (number / 16), hexDigit (number % 16)] number := by
  have high := hexValue_hexDigit (number / 16) (by omega)
  have low := hexValue_hexDigit (number % 16) (by omega)
  have zero : hexValue? '0' = some 0 := rfl
  have whole : number / 16 * 16 + number % 16 = number := by omega
  exact ⟨rfl, by simp [zero, high, low, whole]⟩

theorem spells_escapeChar (c : Char) : SpellsChar c (escapeChar c) := by
  unfold escapeChar
  split
  case h_8 =>
    split
    case isTrue control => exact .unit (isCodeUnit_small (by omega))
    case isFalse visible => exact .raw (by omega) (by assumption) (by assumption)
  all_goals exact .short (by decide)

theorem spells_escape (text : List Char) : SpellsChars text (escape text) := by
  induction text with
  | nil => exact .nil
  | cons c text ih => exact .cons (spells_escapeChar c) ih

theorem spells_quoted (content : String) : SpellsText content (Value.quoted content) :=
  ⟨escape content.toList, spells_escape content.toList, rfl⟩

/-! ## Written values -/

/-- The first digit of a number is no zero, except of zero itself. -/
theorem toDigits_head (number : Nat) (positive : 0 < number) :
    (Nat.toDigits 10 number).head? ≠ some '0' := by
  induction number using Nat.strongRecOn with
  | ind number ih =>
      by_cases small : number < 10
      · rw [Nat.toDigits_of_lt_base small]
        simpa using Nat.ne_of_gt positive
      · have front := ih (number / 10) (by omega) (by omega)
        rw [Nat.toDigits_of_base_le (by decide) (by omega),
          List.head?_append_of_ne_nil _ Nat.toDigits_ne_nil]
        exact front

/-- Integers are written without leading zeros. -/
theorem strict_ofInt (number : Int) : (Decimal.ofInt number).IsStrict where
  whole := ⟨Nat.toDigits_ne_nil, toDigits_digits number.natAbs⟩
  leading zero := by
    by_cases positive : 0 < number.natAbs
    · exact absurd zero (toDigits_head number.natAbs positive)
    · have none : number.natAbs = 0 := by omega
      simp [Decimal.ofInt, none]
  fraction := nofun
  exponent := nofun

/-- A value in a tree: the tree itself, or a value in one of its items or members. -/
inductive Value.Holds : Value → Value → Prop where
  | self (value : Value) : Holds value value
  | item {items : List Value} {item inner : Value} (found : item ∈ items)
      (inside : Holds item inner) : Holds (.array items) inner
  | member {members : List (String × Value)} {member : String × Value} {inner : Value}
      (found : member ∈ members) (inside : Holds member.2 inner) : Holds (.object members) inner

/-- What holds of a value when it holds of the values directly in it holds of every value. -/
theorem Value.induction {motive : Value → Prop} (null : motive .null)
    (bool : ∀ value, motive (.bool value)) (number : ∀ decimal, motive (.number decimal))
    (string : ∀ content, motive (.string content))
    (array : ∀ items, (∀ item ∈ items, motive item) → motive (.array items))
    (object : ∀ members : List (String × Value), (∀ member ∈ members, motive member.2) →
      motive (.object members)) : ∀ value, motive value
  | .null => null
  | .bool value => bool value
  | .number decimal => number decimal
  | .string content => string content
  | .array items => array items fun item _ => induction null bool number string array object item
  | .object members =>
      object members fun member _ => induction null bool number string array object member.2
termination_by value => sizeOf value
decreasing_by
  · have := List.sizeOf_lt_of_mem ‹_›
    simp; omega
  · have := List.sizeOf_lt_of_mem ‹member ∈ members›
    obtain ⟨key, value⟩ := member
    simp at this ⊢; omega

/-- Every number in the tree is written strictly. -/
def Value.NumbersStrict (value : Value) : Prop :=
  ∀ number, value.Holds (.number number) → number.IsStrict

theorem spells_items {items : List Value} (some : items ≠ [])
    (each : ∀ item ∈ items, Spells item item.chars) :
    SpellsItems items (Value.listed (items.map Value.chars)) := by
  induction items with
  | nil => exact absurd rfl some
  | cons item rest ih =>
      have first := each item List.mem_cons_self
      cases rest with
      | nil => simpa [Value.listed] using SpellsItems.one isSpace_nil first isSpace_nil
      | cons next rest =>
          have behind := ih (List.cons_ne_nil next rest) fun other held =>
            each other (List.mem_cons_of_mem item held)
          have whole := SpellsItems.more isSpace_nil first isSpace_nil behind
          rw [List.map_cons, Value.listed_cons] at whole ⊢
          simpa using whole

theorem spells_members {members : List (String × Value)} (some : members ≠ [])
    (each : ∀ member ∈ members, Spells member.2 member.2.chars) :
    SpellsMembers members (Value.listed (members.map Scalar.memberChars)) := by
  induction members with
  | nil => exact absurd rfl some
  | cons member rest ih =>
      have first := each member List.mem_cons_self
      have named := spells_quoted member.1
      cases rest with
      | nil =>
          simpa [Value.listed, Scalar.memberChars] using
            SpellsMembers.one isSpace_nil named isSpace_nil isSpace_nil first isSpace_nil
      | cons next rest =>
          have behind := ih (List.cons_ne_nil next rest) fun other held =>
            each other (List.mem_cons_of_mem member held)
          have whole := SpellsMembers.more isSpace_nil named isSpace_nil isSpace_nil first isSpace_nil
            behind
          rw [List.map_cons, Value.listed_cons] at whole ⊢
          simpa [Scalar.memberChars] using whole

/-- A written tree is a strict text of it if its numbers are. -/
theorem spells_chars (value : Value) (strict : value.NumbersStrict) : Spells value value.chars := by
  induction value using Value.induction with
  | null => exact .null
  | bool value => cases value <;> constructor
  | number decimal =>
      rw [Value.chars, Value.write, List.reverseAux_eq, List.append_nil, List.reverse_reverse]
      exact .number (strict decimal (.self _))
  | string content =>
      rw [Value.chars_string]
      exact .string (spells_quoted content)
  | array items ih =>
      have each : ∀ item ∈ items, Spells item item.chars := fun item found =>
        ih item found fun number inside => strict number (.item found inside)
      rw [Value.chars_array]
      cases items with
      | nil => exact .emptyArray isSpace_nil
      | cons item rest => exact .array (spells_items (List.cons_ne_nil item rest) each)
  | object members ih =>
      have each : ∀ member ∈ members, Spells member.2 member.2.chars := fun member found =>
        ih member found fun number inside => strict number (.member found inside)
      rw [Value.chars_object]
      cases members with
      | nil => exact .emptyObject isSpace_nil
      | cons member rest => exact .object (spells_members (List.cons_ne_nil member rest) each)

theorem isTextOf_chars {value : Value} (strict : value.NumbersStrict) :
    IsTextOf value value.chars :=
  ⟨[], value.chars, [], isSpace_nil, spells_chars value strict, isSpace_nil, by simp⟩

end Treegram.Json
