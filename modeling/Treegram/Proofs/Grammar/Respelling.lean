import Treegram.Grammar.Reader
import Treegram.Proofs.Json.RowTagging

/-!
Grammars from texts that are spelled differently. Space does not matter, nor do escapes, except in
the one key whose scalars are tagged: the tagger knows it only as long as it is spelled out.
-/

namespace Treegram

namespace Json

/-- Lexemes that mean the same. A key may be respelled if `agree` allows it. -/
inductive Lexeme.Alike (agree : List Char → List Char → Prop) : Lexeme → Lexeme → Prop where
  | same (lexeme : Lexeme) : Alike agree lexeme lexeme
  | string {inside other : List Char} (same : SameInside inside other) :
      Alike agree (.string inside) (.string other)
  | key {inside other gap space : List Char} (same : SameInside inside other)
      (agreed : agree inside other) : Alike agree (.key inside gap) (.key other space)

def Row.Alike (agree : List Char → List Char → Prop) (row other : Row) : Prop :=
  List.Forall₂ (fun entry found => Lexeme.Alike agree entry.2 found.2) row other

/-- Texts that differ in nothing but their space and the spelling of their quoted texts. -/
def Spelling.Alike (agree : List Char → List Char → Prop) (spelling other : Spelling) : Prop :=
  spelling.row.Alike agree other.row

/-- Both keys are spelled out as `value`, or neither is. -/
def AgreeOnValue (inside other : List Char) : Prop :=
  inside = ['v', 'a', 'l', 'u', 'e'] ↔ other = ['v', 'a', 'l', 'u', 'e']

namespace Lexeme
variable {agree : List Char → List Char → Prop} {lexeme other : Lexeme}

theorem Alike.read (alike : lexeme.Alike agree other) (behind : List Token) :
    lexeme.read behind = other.read behind := by
  cases alike with
  | same => rfl
  | string same => rw [Lexeme.read, Lexeme.read, Token.readText, Token.readText, same.unescape]
  | key same => rw [Lexeme.read, Lexeme.read, Token.readText, Token.readText, same.unescape]

theorem Alike.tag (alike : lexeme.Alike agree other) : lexeme.tag? = other.tag? := by
  cases alike <;> rfl

theorem Alike.isValueKey (alike : lexeme.Alike AgreeOnValue other) :
    lexeme.isValueKey = other.isValueKey := by
  cases alike with
  | same => rfl
  | string => rfl
  | key _ agreed =>
      rw [Bool.eq_iff_iff, Lexeme.isValueKey, Lexeme.isValueKey, beq_iff_eq, beq_iff_eq]
      exact agreed

end Lexeme

namespace Row
variable {agree : List Char → List Char → Prop} {row other : Row}

theorem Alike.tokens (alike : row.Alike agree other) : row.tokens = other.tokens := by
  induction alike with
  | nil => rfl
  | cons first _ ih => exact (first.read _).trans (congrArg (Lexeme.read · _) ih)

theorem Alike.wrapped {space gap : List Char} {lexeme found : Lexeme}
    (alike : lexeme.Alike agree found) :
    (Row.wrapped space lexeme).Alike agree (Row.wrapped gap found) := by
  rw [Row.wrapped, Row.wrapped, ← alike.tag]
  cases lexeme.tag? with
  | none => exact .cons alike .nil
  | some tag => exact .cons (.same _) (.cons (.same _) (.cons alike (.cons (.same _) .nil)))

/-- Rows that agree on the key `value` are tagged alike. -/
theorem Alike.tagged (alike : row.Alike AgreeOnValue other) (wanted : Bool) :
    (row.tagged wanted).Alike AgreeOnValue (other.tagged wanted) := by
  induction alike generalizing wanted with
  | nil => exact .nil
  | @cons entry found rest others first _ ih =>
      obtain ⟨space, lexeme⟩ := entry
      obtain ⟨gap, found⟩ := found
      rw [Row.tagged, Row.tagged, ← first.isValueKey]
      refine List.rel_append ?_ (ih _)
      cases wanted with
      | true => exact Alike.wrapped first
      | false => exact .cons first .nil

end Row

end Json

namespace Grammar
open Json

/-- Two strict texts that differ only in space and in the spelling of quoted texts are read as the same
grammar, or both as none, as long as they agree on which keys are spelled out as `value`. -/
theorem read_alike {spelling other : Spelling} (strict : spelling.IsStrict)
    (otherStrict : other.IsStrict) (alike : spelling.Alike AgreeOnValue other) :
    read? (String.ofList spelling.chars) = read? (String.ofList other.chars) := by
  have tokens : spelling.tagged.row.tokens = other.tagged.row.tokens :=
    (Row.Alike.tagged alike false).tokens
  rw [read?, read?, Layout.read?, Layout.read?, String.toList_ofList, String.toList_ofList,
    Spelling.scan_tagged strict, Spelling.scan_tagged otherStrict, tokens]

/-- A grammar of one rule that is a text. The space behind the marks, the key of the text and the text
itself may be spelled in several ways. -/
def itemSpelling (space key content : List Char) : Spelling where
  row :=
    [([], .beginObject), (space, .key ['n', 'a', 'm', 'e'] []), (space, .string ['g']), ([], .comma),
      (space, .key ['r', 'u', 'l', 'e', 's'] []), (space, .beginObject),
      (space, .key ['i', 't', 'e', 'm'] []), (space, .beginObject),
      (space, .key ['t', 'y', 'p', 'e'] []), (space, .string ['S', 'T', 'R', 'I', 'N', 'G']),
      ([], .comma), (space, .key key []), (space, .string content), ([], .endObject),
      ([], .endObject), ([], .endObject)]
  last := space

theorem strict_itemSpelling {space key content : List Char} (blank : IsSpace space)
    (named : IsInside key) (spelled : IsInside content) : (itemSpelling space key content).IsStrict where
  value := by
    have rule := Lexeme.IsValue.object (.more ['t', 'y', 'p', 'e'] []
      (.string ['S', 'T', 'R', 'I', 'N', 'G']) (.one key [] (.string content)))
    have rules := Lexeme.IsValue.object (.one ['i', 't', 'e', 'm'] [] rule)
    exact .object (.more ['n', 'a', 'm', 'e'] [] (.string ['g'])
      (.one ['r', 'u', 'l', 'e', 's'] [] rules))
  row := by
    have plain {text : List Char} (plain : ∀ c ∈ text, 0x20 ≤ c.toNat ∧ c ≠ '"' ∧ c ≠ '\\') :
        IsInside text := isInside_plain plain
    simp only [Row.IsStrict, itemSpelling, List.forall_mem_cons, Lexeme.IsStrict, isSpace_nil, blank,
      named, spelled, and_true, true_and, List.not_mem_nil, false_implies, implies_true]
    refine ⟨?_, ?_, ?_, ?_, ?_, ?_⟩ <;> exact plain (by simp)
  last := blank

theorem alike_itemSpelling {agree : List Char → List Char → Prop} {key other content found : List Char}
    (named : SameInside key other) (agreed : agree key other) (spelled : SameInside content found)
    (space gap : List Char) :
    (itemSpelling space key content).Alike agree (itemSpelling gap other found) := by
  simp only [Spelling.Alike, Row.Alike, itemSpelling, List.forall₂_cons, Lexeme.Alike.same, true_and]
  exact ⟨.key named agreed, .string spelled, .nil⟩

/-- Space behind the marks and an escape in the text change nothing. -/
theorem read_alike_item :
    (itemSpelling [] ['v', 'a', 'l', 'u', 'e'] ['x']).Alike AgreeOnValue
        (itemSpelling [' '] ['v', 'a', 'l', 'u', 'e'] ['\\', 'u', '0', '0', '7', '8'])
      ∧ (read? (String.ofList (itemSpelling [] ['v', 'a', 'l', 'u', 'e'] ['x']).chars)).isSome = true
      ∧ read? (String.ofList (itemSpelling [] ['v', 'a', 'l', 'u', 'e'] ['x']).chars) =
          read? (String.ofList (itemSpelling [' '] ['v', 'a', 'l', 'u', 'e']
            ['\\', 'u', '0', '0', '7', '8']).chars) := by
  have named : IsInside ['v', 'a', 'l', 'u', 'e'] := isInside_plain (by simp)
  have spelled : SameInside ['x'] ['\\', 'u', '0', '0', '7', '8'] :=
    sameInside_numbered (by decide) (by decide) (by decide) (by decide) (isInside_plain nofun)
  have alike : (itemSpelling [] ['v', 'a', 'l', 'u', 'e'] ['x']).Alike AgreeOnValue
      (itemSpelling [' '] ['v', 'a', 'l', 'u', 'e'] ['\\', 'u', '0', '0', '7', '8']) :=
    alike_itemSpelling named.same Iff.rfl spelled [] [' ']
  exact ⟨alike, by decide +kernel, read_alike (strict_itemSpelling isSpace_nil named spelled.left)
    (strict_itemSpelling (by simp [IsSpace]) named spelled.right) alike⟩

/-- An escape in the key `value` keeps the tagger from its content, and the text is refused. -/
theorem read_escaped_key :
    ∃ spelling other : Spelling, spelling.IsStrict ∧ other.IsStrict
      ∧ spelling.Alike (fun _ _ => True) other
      ∧ (read? (String.ofList spelling.chars)).isSome = true
      ∧ read? (String.ofList other.chars) = none := by
  have content : IsInside ['x'] := isInside_plain (by simp)
  have named : SameInside ['v', 'a', 'l', 'u', 'e']
      ['\\', 'u', '0', '0', '7', '6', 'a', 'l', 'u', 'e'] :=
    sameInside_numbered (by decide) (by decide) (by decide) (by decide) (isInside_plain (by simp))
  refine ⟨itemSpelling [] ['v', 'a', 'l', 'u', 'e'] ['x'],
    itemSpelling [] ['\\', 'u', '0', '0', '7', '6', 'a', 'l', 'u', 'e'] ['x'],
    strict_itemSpelling isSpace_nil named.left content,
    strict_itemSpelling isSpace_nil named.right content,
    alike_itemSpelling named trivial content.same [] [], ?_, ?_⟩
  · decide +kernel
  · decide +kernel

end Grammar

end Treegram
