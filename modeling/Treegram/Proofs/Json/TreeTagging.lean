import Treegram.Proofs.Json.Tree

/-!
Tagged trees. Of a text in the grammar of JSON, the scalars behind keys spelled `value` are wrapped and
every other character stays. Taking the wrappers off gives the text back, unless it had some of its own.
-/

namespace Treegram.Json

/-- The key is the name of a type, spelled out. -/
def Key.isTag (key : Key) : Bool := key.inside == Scalar.textTag || key.inside == Scalar.levelTag

namespace Tree

/-- The name of its type, for a text and for a number with neither fraction nor exponent. -/
def type? : Tree → Option (List Char)
  | .string _ => some Scalar.textTag
  | .number decimal => if decimal.isWhole then some Scalar.levelTag else none
  | _ => none

/-- A tree in an object that names its type, with no space in it. -/
def wrapped (tag : List Char) (tree : Tree) : Tree :=
  .object (.one ⟨[], tag, [], []⟩ tree [])

def tag? (tree : Tree) : Option Tree := tree.type?.map (wrapped · tree)

/-- What is in an object with a single member, if that is a scalar under the name of a type. -/
def untag? : Tree → Option Tree
  | .object (.one key content _) => if key.isTag && content.type?.isSome then some content else none
  | _ => none

end Tree

/-- No key spelled `value` has a scalar behind it that is wrapped already. -/
def HoldNoTags (members : List (Key × Tree)) : Prop :=
  ∀ member ∈ members, member.1.isValue = true → member.2.untag? = none

/-! ## The swaps -/

theorem Tree.chars_wrapped (tag : List Char) (tree : Tree) :
    (wrapped tag tree).chars = Scalar.tagged tag tree.chars := by
  simp [wrapped, chars, Members.chars, Key.chars, quote, Scalar.tagged]

namespace Scalar

/-- Scalars are wrapped, and nothing else is. -/
theorem swaps_wrap : Swaps wrap Tree.tag? := by
  intro tree strict rest follows
  have scalar (lexeme : Lexeme) (own : lexeme.IsStrict)
      (other : ∀ inside gap, lexeme ≠ .key inside gap) :=
    wrap_chars own other fun _ _ => follows.endsNumber
  simp only [Tree.tag?, Option.map_map, Function.comp_def, Tree.chars_wrapped]
  cases tree with
  | null => exact scalar .null trivial nofun
  | bool value =>
      cases value with
      | true => exact scalar (.bool true) trivial nofun
      | false => exact scalar (.bool false) trivial nofun
  | number decimal => exact scalar (.number decimal) strict nofun
  | string inside => exact scalar (.string inside) strict nofun
  | emptyArray | array | emptyObject | object => exact wrap_other (by decide) (by decide) _

theorem scalarLength_wrap (text : List Char) : scalarLength? text = (wrap text).map (·.1) := by
  rw [scalarLength?, wrap]
  cases quotedLength? text with
  | some count => rfl
  | none => cases integerLength? text <;> rfl

theorem scalarLength_chars {tree : Tree} (strict : tree.IsStrict) {rest : List Char}
    (follows : Follows rest) :
    scalarLength? (tree.chars ++ rest) = tree.type?.map fun _ => tree.chars.length := by
  rw [scalarLength_wrap, swaps_wrap tree strict rest follows, Tree.tag?]
  cases tree.type? <;> rfl

theorem unwrap_other {c : Char} (other : c ≠ '\x7b') (rest : List Char) :
    unwrap (c :: rest) = none := by
  unfold unwrap
  split
  · rename_i same
    exact absurd (List.cons.inj same).1 other
  · rfl

theorem quote_tag (key : Key) : key.isTag = true ↔
    quote key.inside = '"' :: (textTag ++ ['"']) ∨ quote key.inside = '"' :: (levelTag ++ ['"']) := by
  simp [Key.isTag, quote]

/-- What the remover of tags makes of an object is told by its first key, the scalar behind that and the
mark behind the scalar. -/
theorem unwrap_key {key : Key} (strict : key.IsStrict) {text : List Char}
    (head : ∀ c ∈ text.head?, isBlank c = false) :
    unwrap ('\x7b' :: (key.chars ++ text)) =
      if key.isTag = true then
        match scalarLength? text with
        | none => none
        | some count =>
            match (text.drop count).drop (blanks (text.drop count)) with
            | '\x7d' :: _ =>
                some (1 + key.chars.length + count + blanks (text.drop count) + 1, text.take count)
            | _ => none
      else none := by
  obtain ⟨before, inside, left, right⟩ := strict
  have front : blanks (key.before ++ (quote key.inside ++ (key.left ++ ':' :: (key.right ++ text)))) =
      key.before.length := blanks_space before (by simp [quote, isBlank])
  have middle : blanks (key.left ++ ':' :: (key.right ++ text)) = key.left.length :=
    blanks_space left (by simp [isBlank])
  have back : blanks (key.right ++ text) = key.right.length := blanks_space right head
  have shape : key.chars ++ text =
      key.before ++ (quote key.inside ++ (key.left ++ ':' :: (key.right ++ text))) := by
    simp [Key.chars]
  have size : 1 + key.chars.length = 1 + key.before.length + (quote key.inside).length
      + key.left.length + 1 + key.right.length := by
    simp only [Key.chars, List.length_append, List.length_cons]
    omega
  rw [shape, unwrap, size]
  simp only [front, List.drop_left, quotedLength_quote inside, List.take_left, middle, back]
  by_cases named : key.isTag = true
  · exact (if_pos ((quote_tag key).mp named)).trans (if_pos named).symm
  · exact (if_neg fun same => named ((quote_tag key).mpr same)).trans (if_neg named).symm

section Content
variable {key : Key} {content : Tree} {after : List Char} (own : key.IsStrict)
  (strict : content.IsStrict) (back : IsSpace after)
include own strict back

theorem unwrap_member {mark : Char} {rest : List Char} (ends : EndsValue (mark :: rest)) :
    unwrap ('\x7b' :: (key.chars ++ (content.chars ++ (after ++ mark :: rest)))) =
      if key.isTag && content.type?.isSome && mark == '\x7d' then
        some (1 + key.chars.length + content.chars.length + after.length + 1, content.chars)
      else none := by
  have follows := follows_space back ends
  have gap : blanks (after ++ mark :: rest) = after.length :=
    blanks_space back fun c here => (ends.head c here).1
  rw [unwrap_key own fun c here => (Tree.head_chars strict _ c here).1,
    scalarLength_chars strict follows]
  cases content.type? with
  | none => simp
  | some tag =>
      simp only [Option.map_some, List.drop_left, List.take_left, gap]
      cases key.isTag with
      | false => rfl
      | true =>
        by_cases same : mark = '\x7d'
        · subst same
          rfl
        · simp [same]

end Content

/-- Wrappers are taken off, and nothing else is. -/
theorem swaps_unwrap : Swaps unwrap Tree.untag? := by
  intro tree strict rest follows
  cases tree with
  | null => exact unwrap_other (by decide) _
  | bool value => cases value <;> exact unwrap_other (by decide) _
  | number decimal =>
      obtain ⟨c, tail, shape, start⟩ := Decimal.IsStrict.start strict
      have other : c ≠ '\x7b' := by
        rintro rfl
        exact absurd start (by decide)
      rw [Tree.chars, shape]
      exact unwrap_other other _
  | string | emptyArray | array => exact unwrap_other (by decide) _
  | emptyObject space =>
      have gap : blanks (space ++ '\x7d' :: rest) = space.length :=
        blanks_space strict (by simp [isBlank])
      have none : quotedLength? ('\x7d' :: rest) = none := quotedLength_other (by decide) rest
      have shape : (Tree.emptyObject space).chars ++ rest = '\x7b' :: (space ++ '\x7d' :: rest) := by
        simp [Tree.chars]
      rw [shape, unwrap]
      simp only [gap, List.drop_left, none]
      rfl
  | object members =>
      -- A wrapper has one member; if there are more, a comma stands where the brace would have to.
      cases members with
      | one key content after =>
          obtain ⟨own, strict, back⟩ := strict
          have shape : (Tree.object (.one key content after)).chars ++ rest =
              '\x7b' :: (key.chars ++ (content.chars ++ (after ++ '\x7d' :: rest))) := by
            simp [Tree.chars, Members.chars]
          rw [shape, unwrap_member own strict back (ends_mark rest (.inr (.inr rfl)))]
          have size : (Tree.object (.one key content after)).chars.length =
              1 + key.chars.length + content.chars.length + after.length + 1 := by
            simp only [Tree.chars, Members.chars, List.length_cons, List.length_append, List.length_nil]
            omega
          rw [size, Tree.untag?]
          simp only [beq_self_eq_true, Bool.and_true]
          split <;> rfl
      | more key content after others =>
          obtain ⟨own, strict, back, _⟩ := strict
          have shape : (Tree.object (.more key content after others)).chars ++ rest =
              '\x7b' :: (key.chars ++ (content.chars ++
                (after ++ ',' :: (others.chars ++ '\x7d' :: rest)))) := by
            simp [Tree.chars, Members.chars]
          rw [shape, unwrap_member own strict back (ends_mark _ (.inl rfl))]
          simp [Tree.untag?]

end Scalar

/-! ## Back again -/

/-- Strict trees are changed to strict trees. -/
def KeepsStrict (change : Tree → Option Tree) : Prop :=
  ∀ tree new : Tree, tree.IsStrict → change tree = some new → new.IsStrict

section Rewrite
variable {change : Tree → Option Tree}

theorem changed_strict (keeps : KeepsStrict change) {wanted : Bool} {content other : Tree}
    (strict : content.IsStrict) (inside : other.IsStrict) :
    ((if wanted then change content else none).getD other).IsStrict := by
  cases wanted with
  | false => exact inside
  | true =>
      cases found : change content with
      | none => simpa [found] using inside
      | some new => simpa [found] using keeps content new strict found

mutual

theorem Tree.rewrite_strict (keeps : KeepsStrict change) : ∀ {tree : Tree}, tree.IsStrict →
    (tree.rewrite change).IsStrict
  | .null, strict | .bool _, strict | .number _, strict | .string _, strict
  | .emptyArray _, strict | .emptyObject _, strict => strict
  | .array _, strict => Items.rewrite_strict keeps strict
  | .object _, strict => Members.rewrite_strict keeps strict

theorem Items.rewrite_strict (keeps : KeepsStrict change) : ∀ {items : Items}, items.IsStrict →
    (items.rewrite change).IsStrict
  | .one _ _ _, ⟨front, strict, back⟩ => ⟨front, Tree.rewrite_strict keeps strict, back⟩
  | .more _ _ _ _, ⟨front, strict, back, behind⟩ =>
      ⟨front, Tree.rewrite_strict keeps strict, back, Items.rewrite_strict keeps behind⟩

theorem Members.rewrite_strict (keeps : KeepsStrict change) : ∀ {members : Members},
    members.IsStrict → (members.rewrite change).IsStrict
  | .one _ _ _, ⟨own, strict, back⟩ =>
      ⟨own, changed_strict keeps strict (Tree.rewrite_strict keeps strict), back⟩
  | .more _ _ _ _, ⟨own, strict, back, behind⟩ =>
      ⟨own, changed_strict keeps strict (Tree.rewrite_strict keeps strict), back,
        Members.rewrite_strict keeps behind⟩

end

theorem Tree.type_rewrite (tree : Tree) : (tree.rewrite change).type? = tree.type? := by
  cases tree <;> rfl

theorem Tree.rewrite_scalar {tree : Tree} (scalar : tree.type?.isSome = true) :
    tree.rewrite change = tree := by
  cases tree with
  | array | object => cases scalar
  | _ => rfl

/-- A change makes no wrappers out of other objects, and leaves wrappers as they are. -/
theorem Tree.untag_rewrite (tree : Tree) : (tree.rewrite change).untag? = tree.untag? := by
  cases tree with
  | object members =>
      cases members with
      | more => rfl
      | one key content after =>
          simp only [Tree.rewrite, Members.rewrite, Tree.untag?]
          cases named : key.isTag with
          | false => rfl
          | true =>
              -- The names of types are not the key whose contents are changed.
              have other : key.isValue = false := by
                simp only [Key.isTag, Bool.or_eq_true, beq_iff_eq] at named
                rcases named with same | same <;> rw [Key.isValue, same] <;> rfl
              simp only [other, Bool.false_eq_true, if_false, Option.getD_none, Tree.type_rewrite,
                Bool.true_and]
              split
              · rw [Tree.rewrite_scalar ‹_›]
              · rfl
  | _ => rfl

end Rewrite

theorem Tree.type_known {tree : Tree} {tag : List Char} (named : tree.type? = some tag) :
    tag = Scalar.textTag ∨ tag = Scalar.levelTag := by
  cases tree with
  | string inside => exact .inl (Option.some.inj named).symm
  | number decimal =>
      rw [type?] at named
      split at named
      · exact .inr (Option.some.inj named).symm
      · cases named
  | _ => cases named

theorem Tree.wrapped_strict {tree : Tree} (strict : tree.IsStrict) {tag : List Char}
    (named : tree.type? = some tag) : (wrapped tag tree).IsStrict := by
  have inside : IsInside tag := by
    rcases type_known named with rfl | rfl <;>
      exact isInside_plain (by simp [Scalar.textTag, Scalar.levelTag])
  exact ⟨⟨isSpace_nil, inside, isSpace_nil, isSpace_nil⟩, strict, isSpace_nil⟩

theorem Tree.untag_wrapped {tree : Tree} {tag : List Char} (named : tree.type? = some tag) :
    (wrapped tag tree).untag? = some tree := by
  have known : Key.isTag ⟨[], tag, [], []⟩ = true := by
    rcases type_known named with rfl | rfl <;> rfl
  rw [wrapped, untag?, known, named]
  rfl

theorem keepsStrict_tag : KeepsStrict Tree.tag? := by
  rintro tree new strict known
  obtain ⟨tag, named, rfl⟩ := Option.map_eq_some_iff.mp known
  exact Tree.wrapped_strict strict named

/-- A content that is no wrapper comes back from behind its key. -/
theorem changed_back {wanted : Bool} {content changed : Tree}
    (made : (if wanted then content.tag? else none).getD (content.rewrite Tree.tag?) = changed)
    (bare : wanted = true → content.untag? = none)
    (inside : (content.rewrite Tree.tag?).rewrite Tree.untag? = content) :
    (if wanted then changed.untag? else none).getD (changed.rewrite Tree.untag?) = content := by
  subst made
  cases wanted with
  | false => exact inside
  | true =>
      simp only [if_true]
      cases known : content.tag? with
      -- What was not wrapped was no wrapper either, and is none when its members are tagged.
      | none => simpa [Tree.untag_rewrite, bare rfl] using inside
      | some new =>
          obtain ⟨tag, named, rfl⟩ := Option.map_eq_some_iff.mp known
          simp [Tree.untag_wrapped named]

mutual

theorem Tree.rewrite_back : ∀ {tree : Tree}, HoldNoTags tree.members →
    (tree.rewrite Tree.tag?).rewrite Tree.untag? = tree
  | .null, _ | .bool _, _ | .number _, _ | .string _, _ | .emptyArray _, _ | .emptyObject _, _ => rfl
  | .array _, bare => congrArg Tree.array (Items.rewrite_back bare)
  | .object _, bare => congrArg Tree.object (Members.rewrite_back bare)

theorem Items.rewrite_back : ∀ {items : Items}, HoldNoTags items.members →
    (items.rewrite Tree.tag?).rewrite Tree.untag? = items
  | .one before item after, bare => by
      rw [Items.rewrite, Items.rewrite, Tree.rewrite_back bare]
  | .more before item after rest, bare => by
      obtain ⟨here, others⟩ := List.forall_mem_append.mp bare
      rw [Items.rewrite, Items.rewrite, Tree.rewrite_back here, Items.rewrite_back others]

theorem Members.rewrite_back : ∀ {members : Members}, HoldNoTags members.members →
    (members.rewrite Tree.tag?).rewrite Tree.untag? = members
  | .one key content after, bare => by
      obtain ⟨own, inside⟩ := List.forall_mem_cons.mp bare
      rw [Members.rewrite, Members.rewrite, changed_back rfl own (Tree.rewrite_back inside)]
  | .more key content after rest, bare => by
      obtain ⟨own, inside⟩ := List.forall_mem_cons.mp bare
      obtain ⟨here, others⟩ := List.forall_mem_append.mp inside
      rw [Members.rewrite, Members.rewrite, changed_back rfl own (Tree.rewrite_back here),
        Members.rewrite_back others]

end

/-! ## Documents -/

/-- Every text in the grammar of JSON is that of a document. Of a document, tagging wraps exactly the
texts and whole numbers behind keys spelled `value`, wherever they stand; untagging gives the text back
if no content behind such a key was wrapped before. -/
theorem tag_documents :
    (∀ (value : Value) (text : List Char), IsTextOf value text →
      ∃ document : Document, document.IsStrict ∧ document.chars = text) ∧
    ∀ document : Document, document.IsStrict →
      Scalar.tag document.chars = (document.rewrite Tree.tag?).chars ∧
      (HoldNoTags document.members → Scalar.untag (Scalar.tag document.chars) = document.chars) := by
  refine ⟨fun value text spelled => spelled.document, fun document strict => ?_⟩
  have tagged : Scalar.tag document.chars = (document.rewrite Tree.tag?).chars :=
    Document.substitute_chars Scalar.swaps_wrap strict
  refine ⟨tagged, fun bare => ?_⟩
  have whole : (document.rewrite Tree.tag?).IsStrict :=
    ⟨strict.before, Tree.rewrite_strict keepsStrict_tag strict.tree, strict.after⟩
  have back : (document.rewrite Tree.tag?).rewrite Tree.untag? = document := by
    rw [Document.rewrite, Document.rewrite, Tree.rewrite_back bare]
  rw [tagged, Scalar.untag, Document.substitute_chars Scalar.swaps_unwrap whole, back]

/-- A text with an escaped quote behind the key, and a level in an array next to the text `value`. -/
def Document.mixed : Document where
  tree :=
    .object
      (.more ⟨[], "value".toList, [' '], [' ']⟩ (.string ['a', '\\', '"']) []
        (.one ⟨[' '], "rest".toList, [], []⟩
          (.array
            (.more [] (.string "value".toList) [' ']
              (.one [] (.object (.one ⟨[], "value".toList, [], []⟩
                (.number { negative := true, whole := ['1', '0'] }) [])) [])))
          ['\n']))
  after := [' ']

theorem Document.mixed_strict : mixed.IsStrict := by
  have value : IsInside "value".toList := isInside_plain (by simp)
  have rest : IsInside "rest".toList := isInside_plain (by simp)
  have text : IsInside ['a', '\\', '"'] :=
    ⟨_, .raw (by decide) (by decide) (by decide) (@SpellsUnits.short '"' '"' _ _ (by decide) .nil)⟩
  have level : Decimal.IsStrict { negative := true, whole := ['1', '0'] } :=
    ⟨⟨by decide, by simp⟩, by decide, nofun, nofun⟩
  have bare : IsSpace [] := isSpace_nil
  have blank : IsSpace [' '] := by simp [IsSpace]
  have line : IsSpace ['\n'] := by simp [IsSpace]
  have entry : Tree.IsStrict (.object (.one ⟨[], "value".toList, [], []⟩
      (.number { negative := true, whole := ['1', '0'] }) [])) :=
    ⟨⟨bare, value, bare, bare⟩, level, bare⟩
  have list : Tree.IsStrict (.array (.more [] (.string "value".toList) [' '] (.one [] _ []))) :=
    ⟨bare, value, blank, bare, entry, bare⟩
  exact ⟨bare, ⟨⟨bare, value, blank, blank⟩, text, bare, ⟨blank, rest, bare, bare⟩, list, line⟩, blank⟩

theorem tag_documents_mixed : Document.mixed.IsStrict ∧ HoldNoTags Document.mixed.members ∧
    Scalar.tag Document.mixed.chars = ("\x7b\"value\" : \x7b\"String\":\"a\\\"\"\x7d, \"rest\":" ++
      "[\"value\" ,\x7b\"value\":\x7b\"Integer\":-10\x7d\x7d]\n\x7d ").toList ∧
    Scalar.untag (Scalar.tag Document.mixed.chars) = Document.mixed.chars := by
  have bare : HoldNoTags Document.mixed.members := by
    unfold HoldNoTags
    decide
  obtain ⟨tagged, back⟩ := tag_documents.2 Document.mixed Document.mixed_strict
  exact ⟨Document.mixed_strict, bare, tagged, back bare⟩

end Treegram.Json
