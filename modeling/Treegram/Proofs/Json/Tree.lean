import Treegram.Proofs.Json.RowTagging

/-!
Texts as trees. A tree keeps everything of a text that its structure leaves open: the space and the
spelling of its scalars. Every text in the grammar of JSON is that of a tree, and a substitution that
acts on the contents of members works its way through the text as it would through the tree.
-/

namespace Treegram.Json

/-- A key of a member, with the space in front of it, in front of its colon and behind that. -/
structure Key where
  before : List Char := []
  inside : List Char
  left : List Char := []
  right : List Char := []
  deriving DecidableEq

namespace Key

def chars (key : Key) : List Char := key.before ++ (quote key.inside ++ (key.left ++ ':' :: key.right))

structure IsStrict (key : Key) : Prop where
  before : IsSpace key.before
  inside : IsInside key.inside
  left : IsSpace key.left
  right : IsSpace key.right

/-- The key is spelled `value`. -/
def isValue (key : Key) : Bool := key.inside == ['v', 'a', 'l', 'u', 'e']

end Key

mutual

inductive Tree where
  | null
  | bool (value : Bool)
  | number (decimal : Decimal)
  | string (inside : List Char)
  | emptyArray (space : List Char)
  | array (items : Items)
  | emptyObject (space : List Char)
  | object (members : Members)

/-- Items with the space in front of each and behind it. -/
inductive Items where
  | one (before : List Char) (item : Tree) (after : List Char)
  | more (before : List Char) (item : Tree) (after : List Char) (rest : Items)

/-- Members with the space behind each. -/
inductive Members where
  | one (key : Key) (content : Tree) (after : List Char)
  | more (key : Key) (content : Tree) (after : List Char) (rest : Members)

end

mutual

def Tree.chars : Tree → List Char
  | .null => ['n', 'u', 'l', 'l']
  | .bool true => ['t', 'r', 'u', 'e']
  | .bool false => ['f', 'a', 'l', 's', 'e']
  | .number decimal => decimal.chars
  | .string inside => quote inside
  | .emptyArray space => '[' :: (space ++ [']'])
  | .array items => '[' :: (items.chars ++ [']'])
  | .emptyObject space => '\x7b' :: (space ++ ['\x7d'])
  | .object members => '\x7b' :: (members.chars ++ ['\x7d'])

def Items.chars : Items → List Char
  | .one before item after => before ++ (item.chars ++ after)
  | .more before item after rest => before ++ (item.chars ++ (after ++ ',' :: rest.chars))

def Members.chars : Members → List Char
  | .one key content after => key.chars ++ (content.chars ++ after)
  | .more key content after rest => key.chars ++ (content.chars ++ (after ++ ',' :: rest.chars))

end

mutual

/-- The space is space, and the scalars are spelled as the grammar of JSON has them. -/
def Tree.IsStrict : Tree → Prop
  | .null | .bool _ => True
  | .number decimal => decimal.IsStrict
  | .string inside => IsInside inside
  | .emptyArray space | .emptyObject space => IsSpace space
  | .array items => items.IsStrict
  | .object members => members.IsStrict

def Items.IsStrict : Items → Prop
  | .one before item after => IsSpace before ∧ item.IsStrict ∧ IsSpace after
  | .more before item after rest => IsSpace before ∧ item.IsStrict ∧ IsSpace after ∧ rest.IsStrict

def Members.IsStrict : Members → Prop
  | .one key content after => key.IsStrict ∧ content.IsStrict ∧ IsSpace after
  | .more key content after rest => key.IsStrict ∧ content.IsStrict ∧ IsSpace after ∧ rest.IsStrict

end

mutual

/-- The members of all objects in a tree. -/
def Tree.members : Tree → List (Key × Tree)
  | .array items => items.members
  | .object members => members.members
  | _ => []

def Items.members : Items → List (Key × Tree)
  | .one _ item _ => item.members
  | .more _ item _ rest => item.members ++ rest.members

def Members.members : Members → List (Key × Tree)
  | .one key content _ => (key, content) :: content.members
  | .more key content _ rest => (key, content) :: (content.members ++ rest.members)

end

section Rewrite
variable (change : Tree → Option Tree)

mutual

/-- The tree in which the contents behind keys spelled `value` are changed. In contents that are not
changed themselves, those of their members are. -/
def Tree.rewrite : Tree → Tree
  | .array items => .array items.rewrite
  | .object members => .object members.rewrite
  | other => other

def Items.rewrite : Items → Items
  | .one before item after => .one before item.rewrite after
  | .more before item after rest => .more before item.rewrite after rest.rewrite

def Members.rewrite : Members → Members
  | .one key content after =>
      .one key ((if key.isValue then change content else none).getD content.rewrite) after
  | .more key content after rest =>
      .more key ((if key.isValue then change content else none).getD content.rewrite) after rest.rewrite

end

end Rewrite

/-- A whole text, with the space around its value. -/
structure Document where
  before : List Char := []
  tree : Tree
  after : List Char := []

namespace Document

def chars (document : Document) : List Char :=
  document.before ++ (document.tree.chars ++ document.after)

structure IsStrict (document : Document) : Prop where
  before : IsSpace document.before
  tree : document.tree.IsStrict
  after : IsSpace document.after

def members (document : Document) : List (Key × Tree) := document.tree.members

def rewrite (change : Tree → Option Tree) (document : Document) : Document :=
  { document with tree := document.tree.rewrite change }

end Document

/-! ## Every text is that of a tree -/

mutual

theorem Spells.tree : ∀ {value : Value} {text : List Char}, Spells value text →
    ∃ tree : Tree, tree.IsStrict ∧ tree.chars = text
  | _, _, .null => ⟨.null, trivial, rfl⟩
  | _, _, .true => ⟨.bool true, trivial, rfl⟩
  | _, _, .false => ⟨.bool false, trivial, rfl⟩
  | _, _, .number strict => ⟨.number _, strict, rfl⟩
  | _, _, .string spelled => by
      obtain ⟨inside, strict, rfl⟩ := spelled.quote
      exact ⟨.string inside, strict, rfl⟩
  | _, _, .emptyArray blank => ⟨.emptyArray _, blank, rfl⟩
  | _, _, .array inside => by
      obtain ⟨items, strict, rfl⟩ := inside.items
      exact ⟨.array items, strict, rfl⟩
  | _, _, .emptyObject blank => ⟨.emptyObject _, blank, rfl⟩
  | _, _, .object inside => by
      obtain ⟨members, strict, rfl⟩ := inside.members
      exact ⟨.object members, strict, rfl⟩

theorem SpellsItems.items : ∀ {items : List Value} {text : List Char}, SpellsItems items text →
    ∃ tree : Items, tree.IsStrict ∧ tree.chars = text
  | _, _, .one front spelled back => by
      obtain ⟨item, strict, rfl⟩ := spelled.tree
      exact ⟨.one _ item _, ⟨front, strict, back⟩, by simp [Items.chars]⟩
  | _, _, .more front spelled back behind => by
      obtain ⟨item, strict, rfl⟩ := spelled.tree
      obtain ⟨rest, others, rfl⟩ := behind.items
      exact ⟨.more _ item _ rest, ⟨front, strict, back, others⟩, by simp [Items.chars]⟩

theorem SpellsMembers.members : ∀ {members : List (String × Value)} {text : List Char},
    SpellsMembers members text → ∃ tree : Members, tree.IsStrict ∧ tree.chars = text
  | _, _, .one front named left right spelled back => by
      obtain ⟨inside, key, rfl⟩ := named.quote
      obtain ⟨content, strict, rfl⟩ := spelled.tree
      exact ⟨.one ⟨_, inside, _, _⟩ content _, ⟨⟨front, key, left, right⟩, strict, back⟩,
        by simp [Members.chars, Key.chars]⟩
  | _, _, .more front named left right spelled back behind => by
      obtain ⟨inside, key, rfl⟩ := named.quote
      obtain ⟨content, strict, rfl⟩ := spelled.tree
      obtain ⟨rest, others, rfl⟩ := behind.members
      exact ⟨.more ⟨_, inside, _, _⟩ content _ rest, ⟨⟨front, key, left, right⟩, strict, back, others⟩,
        by simp [Members.chars, Key.chars]⟩

end

theorem IsTextOf.document {value : Value} {text : List Char} (spelled : IsTextOf value text) :
    ∃ document : Document, document.IsStrict ∧ document.chars = text := by
  obtain ⟨before, inside, after, front, spelled, back, rfl⟩ := spelled
  obtain ⟨tree, strict, rfl⟩ := spelled.tree
  exact ⟨⟨before, tree, after⟩, ⟨front, strict, back⟩, by simp [Document.chars]⟩

/-! ## What stands before and behind -/

/-- Behind a value there is space and then nothing, or a mark between values. -/
def Follows (rest : List Char) : Prop :=
  ∃ space behind, IsSpace space ∧ EndsValue behind ∧ rest = space ++ behind

theorem follows_space {space behind : List Char} (blank : IsSpace space) (ends : EndsValue behind) :
    Follows (space ++ behind) :=
  ⟨space, behind, blank, ends, rfl⟩

theorem EndsValue.head {behind : List Char} (ends : EndsValue behind) :
    ∀ c ∈ behind.head?, Scalar.isBlank c = false ∧ c ≠ ':' := by
  rintro c here
  rcases ends with rfl | ⟨mark, rest, rfl, rfl | rfl | rfl⟩
  · cases here
  all_goals
    obtain rfl := Option.some.inj here
    decide

theorem Follows.noContent {rest : List Char} (follows : Follows rest) :
    Scalar.toContent? rest = none := by
  obtain ⟨space, behind, blank, ends, rfl⟩ := follows
  exact Scalar.toContent_none blank ends.head

theorem Follows.endsNumber {rest : List Char} (follows : Follows rest) : EndsNumber rest := by
  obtain ⟨space, behind, blank, ends, rfl⟩ := follows
  refine ends_space blank ?_
  rcases ends with rfl | ⟨mark, rest, rfl, rfl | rfl | rfl⟩
  · exact ends_nil
  all_goals
    intro c here
    obtain rfl := Option.some.inj here
    decide

/-- A tree begins with what is neither space nor a colon. -/
theorem Tree.head_chars {tree : Tree} (strict : tree.IsStrict) (rest : List Char) :
    ∀ c ∈ (tree.chars ++ rest).head?, Scalar.isBlank c = false ∧ c ≠ ':' := by
  cases tree with
  | null => exact @Lexeme.head_chars .null trivial rest
  | bool value =>
      cases value with
      | true => exact @Lexeme.head_chars (.bool true) trivial rest
      | false => exact @Lexeme.head_chars (.bool false) trivial rest
  | number decimal => exact @Lexeme.head_chars (.number decimal) strict rest
  | string inside => exact @Lexeme.head_chars (.string inside) strict rest
  | emptyArray | array | emptyObject | object =>
      intro c here
      obtain rfl := Option.some.inj here
      decide

/-! ## Substitution -/

namespace Scalar
variable {swap : Swap} {change : Tree → Option Tree}

theorem substitute_space {space : List Char} (blank : IsSpace space) (rest : List Char) :
    substitute swap (space ++ rest) = space ++ substitute swap rest :=
  substitute_text (IsSpace.plain blank) rest

theorem substitute_enclosed {opening closing : Char} (left : opening ≠ '"') (right : closing ≠ '"')
    {before after rest : List Char}
    (inside : substitute swap (before ++ closing :: rest) = after ++ substitute swap (closing :: rest)) :
    substitute swap (opening :: (before ++ [closing]) ++ rest) =
      opening :: (after ++ [closing]) ++ substitute swap rest := by
  simp only [List.cons_append, List.append_assoc, List.nil_append]
  rw [substitute_plain left, inside, substitute_plain right]

/-- What the swap does to the text of a tree is what the change does to the tree. -/
def Swaps (swap : Swap) (change : Tree → Option Tree) : Prop :=
  ∀ tree : Tree, tree.IsStrict → ∀ rest, Follows rest →
    swap (tree.chars ++ rest) = (change tree).map fun new => (tree.chars.length, new.chars)

/-- A key hands what is behind it over, or to the swap if it is spelled `value`. -/
theorem substitute_key {key : Key} (strict : key.IsStrict) {content : List Char}
    (head : ∀ c ∈ content.head?, isBlank c = false ∧ c ≠ ':') :
    substitute swap (key.chars ++ content) = key.chars ++
      match (if key.isValue then swap content else none) with
      | none => substitute swap content
      | some (size, new) => new ++ substitute swap (content.drop size) := by
  obtain ⟨before, inside, left, right⟩ := strict
  simp only [Key.chars, List.append_assoc]
  rw [substitute_space before]
  congr 1
  -- Any other key is passed over like a quoted text, with its colon.
  cases own : key.isValue with
  | true =>
      have name : quote key.inside = valueKey := by
        rw [Key.isValue, beq_iff_eq] at own
        rw [own]
        rfl
      have reached : toContent? ((key.left ++ ':' :: key.right) ++ content) =
          some (key.left ++ ':' :: key.right).length := by
        rw [List.append_assoc, List.cons_append, toContent_key left,
          blanks_space right fun c here => (head c here).1, List.length_append, List.length_cons]
        congr 1
        omega
      have member := substitute_member swap reached
      rw [name, if_pos rfl]
      simp only [List.append_assoc, List.cons_append] at member ⊢
      exact member
  | false =>
      have other : '"' :: (key.inside ++ ['"']) ≠ valueKey := by
        intro same
        have named : key.inside = ['v', 'a', 'l', 'u', 'e'] :=
          List.append_cancel_right (List.cons.inj same).2
        rw [Key.isValue, named] at own
        cases own
      have plain : substitute swap (key.left ++ (':' :: key.right ++ content)) =
          key.left ++ (':' :: key.right ++ substitute swap content) := by
        rw [substitute_space left, List.cons_append, substitute_plain (by decide),
          substitute_space right, List.cons_append]
      have kept := substitute_quoted swap
        (closing_quote inside (key.left ++ (':' :: key.right ++ content))) (.inl other)
      rw [plain] at kept
      simpa [quote] using kept

/-- A content is changed behind a key spelled `value`; elsewhere, what is in it is. -/
theorem substitute_content (swaps : Swaps swap change) {key : Key} (own : key.IsStrict)
    {content : Tree} (strict : content.IsStrict) {rest : List Char} (follows : Follows rest)
    (inside : substitute swap (content.chars ++ rest) =
      (content.rewrite change).chars ++ substitute swap rest) :
    substitute swap (key.chars ++ (content.chars ++ rest)) =
      key.chars ++ (((if key.isValue then change content else none).getD
        (content.rewrite change)).chars ++ substitute swap rest) := by
  -- Where nothing is changed the scan goes on in front of the content, and `inside` says what it finds.
  rw [substitute_key own (Tree.head_chars strict rest), swaps content strict rest follows]
  congr 1
  cases key.isValue with
  | false => exact inside
  | true =>
      cases change content with
      | none => exact inside
      | some new => simp

end Scalar

section Substitute
variable {swap : Scalar.Swap} {change : Tree → Option Tree}

mutual

/-- A substitution works its way through the text of a tree as the change does through the tree. -/
theorem Tree.substitute_chars (swaps : Scalar.Swaps swap change) : ∀ {tree : Tree}, tree.IsStrict →
    ∀ {rest : List Char}, Follows rest → Scalar.substitute swap (tree.chars ++ rest) =
      (tree.rewrite change).chars ++ Scalar.substitute swap rest
  | .null, _, rest, _ => Scalar.substitute_text (by simp [Tree.chars]) rest
  | .bool true, _, rest, _ => Scalar.substitute_text (by simp [Tree.chars]) rest
  | .bool false, _, rest, _ => Scalar.substitute_text (by simp [Tree.chars]) rest
  | .number _, strict, rest, _ => Scalar.substitute_text (Decimal.IsStrict.plain strict) rest
  | .string _, strict, rest, follows =>
      Scalar.substitute_quoted swap (Scalar.closing_quote strict rest) (.inr follows.noContent)
  | .emptyArray _, blank, _, _ =>
      Scalar.substitute_enclosed (by decide) (by decide) (Scalar.substitute_space blank _)
  | .array _, strict, rest, _ =>
      Scalar.substitute_enclosed (by decide) (by decide)
        (Items.substitute_chars swaps strict (ends_mark rest (Or.inr (Or.inl rfl))))
  | .emptyObject _, blank, _, _ =>
      Scalar.substitute_enclosed (by decide) (by decide) (Scalar.substitute_space blank _)
  | .object _, strict, rest, _ =>
      Scalar.substitute_enclosed (by decide) (by decide)
        (Members.substitute_chars swaps strict (ends_mark rest (Or.inr (Or.inr rfl))))

theorem Items.substitute_chars (swaps : Scalar.Swaps swap change) : ∀ {items : Items}, items.IsStrict →
    ∀ {rest : List Char}, EndsValue rest → Scalar.substitute swap (items.chars ++ rest) =
      (items.rewrite change).chars ++ Scalar.substitute swap rest
  | .one before item after, ⟨front, strict, back⟩, rest, ends => by
      have inside := Tree.substitute_chars swaps strict (follows_space back ends)
      simp only [Items.rewrite, Items.chars, List.append_assoc]
      rw [Scalar.substitute_space front, inside, Scalar.substitute_space back]
  | .more before item after others, ⟨front, strict, back, behind⟩, rest, ends => by
      have inside := Tree.substitute_chars swaps strict
        (follows_space back (ends_mark (others.chars ++ rest) (Or.inl rfl)))
      have remaining := Items.substitute_chars swaps behind ends
      simp only [Items.rewrite, Items.chars, List.append_assoc, List.cons_append]
      rw [Scalar.substitute_space front, inside, Scalar.substitute_space back,
        Scalar.substitute_plain (by decide), remaining]

theorem Members.substitute_chars (swaps : Scalar.Swaps swap change) : ∀ {members : Members},
    members.IsStrict → ∀ {rest : List Char}, EndsValue rest →
    Scalar.substitute swap (members.chars ++ rest) =
      (members.rewrite change).chars ++ Scalar.substitute swap rest
  | .one key content after, ⟨own, strict, back⟩, rest, ends => by
      have follows := follows_space back ends
      have inside := Tree.substitute_chars swaps strict follows
      simp only [Members.rewrite, Members.chars, List.append_assoc]
      rw [Scalar.substitute_content swaps own strict follows inside, Scalar.substitute_space back]
  | .more key content after others, ⟨own, strict, back, behind⟩, rest, ends => by
      have follows := follows_space back (ends_mark (others.chars ++ rest) (Or.inl rfl))
      have inside := Tree.substitute_chars swaps strict follows
      have remaining := Members.substitute_chars swaps behind ends
      simp only [Members.rewrite, Members.chars, List.append_assoc, List.cons_append]
      rw [Scalar.substitute_content swaps own strict follows inside, Scalar.substitute_space back,
        Scalar.substitute_plain (by decide), remaining]

end

theorem Document.substitute_chars (swaps : Scalar.Swaps swap change) {document : Document}
    (strict : document.IsStrict) : Scalar.substitute swap document.chars =
      (document.rewrite change).chars := by
  have follows : Follows (document.after ++ []) := follows_space strict.after (Or.inl rfl)
  have inside := Tree.substitute_chars swaps strict.tree follows
  rw [Scalar.substitute_space strict.after, Scalar.substitute_nil, List.append_nil] at inside
  rw [Document.chars, Scalar.substitute_space strict.before, inside]
  rfl

end Substitute

end Treegram.Json
