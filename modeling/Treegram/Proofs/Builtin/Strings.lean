import Treegram.Proofs.Builtin.Lexing
import Treegram.Proofs.Language.InlineTokens
import Treegram.Proofs.Language.RuleSymbols

/-!
String literals of the built-in language. They are quotes around a body of plain characters and escapes,
whose end is told by the body itself. Of all tokens only that of string literals takes more than the
quote of a text that begins with one, so it is found in front of each literal and nowhere else.
-/

namespace Treegram

open scoped Computability

namespace Builtin

open Pattern (CharSet Expr Term)

/-! ## String literals -/

/-- A letter up to `f`, small or large, or a decimal digit. -/
def IsHexDigit (c : Char) : Prop :=
  'a' ≤ c ∧ c ≤ 'f' ∨ 'A' ≤ c ∧ c ≤ 'F' ∨ (Pattern.Shorthand.unicodeSet .digit).has c.toNat = true

/-- What may stand behind a backslash. -/
inductive IsEscape : List Char → Prop where
  | single {c : Char} (quotable : c ∈ ['\\', '"', '\'', 'r', 'n', 't', '\n']) : IsEscape [c]
  | short {digits : List Char} (length : digits.length = 2) (all : ∀ c ∈ digits, IsHexDigit c) :
      IsEscape ('x' :: digits)
  | long {digits : List Char} (length : digits.length = 4) (all : ∀ c ∈ digits, IsHexDigit c) :
      IsEscape ('u' :: digits)

/-- A character that stands for itself, or an escape. -/
inductive IsItem : List Char → Prop where
  | plain {c : Char} (other : c ∉ ['\\', '"', '\n']) : IsItem [c]
  | escaped {escape : List Char} (made : IsEscape escape) : IsItem ('\\' :: escape)

/-- What stands between the quotes: items one behind the other. -/
def IsBody (body : List Char) : Prop :=
  ∃ items : List (List Char), (∀ item ∈ items, IsItem item) ∧ body = items.flatten

/-! ### Where a literal ends -/

/-- The first character of an escape tells how many follow it. -/
def escapeLength (c : Char) : Nat := if c = 'x' then 2 else if c = 'u' then 4 else 0

theorem IsEscape.shape {escape : List Char} (made : IsEscape escape) :
    ∃ c rest, escape = c :: rest ∧ rest.length = escapeLength c := by
  cases made with
  | @single c quotable =>
      have none : ∀ c ∈ ['\\', '"', '\'', 'r', 'n', 't', '\n'], escapeLength c = 0 := by
        simp [escapeLength]
      exact ⟨c, [], rfl, (none c quotable).symm⟩
  | short length => exact ⟨'x', _, rfl, length⟩
  | long length => exact ⟨'u', _, rfl, length⟩

theorem IsEscape.unique {first second rest others : List Char} (made : IsEscape first)
    (other : IsEscape second) (same : first ++ rest = second ++ others) :
    first = second ∧ rest = others := by
  obtain ⟨c, digits, rfl, length⟩ := made.shape
  obtain ⟨d, digits', rfl, length'⟩ := other.shape
  obtain ⟨rfl, behind⟩ := List.cons.inj same
  obtain ⟨rfl, rests⟩ := List.append_inj behind (length.trans length'.symm)
  exact ⟨rfl, rests⟩

theorem IsItem.unique {first second rest others : List Char} (made : IsItem first)
    (other : IsItem second) (same : first ++ rest = second ++ others) :
    first = second ∧ rest = others := by
  cases made with
  | plain free =>
      cases other with
      | plain => simpa using same
      | escaped =>
          obtain ⟨rfl, _⟩ := List.cons.inj same
          simp at free
  | escaped escape =>
      cases other with
      | plain free =>
          obtain ⟨rfl, _⟩ := List.cons.inj same
          simp at free
      | escaped escape' =>
          obtain ⟨rfl, rests⟩ := escape.unique escape' (List.cons.inj same).2
          exact ⟨rfl, rests⟩

theorem IsItem.head {item : List Char} (made : IsItem item) :
    ∃ c rest, item = c :: rest ∧ c ≠ '"' := by
  cases made with
  | @plain c other => exact ⟨c, [], rfl, fun quote => other (by simp [quote])⟩
  | escaped => exact ⟨'\\', _, rfl, by decide⟩

theorem IsBody.unique {body other rest others : List Char} (made : IsBody body) (made' : IsBody other)
    (same : body ++ '"' :: rest = other ++ '"' :: others) : body = other ∧ rest = others := by
  obtain ⟨items, all, rfl⟩ := made
  obtain ⟨items', all', rfl⟩ := made'
  induction items generalizing items' with
  | nil =>
      cases items' with
      | nil => simpa using same
      | cons item _ =>
          obtain ⟨c, _, rfl, solid⟩ := (all' item List.mem_cons_self).head
          exact absurd (List.cons.inj same).1.symm solid
  | cons item items ih =>
      cases items' with
      | nil =>
          obtain ⟨c, _, rfl, solid⟩ := (all item List.mem_cons_self).head
          exact absurd (List.cons.inj same).1 solid
      | cons item' items' =>
          rw [List.flatten_cons, List.flatten_cons, List.append_assoc, List.append_assoc] at same
          obtain ⟨rfl, behind⟩ :=
            (all item List.mem_cons_self).unique (all' item' List.mem_cons_self) same
          obtain ⟨bodies, rests⟩ := ih (fun _ held => all _ (List.mem_cons_of_mem _ held)) items'
            (fun _ held => all' _ (List.mem_cons_of_mem _ held)) behind
          exact ⟨by rw [List.flatten_cons, List.flatten_cons, bodies], rests⟩

/-! ### The pattern -/

def hexSet : CharSet :=
  .union (.union (.union (.ranges []) (.ranges [(0x61, 0x66)])) (.ranges [(0x41, 0x46)]))
    (Pattern.Shorthand.unicodeSet .digit)

/-- Exactly so many digits. -/
def hexExpr (count : Nat) : Expr := .times (.chars hexSet) count (some count)

def escapeExpr : Expr :=
  .choice [.chars (.among ['\\', '"', '\'', 'r', 'n', 't']),
    .sequence [.chars (.one 'x'), hexExpr 2], .sequence [.chars (.one 'u'), hexExpr 4],
    .chars (.one '\n')]

def plainSet : CharSet := .complement (.among ['\\', '"', '\n'])

def stringExpr : Expr :=
  .sequence [.chars (.one '"'),
    .times (.choice [.sequence [.chars (.one '\\'), escapeExpr], .times (.chars plainSet) 1 none])
      0 none,
    .chars (.one '"')]

theorem hexSet_has {c : Char} : hexSet.has c.toNat = true ↔ IsHexDigit c := by
  have small : 'a' ≤ c ∧ c ≤ 'f' ↔ 0x61 ≤ c.toNat ∧ c.toNat ≤ 0x66 := Iff.rfl
  have large : 'A' ≤ c ∧ c ≤ 'F' ↔ 0x41 ≤ c.toNat ∧ c.toNat ≤ 0x46 := Iff.rfl
  have range (first last : Nat) : CharSet.has (.ranges [(first, last)]) c.toNat = true ↔
      first ≤ c.toNat ∧ c.toNat ≤ last := by
    simp only [CharSet.has, Unicode.Ranges.has, Bool.or_false]
    split <;> simp <;> omega
  rw [IsHexDigit, small, large, ← range, ← range, hexSet]
  simp only [CharSet.has, Bool.or_eq_true, or_assoc]
  simp [Unicode.Ranges.has]

theorem mem_hexExpr {count : Nat} (positive : 0 < count) {text : List Char} :
    text ∈ (hexExpr count).texts ↔ text.length = count ∧ ∀ c ∈ text, IsHexDigit c := by
  rw [hexExpr, Expr.texts_times_exactly _ positive, Expr.mem_chars_pow]
  simp only [hexSet_has]

theorem mem_escapeExpr {text : List Char} : text ∈ escapeExpr.texts ↔ IsEscape text := by
  have short := fun text => @mem_hexExpr 2 (by decide) text
  have long := fun text => @mem_hexExpr 4 (by decide) text
  rw [escapeExpr, Expr.texts_choice]
  simp only [List.map_cons, List.map_nil, List.sum_cons, List.sum_nil, add_zero, Language.mem_add,
    Expr.texts_sequence, List.prod_cons, List.prod_nil, mul_one, Expr.mem_one_mul, short, long]
  constructor
  · rintro (⟨c, held, rfl⟩ | ⟨digits, ⟨length, all⟩, rfl⟩ | ⟨digits, ⟨length, all⟩, rfl⟩ |
      ⟨c, held, rfl⟩)
    · exact .single (List.mem_append_left ['\n'] (CharSet.has_among.mp held))
    · exact .short length all
    · exact .long length all
    · obtain rfl := CharSet.has_one.mp held
      exact .single (by decide)
  · intro made
    cases made with
    | @single c quotable =>
        rcases List.mem_append.mp (show c ∈ ['\\', '"', '\'', 'r', 'n', 't'] ++ ['\n'] from quotable)
          with letter | line
        · exact .inl ⟨c, CharSet.has_among.mpr letter, rfl⟩
        · exact .inr (.inr (.inr ⟨c, CharSet.has_one.mpr (List.mem_singleton.mp line), rfl⟩))
    | short length all => exact .inr (.inl ⟨_, ⟨length, all⟩, rfl⟩)
    | long length all => exact .inr (.inr (.inl ⟨_, ⟨length, all⟩, rfl⟩))

theorem plainSet_has {c : Char} : plainSet.has c.toNat = true ↔ c ∉ ['\\', '"', '\n'] := by
  rw [plainSet, CharSet.has, Bool.not_eq_true', ← Bool.not_eq_true, CharSet.has_among]

/-- The items as a set of texts. -/
def itemTexts : TextSet := {item | IsItem item}

theorem texts_items :
    (Expr.sequence [.chars (.one '\\'), escapeExpr]).texts + (Expr.chars plainSet).texts =
      itemTexts := by
  ext item
  rw [Language.mem_add, Expr.texts_sequence, List.map_cons, List.map_cons, List.map_nil,
    List.prod_cons, List.prod_cons, List.prod_nil, mul_one, Expr.mem_one_mul]
  constructor
  · rintro (⟨escape, inside, rfl⟩ | ⟨c, held, rfl⟩)
    · exact .escaped (mem_escapeExpr.mp inside)
    · exact .plain (plainSet_has.mp held)
  · intro made
    cases made with
    | @plain c other => exact .inr ⟨c, plainSet_has.mpr other, rfl⟩
    | escaped made => exact .inl ⟨_, mem_escapeExpr.mpr made, rfl⟩

/-- Plain characters are taken as many at a time as there are, which makes the same bodies. -/
theorem mem_stringExpr {text : List Char} :
    text ∈ stringExpr.texts ↔ ∃ body, IsBody body ∧ text = '"' :: (body ++ ['"']) := by
  have inner : (Expr.times (.choice [.sequence [.chars (.one '\\'), escapeExpr],
      .times (.chars plainSet) 1 none]) 0 none).texts = itemTexts∗ := by
    rw [Expr.texts_star, Expr.texts_choice, List.map_cons, List.map_cons, List.map_nil, List.sum_cons,
      List.sum_cons, List.sum_nil, add_zero, Expr.texts_plus, TextSet.kstar_add_many1, texts_items]
  rw [stringExpr, Expr.texts_sequence, List.map_cons, List.map_cons, List.map_cons, List.map_nil,
    List.prod_cons, List.prod_cons, List.prod_cons, List.prod_nil, mul_one, inner, Expr.mem_one_mul]
  constructor
  · rintro ⟨_, ⟨body, inside, _, ⟨c, held, rfl⟩, rfl⟩, rfl⟩
    obtain rfl := CharSet.has_one.mp held
    obtain ⟨items, rfl, all⟩ := Language.mem_kstar.mp inside
    exact ⟨_, ⟨items, all, rfl⟩, rfl⟩
  · rintro ⟨_, ⟨items, all, rfl⟩, rfl⟩
    refine ⟨_, ⟨_, Language.mem_kstar.mpr ⟨items, rfl, all⟩, _, ⟨'"', ?_, rfl⟩, rfl⟩, rfl⟩
    exact CharSet.has_one.mpr rfl

theorem stringExpr_plain : stringExpr.term.asserts = false := by
  decide +kernel

/-- A string literal with this body. -/
def quoted (body : List Char) : List Char := '"' :: (body ++ ['"'])

theorem quoted_append (body rest : List Char) :
    quoted body ++ rest = '"' :: (body ++ '"' :: rest) := by
  simp [quoted]

theorem byteLength_quoted (body : List Char) : byteLength (quoted body) = byteLength body + 2 := by
  have length : byteLength (quoted body) = 1 + byteLength (body ++ ['"']) := rfl
  have last : byteLength ['"'] = 1 := rfl
  rw [length, byteLength_append, last]
  omega

theorem string_taken {text : List Char} {length : Nat}
    (matched : stringExpr.term.longest? text = some length) :
    ∃ body rest, IsBody body ∧ text = quoted body ++ rest ∧ length = byteLength (quoted body) := by
  have answers := Term.longest?_exact stringExpr_plain text
  rw [matched] at answers
  obtain ⟨front, _, ⟨⟨rest, fits⟩, member, _⟩, length⟩ := answers
  obtain ⟨body, made, rfl⟩ := mem_stringExpr.mp member
  exact ⟨body, rest, made, fits.symm, length⟩

/-- The pattern takes the literal that a text begins with. No other one stands there, as a body tells
its own end. -/
theorem string_longest {body : List Char} (made : IsBody body) (rest : List Char) :
    stringExpr.term.longest? (quoted body ++ rest) = some (byteLength (quoted body)) := by
  have member : quoted body ∈ stringExpr.term.texts := mem_stringExpr.mpr ⟨body, made, rfl⟩
  cases matched : stringExpr.term.longest? (quoted body ++ rest) with
  | none =>
      have answers := Term.longest?_exact stringExpr_plain (quoted body ++ rest)
      rw [matched] at answers
      exact absurd (answers _ (List.prefix_append _ _) member) (List.cons_ne_nil _ _)
  | some length =>
      obtain ⟨body', rest', made', same, rfl⟩ := string_taken matched
      rw [quoted_append, quoted_append] at same
      obtain ⟨rfl, _⟩ := made.unique made' (List.cons.inj same).2
      rfl

/-! ## The token -/

/-- What the rule for string literals makes a token of. -/
def stringBody : Rule :=
  .seq [.string "\"", .many (.choice [escaped [.string "\n"], .pattern "[^\\\\\"\\n]+"]), .string "\""]

def stringSource : String :=
  "\"(?:(?:\\\\(?:(?:[\\\\\"'rnt])|(?:x[a-fA-F\\d]{2})|(?:u[a-fA-F\\d]{4})|\n)|(?:[^\\\\\"\\n]+)))*\""

theorem string_source : stringBody.tokenSource = .ok stringSource := by
  decide +kernel

theorem string_read :
    Pattern.Piece.read? stringSource.toList = some { expr := stringExpr, depth := 13 } :=
  rfl

/-- Whether no text that begins with `c` has a match at its front. -/
def avoids (c : Char) (body : Rule) : Bool :=
  match body.stringText? with
  | some text => text.toList.head? != some c
  | none =>
      match body.tokenSource with
      | .error _ => true
      | .ok source =>
          (Pattern.Piece.read? source.toList).all fun piece =>
            !piece.expr.term.asserts && (piece.expr.term.enter none c).1.isIdle

theorem length?_of_avoids {place : String} {body : Rule} {c : Char} (avoided : avoids c body = true)
    {matcher : Matcher} (made : tokenMatcher .standard place body = .ok matcher) (rest : List Char) :
    matcher.length? (c :: rest) = none := by
  rw [avoids] at avoided
  rcases TokenUse.of_tokenMatcher made with ⟨text, literal, rfl⟩ | ⟨other, source, _, translated, rfl⟩
  · simp only [literal, bne_iff_ne, ne_eq] at avoided
    rw [Matcher.length?, if_neg]
    rintro ⟨solid, front⟩
    obtain ⟨d, behind, shape⟩ := List.exists_cons_of_ne_nil solid
    rw [shape] at front avoided
    obtain ⟨rfl, _⟩ := List.cons_prefix_cons.mp (List.isPrefixOf_iff_prefix.mp front)
    exact avoided rfl
  · obtain ⟨piece, read, _, same⟩ := (tokenMatcher_pattern other translated).mp made
    obtain ⟨_, rfl⟩ := Matcher.pattern.inj same
    simp only [other, translated, read, Option.all_some, Bool.and_eq_true, Bool.not_eq_true'] at avoided
    exact Term.longest?_of_idle avoided.1 avoided.2 rest

/-- All tokens but two have no match that begins with a quote. -/
theorem others_avoid : ∀ use ∈ base.listedUses entries,
    use.ruleName? = some "str_lit" ∨ use.body = solidPattern ∨ avoids '"' use.body = true := by
  decide +kernel

theorem string_used : .rule "str_lit" stringBody false ∈ base.listedUses entries := by
  have uses : literals[4]?.map Grammar.ruleUses = some [.rule "str_lit" stringBody false] := rfl
  obtain ⟨entry, here, uses⟩ := Option.map_eq_some_iff.mp uses
  have held : entry ∈ words := by
    have literal := List.mem_of_getElem? here
    simp only [words, List.mem_append]
    tauto
  refine List.mem_append_left _ (List.mem_flatMap.mpr ⟨entry, List.mem_append_right _ held, ?_⟩)
  rw [uses]
  exact List.mem_singleton_self _

theorem string_undeclared : ∀ external ∈ (base.withRules entries).externalRules,
    external.kind = .symbol → external.name ≠ some "str_lit" := by
  have undeclared : ∀ external ∈ base.externalRules, external.kind = .symbol →
      external.name ≠ some "str_lit" := by decide +kernel
  have same (grammar : Grammar) (pairs : Entries) :
      (grammar.withRules pairs).externalRules = grammar.externalRules := rfl
  rw [same]
  exact undeclared

theorem solid_length {rest : List Char} {length : Nat}
    (matched : (Term.chars solidSet).longest? ('"' :: rest) = some length) : length = 1 := by
  have answers := @Term.longest?_exact (.chars solidSet) rfl ('"' :: rest)
  rw [matched] at answers
  obtain ⟨_, _, ⟨fits, ⟨c, _, rfl⟩, _⟩, rfl⟩ := answers
  obtain ⟨rfl, _⟩ := List.cons_prefix_cons.mp fits
  rfl

/-- What another token takes of a text that begins with a quote is the quote. -/
theorem other_length {use : TokenUse} (listed : use ∈ base.listedUses entries)
    (other : use.ruleName? ≠ some "str_lit") {place : String} {matcher : Matcher}
    (made : tokenMatcher .standard place use.body = .ok matcher) {rest : List Char} {length : Nat}
    (matched : matcher.length? ('"' :: rest) = some length) : length = 1 := by
  rcases others_avoid use listed with named | solid | avoided
  · exact absurd named other
  · rw [solid] at made
    rw [tokenMatcher_read rfl rfl solid_read made] at matched
    exact solid_length matched
  · rw [length?_of_avoids avoided made rest] at matched
    cases matched

/-- The symbol of string literals has one matcher, and no other token takes more than the quote of a
text that begins with one. -/
structure HasStrings (loaded : Language) (id : Nat) : Prop where
  symbol : loaded.symbol? id = some (.ofRule "str_lit" .terminal)
  own : ∃ token ∈ loaded.tokens.toList, token.symbol = id
  matcher : ∀ token ∈ loaded.tokens.toList, token.symbol = id →
    token.matcher = .pattern stringSource stringExpr.term
  others : ∀ token ∈ loaded.tokens.toList, token.symbol ≠ id → ∀ rest length,
    token.matcher.length? ('"' :: rest) = some length → length = 1
  found : loaded.symbolId? "str_lit" true = some id

theorem loaded_hasStrings {loaded : Language}
    (done : (Language.load {} (base.withRules entries)).1 = .ok loaded) :
    ∃ id, HasStrings loaded id := by
  obtain ⟨start, holds, _⟩ := Language.load_hasTokens done
  have perm : ((base.withRules entries).tokenUses start).Perm (base.listedUses entries) :=
    Grammar.tokenUses_perm entries_distinct start
  obtain ⟨first, introduced, same | ⟨_, known, _⟩⟩ :=
    TokenUse.exists_introduced (perm.mem_iff.mpr string_used)
  case inr => cases known
  subst same
  obtain ⟨index, here⟩ := List.mem_iff_getElem?.mp introduced
  have symbol := holds.symbols index _ here
  have numbered : loaded.NumbersRule (index + 1) "str_lit" := ⟨_, symbol, rfl, rfl, .inl rfl⟩
  obtain ⟨found, only⟩ := Language.load_ruleId done numbered (by decide) string_undeclared
  refine ⟨index + 1, symbol, ?own, ?matcher, ?others, found⟩
  case own =>
    obtain ⟨token, held, numbered, _⟩ := holds.made index _ here
    exact ⟨token, held, numbered⟩
  case matcher =>
    intro token held numbered
    obtain ⟨place, use, there, numbered', made⟩ := holds.used token held
    obtain rfl : place = index := by omega
    obtain rfl := Option.some.inj (there.symm.trans here)
    exact tokenMatcher_read rfl string_source string_read made.matcher
  case others =>
    intro token held other rest length matched
    obtain ⟨place, use, there, numbered, made⟩ := holds.used token held
    have listed := perm.mem_iff.mp (TokenUse.mem_of_introduced (List.mem_of_getElem? there))
    refine other_length listed (fun named => other (only token.symbol ?_)) made.matcher matched
    -- A second use by the rule would have its number.
    cases use with
    | rule name body immediate =>
        obtain rfl := Option.some.inj named
        refine ⟨.ofRule "str_lit" .terminal, ?_, rfl, rfl, .inl rfl⟩
        rw [numbered]
        exact holds.symbols place _ there
    | inside => cases named

/-- In front of a literal no token takes as much as the one for literals. -/
theorem HasStrings.lexed {loaded : Language} {id : Nat} (strings : HasStrings loaded id)
    {body : List Char} (made : IsBody body) (rest : List Char) :
    loaded.lex? (quoted body ++ rest) = some ⟨id, byteLength (quoted body)⟩ := by
  obtain ⟨token, held, rfl⟩ := strings.own
  have whole (other : Token) (matcher : other.matcher = .pattern stringSource stringExpr.term) :
      other.matcher.length? (quoted body ++ rest) = some (byteLength (quoted body)) := by
    rw [matcher]
    exact string_longest made rest
  have own := whole token (strings.matcher token held rfl)
  refine Language.lex?_of_longest held own fun other among more matched long => ?_
  -- Another token takes no more than the quote in front, and a literal has two quotes.
  by_cases numbered : other.symbol = token.symbol
  · have longest := whole other (strings.matcher other among numbered)
    exact ⟨numbered, Option.some.inj (matched.symm.trans longest)⟩
  · rw [byteLength_quoted] at long
    have one := strings.others other among numbered _ more matched
    omega

/-- The symbol of string literals is found just in front of string literals, and takes all of the
literal whatever follows. Where the literal ends is not left open: its body is the only one. -/
theorem lex_strings : ∃ language id, Builtin.language.1 = .ok language
    ∧ language.symbolId? "str_lit" true = some id ∧ language.symbolName? id = some "str_lit"
    ∧ (∀ text, (∃ found, language.lex? text = some found ∧ found.symbol = id) ↔
        ∃ body rest, IsBody body ∧ text = '"' :: (body ++ '"' :: rest))
    ∧ ∀ body rest, IsBody body →
      language.lex? ('"' :: (body ++ '"' :: rest)) = some ⟨id, byteLength ('"' :: (body ++ ['"']))⟩
        ∧ ∀ other others, IsBody other → body ++ '"' :: rest = other ++ '"' :: others →
          body = other ∧ rest = others := by
  obtain ⟨loaded, done, same⟩ := language_loads
  obtain ⟨id, strings⟩ := loaded_hasStrings done
  refine ⟨loaded.withScanner {}, id, same, strings.found, ?_, fun text => ⟨?_, ?_⟩, ?_⟩
  · change loaded.symbolName? id = _
    rw [Language.symbolName?, strings.symbol]
    rfl
  · rintro ⟨found, read, rfl⟩
    have read : loaded.lex? text = some found := read
    obtain ⟨token, held, matched, symbol⟩ := Language.lex?_token read
    rw [strings.matcher token held symbol.symm] at matched
    obtain ⟨body, rest, made, text, _⟩ := string_taken matched
    exact ⟨body, rest, made, text.trans (quoted_append body rest)⟩
  · rintro ⟨body, rest, made, rfl⟩
    rw [← quoted_append]
    exact ⟨_, strings.lexed made rest, rfl⟩
  · intro body rest made
    rw [← quoted_append]
    exact ⟨strings.lexed made rest, fun _ _ made' same => made.unique made' same⟩

/-- Neither a quote nor a newline behind a backslash ends a literal, and what stands behind its end does
not count. -/
theorem lex_strings_escapes : ∃ language id, Builtin.language.1 = .ok language
    ∧ IsBody "é\\\"\\x4F\\\n".toList
    ∧ language.lex? "\"é\\\"\\x4F\\\n\"\"".toList = some ⟨id, 12⟩ := by
  have digits : ∀ c ∈ ['4', 'F'], IsHexDigit c := by
    simp only [List.forall_mem_cons]
    exact ⟨hexSet_has.mp (by decide +kernel), .inr (.inl ⟨by decide, by decide⟩), nofun⟩
  have body : IsBody "é\\\"\\x4F\\\n".toList := by
    refine ⟨[['é'], ['\\', '"'], ['\\', 'x', '4', 'F'], ['\\', '\n']], ?_, by decide⟩
    simp only [List.forall_mem_cons]
    exact ⟨.plain (by decide), .escaped (.single (by decide)), .escaped (.short rfl digits),
      .escaped (.single (by decide)), nofun⟩
  obtain ⟨language, id, loaded, _, _, _, whole⟩ := lex_strings
  exact ⟨language, id, loaded, body, (whole _ ['"'] body).1⟩

end Builtin

end Treegram
