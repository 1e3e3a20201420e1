import Treegram.Proofs.Builtin.Grammar
import Treegram.Proofs.Language.Lexing
import Treegram.Proofs.Language.Tokens

/-!
The built-in language never gets stuck. Two of its tokens take any single character between them: a
term may be a character that is no white space, and white space may stand between all tokens.
-/

namespace Treegram

open Pattern (CharSet Term)

namespace Builtin

variable {loaded : Language}

/-- For each pattern that is used there is a token with the term that it stands for. -/
theorem exists_pattern (done : (Language.load {} (base.withRules entries)).1 = .ok loaded)
    {use : TokenUse} (held : use ∈ base.listedUses entries) {source : String} {piece : Pattern.Piece}
    (other : use.body.stringText? = none) (made : use.body.tokenSource = .ok source)
    (read : Pattern.Piece.read? source.toList = some piece) :
    ∃ token ∈ loaded.tokens.toList, token.matcher = .pattern source piece.expr.term := by
  obtain ⟨start, _, tokens⟩ := Language.load_tokens done
  have inGrammar : use ∈ (base.withRules entries).tokenUses start :=
    (Grammar.tokenUses_perm entries_distinct start).mem_iff.mpr held
  obtain ⟨token, found, isMade⟩ := TokenUse.exists_token tokens inGrammar
  exact ⟨token, found, tokenMatcher_read other made read isMade.matcher⟩

/-! ## The two tokens -/

/-- A term may be any character that is no white space. -/
def solidPattern : Rule := .pattern "[^\\s]"

/-- White space may stand between all tokens. -/
def blankPattern : Rule := .pattern "[\\s\\n]+"

def solidSet : CharSet := .complement (.property .whiteSpace)

def blankSet : CharSet :=
  ((CharSet.ranges []).union (.property .whiteSpace)).union (.ranges [(0x0A, 0x0A)])

theorem solid_used : .inside "term" solidPattern false ∈ base.listedUses entries := by
  have uses : terms.head?.map Grammar.ruleUses = some [.inside "term" solidPattern false] := rfl
  obtain ⟨entry, first, uses⟩ := Option.map_eq_some_iff.mp uses
  have term : entry ∈ terms := List.mem_of_mem_head? first
  have held : entry ∈ entries := by
    simp only [entries, termForms, List.mem_append]
    tauto
  refine List.mem_append_left _ (List.mem_flatMap.mpr ⟨entry, held, ?_⟩)
  rw [uses]
  exact List.mem_singleton_self _

theorem blank_used : .inside "extras" blankPattern false ∈ base.listedUses entries :=
  List.mem_append_right _ (List.mem_flatMap.mpr
    ⟨blankPattern, List.mem_cons_self, List.mem_singleton_self _⟩)

theorem solid_read : Pattern.Piece.read? "(?:[^\\s])".toList =
    some { expr := .chars solidSet, depth := 2 } :=
  rfl

theorem blank_read : Pattern.Piece.read? "(?:[\\s\\n]+)".toList =
    some { expr := .times (.chars blankSet) 1 none, depth := 4 } :=
  rfl

/-- A character is no white space, or it is. -/
theorem solid_or_blank (c : Char) : solidSet.has c.toNat = true ∨ blankSet.has c.toNat = true := by
  simp only [solidSet, blankSet, CharSet.has]
  cases Unicode.Property.has .whiteSpace c.toNat <;> simp

/-- In front of every text that is not empty there is a token. -/
theorem loaded_total (done : (Language.load {} (base.withRules entries)).1 = .ok loaded)
    {text : List Char} (solid : text ≠ []) : ∃ found, loaded.lex? text = some found := by
  obtain ⟨c, rest, rfl⟩ := List.exists_cons_of_ne_nil solid
  rcases solid_or_blank c with held | held
  · obtain ⟨token, found, matcher⟩ := exists_pattern done solid_used rfl rfl solid_read
    have single : [c] ∈ (Term.chars solidSet).texts := ⟨c, held, rfl⟩
    obtain ⟨length, answer⟩ := Term.longest?_isSome rfl single rest
    exact Language.lex?_isSome found (by rw [matcher]; exact answer)
  · obtain ⟨token, found, matcher⟩ := exists_pattern done blank_used rfl rfl blank_read
    have term : (Pattern.Expr.times (.chars blankSet) 1 none).term =
        .seq (.chars blankSet) (.star (.chars blankSet)) := by
      rw [Pattern.Expr.term, Pattern.Expr.term, Term.times_many1]
    have single : [c] ∈ (Term.seq (.chars blankSet) (.star (.chars blankSet))).texts :=
      Language.mem_mul.mpr ⟨[c], ⟨c, held, rfl⟩, [], Language.nil_mem_kstar _, rfl⟩
    obtain ⟨length, answer⟩ := Term.longest?_isSome rfl single rest
    exact Language.lex?_isSome found (by rw [matcher, term]; exact answer)

/-- The built-in language loads, and in front of every text that is not empty it finds a token: a
terminal symbol, with some of the characters that the text begins with. So lexing again and again
splits every text into tokens that stand one behind the other and make up the text. -/
theorem lex_total : ∃ language, Builtin.language.1 = .ok language
    ∧ (∀ text, text ≠ [] → ∃ found front, language.lex? text = some found
      ∧ front <+: text ∧ found.length = byteLength front
      ∧ 1 ≤ found.length ∧ found.length ≤ byteLength text
      ∧ language.symbolKind? found.symbol = some .terminal)
    ∧ ∀ text, ∃ parts, language.Cuts text parts
      ∧ (parts.map (·.1)).flatten = text
      ∧ language.split text = Language.pieces 0 parts
      ∧ ∀ part ∈ parts, language.symbolKind? part.2 = some .terminal := by
  obtain ⟨loaded, done, same⟩ := language_loads
  -- The scanner is asked by a parser only; tokens and symbols are those that were loaded.
  have total : ∀ text, text ≠ [] → ∃ found, (loaded.withScanner {}).lex? text = some found :=
    fun text solid => loaded_total done solid
  have terminal (text : List Char) (found : TokenMatch)
      (lexed : (loaded.withScanner {}).lex? text = some found) :
      (loaded.withScanner {}).symbolKind? found.symbol = some .terminal :=
    Language.lex?_terminal done lexed
  refine ⟨loaded.withScanner {}, same, fun text solid => ?_, fun text => ?_⟩
  · obtain ⟨found, lexed⟩ := total text solid
    obtain ⟨front, solidFront, fits, length⟩ := Language.lex?_fits lexed
    refine ⟨found, front, lexed, fits, length, ?_, ?_, terminal text found lexed⟩
    · rw [length]
      exact byteLength_pos solidFront
    · rw [length]
      exact byteLength_prefix fits
  · obtain ⟨parts, cuts⟩ := Language.exists_cuts total text
    exact ⟨parts, cuts, cuts.flatten, Language.split_cuts cuts, cuts.symbols terminal⟩

end Builtin

end Treegram
