import Mathlib.Data.List.MinMax
import Treegram.Proofs.Language.Layout
import Treegram.Proofs.Language.TokenMeaning

/-!
Lexing. What is found at the front of a text is the first of the best matches that the tokens have
there, and it takes a part of the text. A language that finds a token in front of every text cuts
each text into tokens, with nothing left out and nothing between them.
-/

namespace Treegram

open Pattern (Marked Term longestFrom)

/-! ## What a token takes -/

namespace Pattern

/-- An answer that ends at this place ends behind no characters at all. -/
theorem ends_here {position length : Nat} (text : List Char) (same : some position = some length) :
    ∃ front, front <+: text ∧ length = position + byteLength front :=
  ⟨[], List.nil_prefix, (Option.some.inj same).symm⟩

/-- An answer is the best one so far or the end of a part of the text, whatever the term asks of the
characters around. -/
theorem longestFrom_fits {marked : Marked} {before : Option Char} {position length : Nat}
    {best : Option Nat} {text : List Char}
    (answer : longestFrom marked before position best text = some length) :
    best = some length ∨ ∃ front, front <+: text ∧ length = position + byteLength front := by
  induction text generalizing marked before position best with
  | nil =>
      rw [longestFrom] at answer
      split at answer
      · exact .inr (ends_here _ answer)
      · exact .inl answer
  | cons c rest ih =>
      have settled : (if (marked.read before c false).2 then some position else best) = some length →
          best = some length ∨ ∃ front, front <+: c :: rest ∧ length = position + byteLength front := by
        intro same
        split at same
        · exact .inr (ends_here _ same)
        · exact .inl same
      rw [longestFrom_cons] at answer
      split at answer
      · exact settled answer
      · rcases ih answer with same | ⟨front, fits, rfl⟩
        · exact settled same
        · exact .inr ⟨c :: front, List.cons_prefix_cons.mpr ⟨rfl, fits⟩, Nat.add_assoc ..⟩

theorem Term.longest?_fits {term : Term} {text : List Char} {length : Nat}
    (answer : term.longest? text = some length) :
    ∃ front, front ≠ [] ∧ front <+: text ∧ length = byteLength front := by
  cases text with
  | nil => cases answer
  | cons c rest =>
      rcases longestFrom_fits answer with none | ⟨front, fits, same⟩
      · cases none
      · exact ⟨c :: front, List.cons_ne_nil c front, List.cons_prefix_cons.mpr ⟨rfl, fits⟩, same⟩

/-- If a term has the first character of a text among its texts, it takes some of the text. -/
theorem Term.longest?_isSome {term : Term} (plain : term.asserts = false) {c : Char}
    (single : [c] ∈ term.texts) (rest : List Char) :
    ∃ length, term.longest? (c :: rest) = some length := by
  have answers := Term.longest?_exact plain (c :: rest)
  cases answer : term.longest? (c :: rest) with
  | some length => exact ⟨length, rfl⟩
  | none =>
      rw [answer] at answers
      exact absurd (answers [c] (List.prefix_append [c] rest) single) (List.cons_ne_nil c [])

end Pattern

/-- A token takes some of the characters that a text begins with, and at least one. -/
theorem Matcher.length?_fits {matcher : Matcher} {text : List Char} {length : Nat}
    (answer : matcher.length? text = some length) :
    ∃ front, front ≠ [] ∧ front <+: text ∧ length = byteLength front := by
  cases matcher with
  | literal wanted =>
      have exact := literal_exact wanted text
      rw [answer] at exact
      obtain ⟨front, solid, longest, same⟩ := exact
      exact ⟨front, solid, longest.1, same⟩
  | pattern source term => exact Pattern.Term.longest?_fits answer

theorem byteLength_pos {text : List Char} (solid : text ≠ []) : 0 < byteLength text := by
  cases text with
  | nil => exact absurd rfl solid
  | cons c rest => exact Nat.add_pos_left c.utf8Size_pos _

theorem byteLength_append (text more : List Char) :
    byteLength (text ++ more) = byteLength text + byteLength more := by
  induction text with
  | nil => exact (Nat.zero_add _).symm
  | cons c rest ih => exact (congrArg (c.utf8Size + ·) ih).trans (Nat.add_assoc ..).symm

theorem byteLength_prefix {front text : List Char} (fits : front <+: text) :
    byteLength front ≤ byteLength text := by
  obtain ⟨rest, rfl⟩ := fits
  rw [byteLength_append]
  exact Nat.le_add_right _ _

namespace Language

/-! ## The token that is found -/

/-- How good a candidate is. Length counts most, and of equally long matches that of a literal is
better. -/
def rank (candidate : Candidate) : Nat := 2 * candidate.1.length + if candidate.2 then 1 else 0

theorem beats_iff {later earlier : Candidate} :
    beats later earlier = true ↔ rank earlier < rank later := by
  obtain ⟨⟨_, length⟩, literal⟩ := later
  obtain ⟨⟨_, other⟩, fixed⟩ := earlier
  cases literal <;> cases fixed <;> simp [beats, rank] <;> omega

variable {language : Language} {text : List Char}

/-- The matches at the front of a text, in the order of the tokens. -/
def candidates (language : Language) (text : List Char) : List Candidate :=
  language.tokens.toList.filterMap (candidate? text)

theorem mem_candidates {candidate : Candidate} :
    candidate ∈ language.candidates text ↔ ∃ token ∈ language.tokens.toList,
      token.matcher.length? text = some candidate.1.length ∧ candidate.1.symbol = token.symbol
        ∧ candidate.2 = token.matcher.isLiteral := by
  rw [candidates, List.mem_filterMap]
  refine exists_congr fun token => and_congr_right fun _ => ?_
  obtain ⟨⟨symbol, length⟩, literal⟩ := candidate
  simp only [candidate?, Option.map_eq_some_iff, Prod.mk.injEq, TokenMatch.mk.injEq]
  constructor
  · rintro ⟨_, matched, ⟨rfl, rfl⟩, rfl⟩
    exact ⟨matched, rfl, rfl⟩
  · rintro ⟨matched, rfl, rfl⟩
    exact ⟨length, matched, ⟨rfl, rfl⟩, rfl⟩

/-- What is found is the first of the best matches. -/
theorem lex?_eq (language : Language) (text : List Char) :
    language.lex? text = ((language.candidates text).argmax rank).map (·.1) := by
  have step : ∀ (tokens : List Token) (best : Option Candidate),
      tokens.foldl (fun best token => better best (candidate? text token)) best =
        (tokens.filterMap (candidate? text)).foldl
          (List.argAux fun later earlier => rank earlier < rank later) best := by
    intro tokens
    induction tokens with
    | nil => exact fun _ => rfl
    | cons token rest ih =>
        intro best
        rw [List.foldl_cons, ih]
        cases found : candidate? text token with
        | none =>
            rw [List.filterMap_cons_none found]
            cases best <;> rfl
        | some later =>
            rw [List.filterMap_cons_some found, List.foldl_cons]
            cases best with
            | none => rfl
            | some earlier => simp only [better, beats_iff, List.argAux, apply_ite some]
  rw [lex?, ← Array.foldl_toList, step, candidates]
  rfl

/-- What is found is a match of a token. -/
theorem lex?_token {found : TokenMatch} (lexed : language.lex? text = some found) :
    ∃ token ∈ language.tokens.toList, token.matcher.length? text = some found.length
      ∧ found.symbol = token.symbol := by
  rw [lex?_eq, Option.map_eq_some_iff] at lexed
  obtain ⟨winner, best, rfl⟩ := lexed
  obtain ⟨token, held, matched, symbol, _⟩ := mem_candidates.mp (List.argmax_mem best)
  exact ⟨token, held, matched, symbol⟩

/-- A token that matches is enough for something to be found. -/
theorem lex?_isSome {token : Token} (held : token ∈ language.tokens.toList) {length : Nat}
    (matched : token.matcher.length? text = some length) : ∃ found, language.lex? text = some found := by
  have member : (⟨token.symbol, length⟩, token.matcher.isLiteral) ∈ language.candidates text :=
    mem_candidates.mpr ⟨token, held, matched, rfl, rfl⟩
  rw [lex?_eq]
  cases best : (language.candidates text).argmax rank with
  | some winner => exact ⟨winner.1, rfl⟩
  | none =>
      rw [List.argmax_eq_none.mp best] at member
      cases member

/-- A token is found if all others that match as much have its symbol and match no more. -/
theorem lex?_of_longest {token : Token} (held : token ∈ language.tokens.toList) {length : Nat}
    (matched : token.matcher.length? text = some length)
    (most : ∀ other ∈ language.tokens.toList, ∀ more, other.matcher.length? text = some more →
      length ≤ more → other.symbol = token.symbol ∧ more = length) :
    language.lex? text = some ⟨token.symbol, length⟩ := by
  have member : (⟨token.symbol, length⟩, token.matcher.isLiteral) ∈ language.candidates text :=
    mem_candidates.mpr ⟨token, held, matched, rfl, rfl⟩
  obtain ⟨found, lexed⟩ := lex?_isSome held matched
  rw [lex?_eq, Option.map_eq_some_iff] at lexed
  obtain ⟨⟨⟨symbol, more⟩, literal⟩, best, rfl⟩ := lexed
  have above := List.le_of_mem_argmax member best
  have enough : length ≤ more := by
    simp only [rank] at above
    split at above <;> split at above <;> omega
  obtain ⟨other, among, longer, same, _⟩ := mem_candidates.mp (List.argmax_mem best)
  obtain ⟨numbered, rfl⟩ := most other among more longer enough
  rw [lex?_eq, best, ← numbered, ← same]
  rfl

/-- What is found takes some of the characters that the text begins with. -/
theorem lex?_fits {found : TokenMatch} (lexed : language.lex? text = some found) :
    ∃ front, front ≠ [] ∧ front <+: text ∧ found.length = byteLength front := by
  obtain ⟨token, _, matched, _⟩ := lex?_token lexed
  exact Matcher.length?_fits matched

/-- The symbol of what is found is one of a token. -/
theorem lex?_terminal {options : LoadOptions} {grammar : Grammar}
    (done : (load options grammar).1 = .ok language) {found : TokenMatch}
    (lexed : language.lex? text = some found) :
    language.symbolKind? found.symbol = some .terminal := by
  obtain ⟨token, held, _, symbol⟩ := lex?_token lexed
  rw [load, loadWithin_eq_ok] at done
  obtain ⟨_, start, numbered, _, made, rfl⟩ := done
  obtain ⟨terminals, externals, nonterminals, aliases, blocks⟩ := Grammar.number_blocks made
  rw [blocks.kind_terminal, blocks.token_iff]
  exact ⟨token, held, symbol.symm⟩

/-! ## Whole texts -/

/-- Lexing again and again takes these parts off the text, each with the symbol of its token. -/
inductive Cuts (language : Language) : List Char → List (List Char × Nat) → Prop where
  | nil : Cuts language [] []
  | cons {part rest : List Char} {symbol : Nat} {parts : List (List Char × Nat)} (solid : part ≠ [])
      (found : language.lex? (part ++ rest) = some ⟨symbol, byteLength part⟩)
      (behind : Cuts language rest parts) : Cuts language (part ++ rest) ((part, symbol) :: parts)

/-- The pieces that some parts make when they stand one behind the other. -/
def pieces (position : Nat) : List (List Char × Nat) → List Piece
  | [] => []
  | (part, symbol) :: rest =>
      ⟨position, byteLength part, some symbol⟩ :: pieces (position + byteLength part) rest

/-- The parts make up the text again. -/
theorem Cuts.flatten {parts : List (List Char × Nat)} (cuts : language.Cuts text parts) :
    (parts.map (·.1)).flatten = text := by
  induction cuts with
  | nil => rfl
  | cons _ _ _ ih => rw [List.map_cons, List.flatten_cons, ih]

/-- What is known of everything that is found is known of the parts. -/
theorem Cuts.symbols {parts : List (List Char × Nat)} {kind : SymbolKind}
    (cuts : language.Cuts text parts)
    (known : ∀ text found, language.lex? text = some found →
      language.symbolKind? found.symbol = some kind) :
    ∀ part ∈ parts, language.symbolKind? part.2 = some kind := by
  induction cuts with
  | nil => nofun
  | cons _ found _ ih => exact List.forall_mem_cons.mpr ⟨known _ _ found, ih⟩

/-- If something is found in front of every text, every text can be cut. -/
theorem exists_cuts (total : ∀ text, text ≠ [] → ∃ found, language.lex? text = some found)
    (text : List Char) : ∃ parts, language.Cuts text parts := by
  -- Each part takes a character, so the induction is on the number of characters that are left.
  induction size : text.length using Nat.strong_induction_on generalizing text with
  | _ count ih =>
      by_cases empty : text = []
      · exact ⟨[], empty ▸ .nil⟩
      obtain ⟨⟨symbol, length⟩, lexed⟩ := total text empty
      obtain ⟨part, solid, ⟨rest, rfl⟩, same⟩ := lex?_fits lexed
      obtain rfl : length = byteLength part := same
      have shorter : rest.length < count := by
        rw [← size, List.length_append]
        exact Nat.lt_add_of_pos_left (List.length_pos_iff.mpr solid)
      obtain ⟨parts, behind⟩ := ih rest.length shorter rest rfl
      exact ⟨(part, symbol) :: parts, .cons solid lexed behind⟩

theorem dropBytes_append (part rest : List Char) :
    dropBytes (byteLength part) (part ++ rest) = rest := by
  induction part with
  | nil =>
      change dropBytes 0 rest = rest
      rw [dropBytes]
  | cons c part ih =>
      obtain ⟨bytes, size⟩ := Nat.exists_eq_succ_of_ne_zero (byteLength_pos (List.cons_ne_nil c part)).ne'
      have behind : bytes + 1 - c.utf8Size = byteLength part := by
        have whole : c.utf8Size + byteLength part = bytes + 1 := size
        omega
      rw [size, List.cons_append, dropBytes, behind, ih]

/-- Splitting a text that can be cut gives its parts, with their places. -/
theorem splitFrom_cuts {parts : List (List Char × Nat)} (cuts : language.Cuts text parts)
    {turns : Nat} (enough : text.length ≤ turns) (position : Nat) :
    language.splitFrom turns position text = pieces position parts := by
  induction cuts generalizing turns position with
  | nil => cases turns <;> rfl
  | cons solid found _ ih =>
      rename_i part rest symbol parts _
      obtain ⟨c, tail, rfl⟩ := List.exists_cons_of_ne_nil solid
      cases turns with
      | zero => cases enough
      | succ turns =>
          have fewer : rest.length ≤ turns := by
            rw [List.length_append, List.length_cons] at enough
            omega
          rw [List.cons_append] at found
          rw [List.cons_append, splitFrom, found]
          simp only
          rw [← List.cons_append, dropBytes_append, ih fewer, pieces]

theorem split_cuts {parts : List (List Char × Nat)} (cuts : language.Cuts text parts) :
    language.split text = pieces 0 parts :=
  splitFrom_cuts cuts (Nat.le_refl _) 0

end Language

end Treegram
