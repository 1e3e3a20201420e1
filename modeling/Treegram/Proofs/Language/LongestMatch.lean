import Treegram.Proofs.Language.Lexing

/-!
The longest match. Of all tokens that match at the front of a text the one with the longest match is
found; of several, a literal before a pattern, and the one with the lowest number of those left.
Lexing itself compares no numbers. The tokens stand in the order of their numbers, and of equally
good matches the first is kept.
-/

namespace Treegram

/-- If a list ascends in a key, the first of its best members is the best one with the least key. -/
theorem argmax_iff_of_ascending {α : Type} {key rank : α → Nat} {items : List α}
    (ascending : items.Pairwise (key · < key ·)) {item : α} :
    items.argmax rank = some item ↔ item ∈ items ∧ (∀ other ∈ items, rank other ≤ rank item)
      ∧ ∀ other ∈ items, rank other = rank item → key item ≤ key other := by
  classical
  have before {first second : Nat} (inside : first < items.length) (within : second < items.length) :
      first ≤ second ↔ key items[first] ≤ key items[second] := by
    have less := List.pairwise_iff_getElem.mp ascending
    rcases Nat.lt_trichotomy first second with earlier | rfl | later
    · exact iff_of_true earlier.le (less _ _ inside within earlier).le
    · exact iff_of_true le_rfl le_rfl
    · exact iff_of_false later.not_ge (less _ _ within inside later).not_ge
  have places (member : item ∈ items) {other : α} (among : other ∈ items) :
      items.idxOf item ≤ items.idxOf other ↔ key item ≤ key other := by
    rw [before (List.idxOf_lt_length_of_mem member) (List.idxOf_lt_length_of_mem among),
      List.getElem_idxOf, List.getElem_idxOf]
  rw [List.argmax_eq_some_iff]
  refine and_congr_right fun member => and_congr_right fun best => forall₂_congr fun other among => ?_
  rw [places member among]
  exact ⟨fun first same => first same.ge, fun first same => first (le_antisymm (best other among) same)⟩

namespace Language
variable {options : LoadOptions} {grammar : Grammar} {language : Language} {text : List Char}

/-- The token is the one to be found at the front of the text, by a match of this length. -/
structure Wins (language : Language) (text : List Char) (token : Token) (length : Nat) : Prop where
  held : token ∈ language.tokens.toList
  matched : token.matcher.length? text = some length
  longest : ∀ other ∈ language.tokens.toList, ∀ more, other.matcher.length? text = some more →
    more ≤ length
  literal : ∀ other ∈ language.tokens.toList, other.matcher.length? text = some length →
    other.matcher.isLiteral = true → token.matcher.isLiteral = true
  lowest : ∀ other ∈ language.tokens.toList, other.matcher.length? text = some length →
    other.matcher.isLiteral = token.matcher.isLiteral → token.symbol ≤ other.symbol

/-- The tokens stand in the order of their numbers. -/
theorem load_tokens_ascending (done : (load options grammar).1 = .ok language) :
    language.tokens.toList.Pairwise (·.symbol < ·.symbol) := by
  rw [load, loadWithin_eq_ok] at done
  obtain ⟨_, start, numbered, _, made, rfl⟩ := done
  obtain ⟨terminals, externals, nonterminals, aliases, blocks⟩ := Grammar.number_blocks made
  rw [List.pairwise_iff_getElem]
  intro first second inside within less
  rw [blocks.tokenPlaces first _ (Array.getElem?_toList.symm.trans (List.getElem?_eq_getElem inside)),
    blocks.tokenPlaces second _ (Array.getElem?_toList.symm.trans (List.getElem?_eq_getElem within))]
  exact Nat.succ_lt_succ less

/-- The matches at the front of a text come in the order of their symbols. -/
theorem candidates_ascending (ascending : language.tokens.toList.Pairwise (·.symbol < ·.symbol))
    (text : List Char) :
    (language.candidates text).Pairwise (·.1.symbol < ·.1.symbol) := by
  rw [candidates, List.pairwise_filterMap]
  refine ascending.imp fun less candidate found other met => ?_
  rw [candidate?, Option.map_eq_some_iff] at found met
  obtain ⟨_, _, rfl⟩ := found
  obtain ⟨_, _, rfl⟩ := met
  exact less

/-- The rank tells candidates apart by their lengths first, and then by whether they are literals. -/
theorem rank_le_iff {candidate other : Candidate} :
    rank other ≤ rank candidate ↔ other.1.length ≤ candidate.1.length
      ∧ (other.1.length = candidate.1.length → other.2 = true → candidate.2 = true) := by
  obtain ⟨⟨_, length⟩, literal⟩ := candidate
  obtain ⟨⟨_, more⟩, fixed⟩ := other
  cases literal <;> cases fixed <;> simp [rank] <;> omega

theorem rank_eq_iff {candidate other : Candidate} :
    rank other = rank candidate ↔
      other.1.length = candidate.1.length ∧ other.2 = candidate.2 := by
  obtain ⟨⟨_, length⟩, literal⟩ := candidate
  obtain ⟨⟨_, more⟩, fixed⟩ := other
  cases literal <;> cases fixed <;> simp [rank] <;> omega

/-- What is true of all candidates is true of all tokens that match. -/
theorem forall_candidates {property : Candidate → Prop} :
    (∀ candidate ∈ language.candidates text, property candidate) ↔
      ∀ token ∈ language.tokens.toList, ∀ length, token.matcher.length? text = some length →
        property (⟨token.symbol, length⟩, token.matcher.isLiteral) := by
  constructor
  · intro all token held length matched
    exact all _ (mem_candidates.mpr ⟨token, held, matched, rfl, rfl⟩)
  · rintro all ⟨⟨symbol, length⟩, literal⟩ member
    obtain ⟨token, held, matched, rfl, rfl⟩ := mem_candidates.mp member
    exact all token held length matched

/-- The best candidate with the lowest number is the token that wins. -/
theorem best_iff_wins {token : Token} {length : Nat} (held : token ∈ language.tokens.toList)
    (matched : token.matcher.length? text = some length) :
    ((∀ other ∈ language.candidates text,
        rank other ≤ rank (⟨token.symbol, length⟩, token.matcher.isLiteral))
      ∧ ∀ other ∈ language.candidates text,
        rank other = rank (⟨token.symbol, length⟩, token.matcher.isLiteral) →
          token.symbol ≤ other.1.symbol) ↔ language.Wins text token length := by
  simp only [forall_candidates, rank_le_iff, rank_eq_iff]
  constructor
  · rintro ⟨best, first⟩
    exact ⟨held, matched, fun other among more found => (best other among more found).1,
      fun other among found => (best other among length found).2 rfl,
      fun other among found same => first other among length found ⟨rfl, same⟩⟩
  · intro wins
    refine ⟨fun other among more found => ⟨wins.longest other among more found, ?_⟩, ?_⟩
    · rintro rfl
      exact wins.literal other among found
    · rintro other among more found ⟨rfl, same⟩
      exact wins.lowest other among found same

/-- Nothing is found exactly if no token matches, and otherwise the token that wins. What it takes is
a part of the text, and not an empty one. -/
theorem load_lex (done : (load options grammar).1 = .ok language) (text : List Char) :
    (language.lex? text = none ↔
        ∀ token ∈ language.tokens.toList, token.matcher.length? text = none)
      ∧ (∀ found, language.lex? text = some found ↔
        ∃ token, language.Wins text token found.length ∧ token.symbol = found.symbol)
      ∧ ∀ found, language.lex? text = some found → 0 < found.length
        ∧ found.length ≤ byteLength text
        ∧ ∃ front rest, text = front ++ rest ∧ found.length = byteLength front := by
  -- Tokens are listed by their numbers, so the first of several equal ones has the lowest number.
  have ascending := candidates_ascending (load_tokens_ascending done) text
  refine ⟨?_, ?_, ?_⟩
  · rw [lex?_eq, Option.map_eq_none_iff, List.argmax_eq_none, candidates, List.filterMap_eq_nil_iff]
    exact forall₂_congr fun token _ => Option.map_eq_none_iff
  · rintro ⟨symbol, length⟩
    rw [lex?_eq, Option.map_eq_some_iff]
    constructor
    · rintro ⟨⟨_, literal⟩, best, rfl⟩
      obtain ⟨member, above, first⟩ := (argmax_iff_of_ascending ascending).mp best
      obtain ⟨token, held, matched, rfl, rfl⟩ := mem_candidates.mp member
      exact ⟨token, (best_iff_wins held matched).mp ⟨above, first⟩, rfl⟩
    · rintro ⟨token, wins, rfl⟩
      exact ⟨_, (argmax_iff_of_ascending ascending).mpr
        ⟨mem_candidates.mpr ⟨token, wins.held, wins.matched, rfl, rfl⟩,
          (best_iff_wins wins.held wins.matched).mpr wins⟩, rfl⟩
  · intro found lexed
    obtain ⟨front, solid, fits, same⟩ := lex?_fits lexed
    rw [same]
    obtain ⟨rest, rfl⟩ := fits
    exact ⟨byteLength_pos solid, byteLength_prefix (List.prefix_append front rest),
      front, rest, rfl, rfl⟩

/-- A keyword that also has the shape of a name. -/
def keywordGrammar : Grammar where
  name := "keyword"
  rules := Std.ExtTreeMap.ofList [("test", Rule.seq [.pattern "[a-z]+", .string "if"])]

/-- The keyword comes behind the pattern for names, and is found where both take as much. -/
theorem load_lex_keyword :
    ∃ language keyword name, (load {} keywordGrammar).1 = .ok language
      ∧ language.Wins "if ".toList keyword 2 ∧ keyword.matcher.isLiteral = true
      ∧ language.Wins "iffy".toList name 4 ∧ name.symbol < keyword.symbol := by
  obtain ⟨language, done, short, long, literal⟩ :
      ∃ language, (load {} keywordGrammar).1 = .ok language
        ∧ language.lex? "if ".toList = some ⟨2, 2⟩ ∧ language.lex? "iffy".toList = some ⟨1, 4⟩
        ∧ ∀ token ∈ language.tokens.toList, token.symbol = 2 → token.matcher.isLiteral = true := by
    decide +kernel
  obtain ⟨keyword, first, second⟩ := ((load_lex done _).2.1 _).mp short
  obtain ⟨name, longer, lower⟩ := ((load_lex done _).2.1 _).mp long
  refine ⟨language, keyword, name, done, first, literal keyword first.held second, longer, ?_⟩
  rw [second, lower]
  decide

end Language

end Treegram
