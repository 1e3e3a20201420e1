import Treegram.Proofs.Language.Phases
import Treegram.Proofs.Language.TokenMeaning

/-!
The tokens of a language. There is one for each token that a rule or an extra uses, in the order of
the first uses, and whatever uses it again could have had the same made.
-/

namespace Treegram

def TokenKey.immediate : TokenKey → Bool
  | .text _ immediate => immediate
  | .pattern _ immediate => immediate

namespace TokenUse
variable {use other : TokenUse} {key : TokenKey}

theorem of_key_text {text : String} {immediate : Bool} (known : use.key? = some (.text text immediate)) :
    use.body.stringText? = some text := by
  cases use with
  | rule name body before => cases known
  | inside place body before =>
      rw [key?] at known
      cases literal : body.stringText? with
      | some found => simp_all [TokenUse.body]
      | none => cases made : body.tokenSource <;> simp [literal, made, Except.toOption] at known

theorem key_immediate (known : use.key? = some key) : use.immediate = key.immediate := by
  cases use with
  | rule name body before => cases known
  | inside place body before =>
      rw [key?] at known
      cases literal : body.stringText? with
      | some text =>
          rw [literal, Option.some.injEq] at known
          exact known ▸ rfl
      | none =>
          rw [literal, Option.map_eq_some_iff] at known
          obtain ⟨source, _, rfl⟩ := known
          rfl

/-- The matcher of a token is told by its key. -/
theorem matcher_of_key (known : use.key? = some key) (same : other.key? = some key) {matcher : Matcher} :
    tokenMatcher .standard use.place use.body = .ok matcher ↔
      tokenMatcher .standard other.place other.body = .ok matcher := by
  cases key with
  | text text immediate =>
      rw [tokenMatcher_string (of_key_text known), tokenMatcher_string (of_key_text same)]
  | pattern source immediate =>
      obtain ⟨none, made⟩ := of_key_pattern known
      obtain ⟨noneThere, madeThere⟩ := of_key_pattern same
      rw [tokenMatcher_pattern none made, tokenMatcher_pattern noneThere madeThere]

/-- A token that is used again is the one that would be made. -/
theorem IsMade.of_key {token : Token} (made : other.IsMade token) (known : use.key? = some key)
    (same : other.key? = some key) : use.IsMade token :=
  ⟨(matcher_of_key known same).mpr made.matcher, by
    rw [made.immediate, key_immediate known, key_immediate same]⟩

/-- Each use is the first one of its token or has the key of the first one. -/
theorem exists_introduced {uses : List TokenUse} (held : use ∈ uses) :
    ∃ first ∈ introduced [] uses,
      first = use ∨ ∃ key, use.key? = some key ∧ first.key? = some key := by
  induction uses using List.reverseRecOn generalizing use with
  | nil => cases held
  | append_singleton uses last ih =>
      -- What has been introduced stays so when there is one use more.
      have kept : ∀ first ∈ introduced [] uses, first ∈ introduced [] (uses ++ [last]) := by
        rw [introduced_append]
        exact fun first found => List.mem_append_left _ found
      have earlier (used : TokenUse) (found : used ∈ uses) :
          ∃ first ∈ introduced [] (uses ++ [last]),
            first = used ∨ ∃ key, used.key? = some key ∧ first.key? = some key := by
        obtain ⟨first, introduced, known⟩ := ih found
        exact ⟨first, kept first introduced, known⟩
      rcases List.mem_append.mp held with held | held
      · exact earlier use held
      obtain rfl := List.mem_singleton.mp held
      cases new : use.isNew uses with
      | true =>
          rw [introduced_new new]
          exact ⟨use, List.mem_append_right _ (List.mem_singleton_self use), .inl rfl⟩
      | false =>
          cases known : use.key? with
          | none => simp [isNew, known] at new
          | some key =>
              obtain ⟨used, found, same⟩ := List.mem_filterMap.mp ((isNew_eq_false known).mp new)
              obtain ⟨first, introduced, rfl | ⟨other, there, here⟩⟩ := earlier used found
              · exact ⟨first, introduced, .inr ⟨key, rfl, same⟩⟩
              · obtain rfl : key = other := Option.some.inj (same.symm.trans there)
                exact ⟨first, introduced, .inr ⟨key, rfl, here⟩⟩

/-- Tokens for the first uses are tokens for all uses. -/
theorem exists_token {uses : List TokenUse} {tokens : List Token}
    (made : List.Forall₂ IsMade (introduced [] uses) tokens) (held : use ∈ uses) :
    ∃ token ∈ tokens, use.IsMade token := by
  obtain ⟨first, introduced, same⟩ := exists_introduced held
  obtain ⟨index, inside, rfl⟩ := List.mem_iff_getElem.mp introduced
  have inTokens : index < tokens.length := made.length_eq ▸ inside
  have token : (TokenUse.introduced [] uses)[index].IsMade tokens[index] := made.get inside inTokens
  refine ⟨tokens[index], List.getElem_mem inTokens, ?_⟩
  rcases same with same | ⟨key, known, same⟩
  · exact same ▸ token
  · exact token.of_key known same

end TokenUse

open Treegram.Numbering in
/-- The tokens that a numbering has in the end are those of rules and extras. -/
theorem Grammar.number_tokens {room : Nat} {start : String} {grammar : Grammar}
    {numbered : NumberedGrammar} (some : 0 < room) (done : grammar.number room start = .ok numbered) :
    List.Forall₂ TokenUse.IsMade (TokenUse.introduced [] (grammar.tokenUses start))
      numbered.numbering.tokens.toList := by
  rw [number_eq_ok] at done
  obtain ⟨ruleTokens, references, tokens, externals, beforeRules, beforeAliases, after, first, second,
    third, fourth, fifth, rfl⟩ := done
  have tabled := (grammar.tokens_extend start some).2 ruleTokens (references, tokens) first second
  -- The later phases add symbols, but no token.
  have third : beforeRules.tokens = tokens.tokens := by
    refine @foldlM_keeps _ _ _ (fun found : List Nat × Numbering => found.2.tokens = tokens.tokens) _ _
      (fun _ _ _ _ same done => ?_) _ _ rfl third
    rcases addExternal_eq_ok.mp done with ⟨_, rfl⟩ | ⟨_, _, _, rfl⟩ <;> exact same
  have fourth : beforeAliases.tokens = tokens.tokens := by
    refine @foldlM_keeps _ _ _ (fun numbering : Numbering => numbering.tokens = tokens.tokens) _ _
      (fun _ _ _ _ same done => ?_) _ _ third fourth
    rcases addRule_eq_ok.mp done with ⟨_, rfl⟩ | ⟨_, _, rfl⟩ <;> exact same
  have fifth : after.tokens = tokens.tokens := by
    refine @foldlM_keeps _ _ _ (fun numbering : Numbering => numbering.tokens = tokens.tokens) _ _
      (fun _ _ _ _ same done => ?_) _ _ fourth fifth
    rcases addAlias_eq_ok.mp done with ⟨_, rfl⟩ | ⟨_, _, rfl⟩ <;> exact same
  rw [fifth]
  exact tabled.tokens

/-- The tokens of a language are made for the first uses of tokens, one by one. -/
theorem Language.load_tokens {options : LoadOptions} {grammar : Grammar} {language : Language}
    (done : (Language.load options grammar).1 = .ok language) :
    ∃ start, grammar.startRule? = some start
      ∧ List.Forall₂ TokenUse.IsMade (TokenUse.introduced [] (grammar.tokenUses start))
        language.tokens.toList := by
  rw [load, loadWithin_eq_ok] at done
  obtain ⟨_, start, numbered, root, made, rfl⟩ := done
  exact ⟨start, root, Grammar.number_tokens (by decide) made⟩

end Treegram
