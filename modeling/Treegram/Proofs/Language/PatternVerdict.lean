import Treegram.Proofs.Language.Table
import Treegram.Proofs.Language.TokenMeaning
import Treegram.Proofs.Pattern.Judging
import Treegram.Rule.Combinators

/-!
When a token's body makes a matcher. The patterns in a body are put side by side as text, and only
the whole is checked. As long as no pattern escapes from its group, that comes to the same as
checking each of them on its own, except that no two groups of the whole may have the same name.
-/

namespace Treegram

open Pattern (Judged IsQuiet Escapes)

namespace Rule

/-- The text of a pattern. -/
def patternText (node : Rule) : List Char := (node.text?.getD "").toList

/-- Every pattern in the body can be read on its own. -/
def PatternsRead (body : Rule) : Prop :=
  ∀ node, body.Reaches node → node.kind = .pattern → (Pattern.Piece.read? node.patternText).isSome = true

/-- A body without references whose patterns are never verbose, and stay in their groups even if they
cannot be read. -/
structure IsContained (body : Rule) : Prop where
  symbolFree : body.IsSymbolFree
  quiet : ∀ node, body.Reaches node → node.kind = .pattern → IsQuiet node.patternText
  stays : ∀ node, body.Reaches node → node.kind = .pattern →
    Pattern.Piece.read? node.patternText = none → ¬ Escapes (.start {}) node.patternText

section Reaches
variable {rule : Rule}

theorem IsContained.member (contained : rule.IsContained) (compound : rule.kind.isCompound = true)
    {member : Rule} (held : member ∈ rule.members) : member.IsContained where
  symbolFree node inside := contained.symbolFree node (.member compound held inside)
  quiet node inside := contained.quiet node (.member compound held inside)
  stays node inside := contained.stays node (.member compound held inside)

theorem IsContained.inner (contained : rule.IsContained) (unary : rule.kind.isUnary = true)
    {inner : Rule} (held : rule.content = some inner) : inner.IsContained where
  symbolFree node inside := contained.symbolFree node (.content unary held inside)
  quiet node inside := contained.quiet node (.content unary held inside)
  stays node inside := contained.stays node (.content unary held inside)

theorem patternsRead_iff : rule.PatternsRead ↔
    (rule.kind = .pattern → (Pattern.Piece.read? rule.patternText).isSome = true)
      ∧ (rule.kind.isCompound = true → ∀ member ∈ rule.members, member.PatternsRead)
      ∧ (rule.kind.isUnary = true → ∀ inner, rule.content = some inner → inner.PatternsRead) :=
  forall_reaches_iff

theorem patternsRead_blank (kind : rule.kind = .blank) : rule.PatternsRead := by
  rw [patternsRead_iff, kind]
  exact ⟨nofun, nofun, nofun⟩

theorem patternsRead_string (kind : rule.kind = .string) : rule.PatternsRead := by
  rw [patternsRead_iff, kind]
  exact ⟨nofun, nofun, nofun⟩

theorem patternsRead_pattern (kind : rule.kind = .pattern) :
    (Pattern.Piece.read? rule.patternText).isSome = true ↔ rule.PatternsRead := by
  rw [patternsRead_iff, kind]
  simp [Kind.isCompound, Kind.isUnary]

theorem patternsRead_compound (compound : rule.kind.isCompound = true) :
    (∀ member ∈ rule.members, member.PatternsRead) ↔ rule.PatternsRead := by
  rw [patternsRead_iff]
  revert compound
  cases rule.kind <;> simp [Kind.isCompound, Kind.isUnary]

theorem patternsRead_unary (unary : rule.kind.isUnary = true) :
    (∀ inner ∈ rule.content.toList, inner.PatternsRead) ↔ rule.PatternsRead := by
  rw [patternsRead_iff]
  revert unary
  cases rule.kind <;> simp [Kind.isCompound, Kind.isUnary]

end Reaches

section Sources
variable {rule : Rule}

/-- The source of a body as a text. -/
def sourceText (rule : Rule) : List Char := rule.tokenSource.toOption.elim [] String.toList

theorem sourceText_of_ok {source : String} (made : rule.tokenSource = .ok source) :
    rule.sourceText = source.toList := by
  rw [sourceText, made]
  rfl

theorem tokenSource_eq (free : rule.IsSymbolFree) :
    rule.tokenSource = .ok (String.ofList rule.sourceText) := by
  obtain ⟨source, made⟩ := (tokenSource_ok_iff rule).mpr free
  rw [sourceText_of_ok made, String.ofList_toList, made]

theorem tokenSources_eq {rules : List Rule} (free : ∀ rule ∈ rules, rule.IsSymbolFree) :
    rules.mapM tokenSource = .ok (rules.map fun rule => String.ofList rule.sourceText) := by
  induction rules with
  | nil => rfl
  | cons rule rest ih =>
      rw [List.mapM_cons, tokenSource_eq (free rule List.mem_cons_self),
        ih fun other found => free other (List.mem_cons_of_mem _ found)]
      rfl

end Sources

/-- The source of the rule can be read if its patterns can, and no name is taken twice. -/
def IsJudged (rule : Rule) : Prop := Judged rule.sourceText rule.tokenNames rule.PatternsRead

section Kinds
variable {rule : Rule}

theorem IsJudged.of_source {source : List Char} {names : List String} {valid : Prop}
    (judged : Judged source names valid) {made : String} (eq : rule.tokenSource = .ok made)
    (text : made.toList = source) (sameNames : rule.tokenNames = names)
    (same : valid ↔ rule.PatternsRead) : rule.IsJudged := by
  rw [IsJudged, sourceText_of_ok eq, text, sameNames]
  exact Judged.congr same judged

theorem judged_blank (kind : rule.kind = .blank) : rule.IsJudged :=
  .of_source Pattern.isRead_empty.judged (tokenSource_blank kind) rfl (names_blank kind)
    (iff_of_true trivial (patternsRead_blank kind))

theorem judged_string (kind : rule.kind = .string) : rule.IsJudged := by
  refine .of_source (Pattern.text_isRead (rule.text?.getD "").toList).judged
    (tokenSource_string kind) ?_ (names_string kind) (iff_of_true trivial (patternsRead_string kind))
  rw [literalSource, String.toList_ofList]
  rfl

theorem judged_pattern (kind : rule.kind = .pattern) (contained : rule.IsContained) :
    rule.IsJudged := by
  have quiet := contained.quiet rule (.self rule) kind
  have stays : ¬ Escapes (.start {}) rule.patternText := by
    cases valid : Pattern.Piece.read? rule.patternText with
    | none => exact contained.stays rule (.self rule) kind valid
    | some piece => exact quiet.not_escapes (valid ▸ rfl)
  have enclosed := Pattern.enclosed_pattern quiet stays rule.patternFlags.foldCase
  have alone : Pattern.IsMark [] := .inl rfl
  have names : rule.tokenNames = Pattern.groupNames {} rule.patternText := by
    rw [tokenNames_eq, namesOf]
    simp only [kind]
    exact Pattern.groupNames_foldCase _ _
  refine .of_source (enclosed.judged alone) (tokenSource_pattern kind) ?_ names
    (patternsRead_pattern kind)
  rw [patternFlags, patternText]
  by_cases fold : (rule.flags.getD "").toList.contains 'i' = true
  · rw [if_pos fold, fold]
    simp [Pattern.opening, Pattern.closed]
  · rw [if_neg fold, Bool.eq_false_iff.mpr fold]
    simp [Pattern.opening, Pattern.closed, grouped]

theorem judged_seq (kind : rule.kind = .seq) (free : ∀ member ∈ rule.members, member.IsSymbolFree)
    (members : ∀ member ∈ rule.members, member.IsJudged) : rule.IsJudged := by
  have made := tokenSource_seq kind
  rw [tokenSources_eq free] at made
  refine .of_source (Pattern.judged_flatMap members) made ?_ ?_ ?_
  · rw [String.toList_join, List.flatMap_map]
    simp only [String.toList_ofList]
  · rw [tokenNames_eq, namesOf]
    simp only [kind]
    rfl
  · exact patternsRead_compound (kind ▸ rfl)

/-- A group of alternatives with a mark behind it. -/
theorem judged_grouped {items : List Rule} (judged : ∀ item ∈ items, item.IsJudged)
    {mark : String} (fit : Pattern.IsMark mark.toList)
    (made : rule.tokenSource = .ok (grouped
      ("|".intercalate (items.map fun item => String.ofList item.sourceText)) mark))
    (names : rule.tokenNames = items.flatMap tokenNames)
    (same : (∀ item ∈ items, item.PatternsRead) ↔ rule.PatternsRead) : rule.IsJudged := by
  refine .of_source ((Pattern.enclosed_alternatives judged).judged fit) made ?_ names same
  have grouped := grouped_intercalate (items.map sourceText) mark
  rw [List.map_map] at grouped
  exact grouped

theorem judged_choice (kind : rule.kind = .choice)
    (free : ∀ member ∈ rule.members, member.IsSymbolFree)
    (members : ∀ member ∈ rule.members, member.IsJudged) : rule.IsJudged := by
  have made := tokenSource_choice kind
  rw [tokenSources_eq fun member found => free member (List.mem_of_mem_filter found)] at made
  refine judged_grouped (fun member found => members member (List.mem_of_mem_filter found))
    ?_ made ?_ ?_
  · split
    · exact .inr (.inl rfl)
    · exact .inl rfl
  · rw [tokenNames_eq, namesOf]
    simp only [kind]
    exact flatten_names rule.members
  · rw [← patternsRead_compound (kind ▸ rfl), List.forall_mem_filter]
    refine forall₂_congr fun member _ => ?_
    by_cases blank : member.kind = .blank
    · simp [blank, patternsRead_blank blank]
    · simp [blank]

theorem names_unary (unary : rule.kind.isUnary = true) :
    rule.tokenNames = rule.content.toList.flatMap tokenNames := by
  cases held : rule.content with
  | some inner =>
      rw [names_of_content unary held]
      simp
  | none =>
      rw [tokenNames_eq, namesOf, held]
      revert unary
      cases rule.kind <;> simp [Kind.isUnary]

theorem judged_repeated (unary : rule.kind.isUnary = true) {suffix : String}
    (fit : Pattern.IsMark suffix.toList)
    (source : rule.tokenSource = rule.contentSource.map (grouped · suffix))
    (free : ∀ inner ∈ rule.content.toList, inner.IsSymbolFree)
    (content : ∀ inner ∈ rule.content.toList, inner.IsJudged) : rule.IsJudged := by
  refine judged_grouped content fit ?_ (names_unary unary) (patternsRead_unary unary)
  rw [source, contentSource]
  cases held : rule.content with
  | none => rfl
  | some inner =>
      rw [held] at free
      have made := tokenSource_eq (free inner List.mem_cons_self)
      change inner.tokenSource.map (grouped · suffix) = _
      rw [made]
      rfl

theorem judged_wrapper (unary : rule.kind.isUnary = true)
    (source : rule.tokenSource = rule.contentSource)
    (content : ∀ inner ∈ rule.content.toList, inner.IsJudged) : rule.IsJudged := by
  have same := patternsRead_unary unary
  cases held : rule.content with
  | none =>
      have made : rule.tokenSource = .ok "" := by rw [source, contentSource, held]; rfl
      have names : rule.tokenNames = [] := by rw [names_unary unary, held]; rfl
      rw [held] at same
      exact .of_source Pattern.isRead_empty.judged made rfl names
        (iff_of_true trivial (same.mp (by simp)))
  | some inner =>
      rw [contentSource_eq held] at source
      rw [held] at same content
      have text : rule.sourceText = inner.sourceText := by rw [sourceText, source, sourceText]
      rw [IsJudged, text, names_of_content unary held]
      exact (content inner List.mem_cons_self).congr (by simpa using same)

end Kinds

/-- Every contained body is judged by its patterns. -/
theorem IsContained.judged (body : Rule) : body.IsContained → body.IsJudged := by
  induction body using childInduction with
  | step rule ih =>
      intro contained
      -- The parts that are visited are contained as well, so the induction applies to them.
      have members (compound : rule.kind.isCompound = true) (member : Rule)
          (found : member ∈ rule.members) : member.IsContained ∧ member.IsJudged := by
        have inside := contained.member compound found
        exact ⟨inside, ih member (List.mem_append_right _ found) inside⟩
      have content (unary : rule.kind.isUnary = true) (inner : Rule)
          (found : inner ∈ rule.content.toList) : inner.IsContained ∧ inner.IsJudged := by
        have inside := contained.inner unary (Option.mem_toList.mp found)
        exact ⟨inside, ih inner (List.mem_append_left _ found) inside⟩
      cases kind : rule.kind with
      | blank => exact judged_blank kind
      | string => exact judged_string kind
      | pattern => exact judged_pattern kind contained
      | symbol => exact absurd kind (contained.symbolFree rule (.self rule))
      | seq =>
          have inside := members (kind ▸ rfl)
          exact judged_seq kind (fun member found => (inside member found).1.symbolFree)
            fun member found => (inside member found).2
      | choice =>
          have inside := members (kind ▸ rfl)
          exact judged_choice kind (fun member found => (inside member found).1.symbolFree)
            fun member found => (inside member found).2
      | many =>
          have inside := content (kind ▸ rfl)
          exact judged_repeated (kind ▸ rfl) (.inr (.inr (.inl rfl))) (tokenSource_many kind)
            (fun inner found => (inside inner found).1.symbolFree)
            fun inner found => (inside inner found).2
      | many1 =>
          have inside := content (kind ▸ rfl)
          exact judged_repeated (kind ▸ rfl) (.inr (.inr (.inr rfl))) (tokenSource_many1 kind)
            (fun inner found => (inside inner found).1.symbolFree)
            fun inner found => (inside inner found).2
      | prec | precLeft | precRight | precDynamic | field | aliased | token | immediateToken
      | reserved =>
          have unary : rule.kind.isUnary = true := kind ▸ rfl
          have source := tokenSource_wrapper unary (by simp [kind]) (by simp [kind])
          exact judged_wrapper unary source fun inner found => (content unary inner found).2

end Rule

section Matcher
variable {body : Rule}

/-- A body whose patterns do not escape makes a matcher if and only if each of its patterns can be
read on its own, apart from names that are taken twice and from the limits, which no literal has to
keep. If not, the pattern of the whole body is what is reported. -/
theorem tokenMatcher_patternsRead (contained : body.IsContained) (limits : Pattern.Limits)
    (place : String) :
    ((∃ matcher, tokenMatcher limits place body = .ok matcher) ↔
      body.PatternsRead ∧ body.tokenNames.Nodup
        ∧ (body.stringText?.isSome = true ∨ body.KeepsTo limits))
    ∧ ∀ error, tokenMatcher limits place body = .error error →
      ∃ source, body.tokenSource = .ok source ∧ error = .invalidPattern place source := by
  cases held : body.stringText? with
  | some text =>
      have kind := (stringText_eq_some held).1
      have made := @tokenMatcher_string limits place body text held
      rw [Rule.names_string kind, made]
      exact ⟨iff_of_true ⟨_, rfl⟩ ⟨Rule.patternsRead_string kind, List.nodup_nil, .inl rfl⟩, nofun⟩
  | none =>
      -- All that is left to ask is how the pattern of the whole body is judged, which goes by its parts.
      have made := Rule.tokenSource_eq contained.symbolFree
      have whole : (Pattern.Piece.read? (String.ofList body.sourceText).toList).isSome = true ↔
          body.PatternsRead ∧ body.tokenNames.Nodup := by
        rw [String.toList_ofList]
        exact (contained.judged body).whole
      have built := @tokenMatcher_pattern limits place body _ held made
      refine ⟨⟨?_, ?_⟩, ?_⟩
      · rintro ⟨matcher, found⟩
        obtain ⟨piece, read, admitted, _⟩ := built.mp found
        obtain ⟨patterns, distinct⟩ := whole.mp (Option.isSome_iff_exists.mpr ⟨piece, read⟩)
        refine ⟨patterns, distinct, .inr fun source other makes reads => ?_⟩
        obtain rfl := Except.ok.inj (made.symm.trans makes)
        exact Option.some.inj (read.symm.trans reads) ▸ admitted
      · rintro ⟨patterns, distinct, keeps⟩
        obtain ⟨piece, read⟩ := Option.isSome_iff_exists.mp (whole.mpr ⟨patterns, distinct⟩)
        have admitted : limits.admit piece = true := by
          rcases keeps with literal | keeps
          · cases literal
          · exact keeps _ piece made read
        exact ⟨_, built.mpr ⟨piece, read, admitted, rfl⟩⟩
      · intro error failed
        refine ⟨_, made, ?_⟩
        rw [tokenMatcher, held] at failed
        simp only [made] at failed
        split at failed
        · cases failed
        · exact (Except.error.inj failed).symm

end Matcher

/-- A repetition of nothing behind something that could be repeated. -/
def looseStar : Rule := .seq [.pattern "a", .pattern "*"]

theorem reaches_looseStar {node : Rule} (reached : looseStar.Reaches node) :
    node.kind = .seq ∨ node = .pattern "a" ∨ node = .pattern "*" := by
  cases reached with
  | self => exact .inl rfl
  | content unary => cases unary
  | member _ held inside =>
      rcases List.mem_pair.mp held with rfl | rfl <;> cases inside with
      | self => simp
      | member compound => cases compound
      | content unary => cases unary

theorem letter_isQuiet : IsQuiet ['a'] := by
  intro parse reaches
  rcases reaches.of_one rfl with rfl | stepped
  · rfl
  · cases stepped
    rfl

theorem star_isQuiet : IsQuiet ['*'] := by
  intro parse reaches
  rcases reaches.of_one rfl with rfl | stepped
  · rfl
  · cases stepped

/-- A repetition of nothing can be read neither on its own nor in a group. -/
theorem star_stays : ¬ Escapes (.start {}) ['*'] := by
  intro escapes
  cases escapes with
  | closes read => cases read
  | runsOn _ cut => cases cut
  | next read stepped =>
      cases read
      cases stepped

theorem looseStar_isContained : looseStar.IsContained where
  symbolFree node reached := by
    rcases reaches_looseStar reached with kind | rfl | rfl
    · rw [kind]
      exact nofun
    · exact nofun
    · exact nofun
  quiet node reached kind := by
    rcases reaches_looseStar reached with other | rfl | rfl
    · rw [kind] at other
      cases other
    · exact letter_isQuiet
    · exact star_isQuiet
  stays node reached kind unread := by
    rcases reaches_looseStar reached with other | rfl | rfl
    · rw [kind] at other
      cases other
    · cases unread
    · exact star_stays

theorem tokenMatcher_patternsRead_star : looseStar.IsContained
    ∧ tokenMatcher .standard "item" looseStar = .error (.invalidPattern "item" "(?:a)(?:*)") := by
  refine ⟨looseStar_isContained, ?_⟩
  obtain ⟨exact, blamed⟩ := tokenMatcher_patternsRead looseStar_isContained .standard "item"
  cases made : tokenMatcher .standard "item" looseStar with
  | ok matcher =>
      have patterns := (exact.mp ⟨matcher, made⟩).1
      have star := patterns (.pattern "*") (.member rfl (by simp [looseStar, Rule.seq]) (.self _)) rfl
      cases star
  | error error =>
      obtain ⟨source, found, same⟩ := blamed error made
      have whole : looseStar.tokenSource = .ok "(?:a)(?:*)" := by decide +kernel
      rw [same, ← Except.ok.inj (whole.symm.trans found)]

/-- A pattern that cannot be read on its own may close its group and open another one. Then a token is
made of it all the same, and what stands in front of it may be left out of a match. Patterns that can
each be read on their own make no token if they call their groups alike. -/
theorem tokenMatcher_escaped :
    (¬ (Rule.pattern "a)(b").PatternsRead
      ∧ ∃ matcher, tokenMatcher .standard "item" (.pattern "a)(b") = .ok matcher)
    ∧ (∃ matcher, tokenMatcher .standard "item" (.seq [.string "x", .pattern "a)|(b"]) = .ok matcher
      ∧ matcher.length? ['b'] = some 1)
    ∧ (Rule.seq [.pattern "(?P<n>a)", .pattern "(?P<n>b)"]).PatternsRead
    ∧ ¬ ∃ matcher, tokenMatcher .standard "item"
        (.seq [.pattern "(?P<n>a)", .pattern "(?P<n>b)"]) = .ok matcher := by
  refine ⟨⟨?_, by decide +kernel⟩, by decide +kernel, ?_, by decide +kernel⟩
  · intro patterns
    cases (Rule.patternsRead_pattern rfl).mpr patterns
  · apply (Rule.patternsRead_compound rfl).mp
    intro member held
    rcases List.mem_pair.mp held with rfl | rfl <;> exact (Rule.patternsRead_pattern rfl).mp rfl

end Treegram
