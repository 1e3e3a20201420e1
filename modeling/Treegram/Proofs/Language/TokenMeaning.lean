import Treegram.Grammar.Defect
import Treegram.Language.Numbering
import Treegram.Proofs.Language.Steps
import Treegram.Proofs.Language.TokenSource
import Treegram.Proofs.Pattern.Translation

/-!
What tokens mean. Each kind of rule says which texts it stands for, given those of its parts; the
pattern that a token's body amounts to matches these texts, so the matcher of the token takes the
longest of them.
-/

namespace Treegram

open scoped Computability
open Pattern (Part)

namespace Rule

/-- The flags under which a pattern in a rule is read. -/
def patternFlags (rule : Rule) : Pattern.Flags :=
  { foldCase := (rule.flags.getD "").toList.contains 'i' }

/-- The texts of a node from those of its content and of its members. -/
def textsOf (rule : Rule) (content : Option TextSet) (members : List TextSet) : TextSet :=
  let inner := content.getD 1
  match rule.kind with
  | .blank => 1
  | .string => {(rule.text?.getD "").toList}
  | .pattern => Pattern.patternTexts rule.patternFlags (rule.text?.getD "").toList
  | .symbol => 0
  | .seq => members.prod
  | .choice => members.sum
  | .many => inner∗
  | .many1 => inner * inner∗
  | .prec | .precLeft | .precRight | .precDynamic | .field | .aliased | .token | .immediateToken
  | .reserved => inner

/-- The texts that a token's body stands for. -/
def tokenTexts : Rule → TextSet := fold textsOf

theorem tokenTexts_eq (rule : Rule) :
    rule.tokenTexts = rule.textsOf (rule.content.map tokenTexts) (rule.members.map tokenTexts) :=
  fold_eq textsOf rule

/-- The names of a node's groups from those of its content and of its members. -/
def namesOf (rule : Rule) (content : Option (List String)) (members : List (List String)) :
    List String :=
  match rule.kind with
  | .pattern => Pattern.groupNames rule.patternFlags (rule.text?.getD "").toList
  | .seq | .choice => members.flatten
  | .blank | .string | .symbol => []
  | .many | .many1 | .prec | .precLeft | .precRight | .precDynamic | .field | .aliased | .token
  | .immediateToken | .reserved => content.getD []

/-- The names that the patterns in a token's body give to groups, in their order. -/
def tokenNames : Rule → List String := fold namesOf

theorem tokenNames_eq (rule : Rule) :
    rule.tokenNames = rule.namesOf (rule.content.map tokenNames) (rule.members.map tokenNames) :=
  fold_eq namesOf rule

/-- A token's body that has all its parts, has no references, and has patterns that can each be read
on its own. -/
structure IsTokenBody (body : Rule) : Prop where
  complete : ∀ node ∈ body.walk, node.lack? = none
  closed : ∀ node ∈ body.walk, node.isSymbol = false
  patterns : ∀ node ∈ body.walk, node.kind = .pattern →
    Pattern.IsPlain node.patternFlags (node.text?.getD "").toList

theorem mem_walk_self (rule : Rule) : rule ∈ rule.walk := by
  rw [walk_eq]
  exact List.mem_cons_self

theorem mem_walk_child {rule child node : Rule} (found : child ∈ rule.children)
    (inside : node ∈ child.walk) : node ∈ rule.walk := by
  rw [walk_eq]
  exact List.mem_cons_of_mem _ (List.mem_flatMap.mpr ⟨child, found, inside⟩)

theorem IsTokenBody.child {body child : Rule} (token : body.IsTokenBody)
    (found : child ∈ body.children) : child.IsTokenBody where
  complete node inside := token.complete node (mem_walk_child found inside)
  closed node inside := token.closed node (mem_walk_child found inside)
  patterns node inside := token.patterns node (mem_walk_child found inside)

theorem content_of_complete {rule : Rule} (unary : rule.kind.isUnary = true)
    (complete : rule.lack? = none) : ∃ inner, rule.content = some inner := by
  cases held : rule.content with
  | some inner => exact ⟨inner, rfl⟩
  | none => grind [lack?, Kind.isUnary]

theorem names_of_content {rule inner : Rule} (unary : rule.kind.isUnary = true)
    (held : rule.content = some inner) : rule.tokenNames = inner.tokenNames := by
  rw [tokenNames_eq, namesOf, held]
  revert unary
  cases rule.kind with
  | blank | string | pattern | symbol | choice | seq => exact nofun
  | many | many1 | prec | precLeft | precRight | precDynamic | field | aliased | token
  | immediateToken | reserved => exact fun _ => rfl

theorem names_blank {rule : Rule} (kind : rule.kind = .blank) : rule.tokenNames = [] := by
  rw [tokenNames_eq, namesOf]
  simp only [kind]

theorem names_string {rule : Rule} (kind : rule.kind = .string) : rule.tokenNames = [] := by
  rw [tokenNames_eq, namesOf]
  simp only [kind]

theorem members_of_complete {rule : Rule} (kind : rule.kind = .choice)
    (complete : rule.lack? = none) : rule.members ≠ [] := by
  intro none
  rw [lack?, kind, none] at complete
  cases complete

/-- The source of a rule is a part that stands for the rule's texts. -/
def IsTranslated (rule : Rule) : Prop :=
  ∃ part : Part, part.IsRead ∧ rule.tokenSource = .ok (String.ofList part.source)
    ∧ part.texts = rule.tokenTexts ∧ part.names = rule.tokenNames

/-- The sources of all rules, as parts that stand for their texts. -/
theorem parts_of {rules : List Rule} (each : ∀ rule ∈ rules, rule.IsTranslated) :
    ∃ parts : List Part, (∀ part ∈ parts, part.IsRead)
      ∧ rules.mapM tokenSource = .ok (parts.map fun part => String.ofList part.source)
      ∧ parts.map (·.texts) = rules.map tokenTexts ∧ parts.map (·.names) = rules.map tokenNames := by
  induction rules with
  | nil => exact ⟨[], nofun, rfl, rfl, rfl⟩
  | cons rule rest ih =>
      obtain ⟨part, read, source, texts, names⟩ := each rule List.mem_cons_self
      obtain ⟨parts, reads, sources, allTexts, allNames⟩ :=
        ih fun other found => each other (List.mem_cons_of_mem _ found)
      refine ⟨part :: parts, List.forall_mem_cons.mpr ⟨read, reads⟩, ?_, ?_, ?_⟩
      · rw [List.mapM_cons, source, sources]
        rfl
      · rw [List.map_cons, List.map_cons, texts, allTexts]
      · rw [List.map_cons, List.map_cons, names, allNames]

section Kinds
variable {rule : Rule}

theorem IsTranslated.of_source {part : Part} {source : String} (read : part.IsRead)
    (made : rule.tokenSource = .ok source) (same : source.toList = part.source)
    (texts : part.texts = rule.tokenTexts) (names : part.names = rule.tokenNames) :
    rule.IsTranslated := by
  refine ⟨part, read, ?_, texts, names⟩
  rw [made, ← same, String.ofList_toList]

theorem translated_blank (kind : rule.kind = .blank) : rule.IsTranslated := by
  refine .of_source Pattern.isRead_empty (tokenSource_blank kind) rfl ?_ (names_blank kind).symm
  rw [tokenTexts_eq, textsOf]
  simp only [kind]

theorem translated_string (kind : rule.kind = .string) : rule.IsTranslated := by
  refine .of_source (Pattern.text_isRead (rule.text?.getD "").toList) (tokenSource_string kind) ?_ ?_
    (names_string kind).symm
  · rw [literalSource, String.toList_ofList]
    rfl
  · rw [tokenTexts_eq, textsOf]
    simp only [kind]

theorem translated_pattern (kind : rule.kind = .pattern)
    (plain : Pattern.IsPlain rule.patternFlags (rule.text?.getD "").toList) :
    rule.IsTranslated := by
  have texts : rule.tokenTexts =
      Pattern.patternTexts rule.patternFlags (rule.text?.getD "").toList := by
    rw [tokenTexts_eq, textsOf]
    simp only [kind]
  have names : rule.tokenNames =
      Pattern.groupNames rule.patternFlags (rule.text?.getD "").toList := by
    rw [tokenNames_eq, namesOf]
    simp only [kind]
  have made := tokenSource_pattern kind
  have read := (Pattern.pattern_isPiece plain).isRead
  by_cases fold : (rule.flags.getD "").toList.contains 'i' = true
  · rw [if_pos fold] at made
    refine .of_source read made ?_ texts.symm names.symm
    rw [fold, String.toList_append, String.toList_append, List.append_assoc]
    rfl
  · rw [if_neg fold] at made
    refine .of_source read made ?_ texts.symm names.symm
    rw [Bool.eq_false_iff.mpr fold, grouped, String.toList_append, String.toList_append,
      String.toList_append, List.append_assoc, List.append_assoc]
    rfl

theorem translated_seq (kind : rule.kind = .seq)
    (members : ∀ member ∈ rule.members, member.IsTranslated) : rule.IsTranslated := by
  obtain ⟨parts, reads, sources, texts, names⟩ := parts_of members
  have made : rule.tokenSource =
      .ok (String.join (parts.map fun part => String.ofList part.source)) := by
    rw [tokenSource_seq kind, sources]
    rfl
  refine .of_source (Pattern.inOrder_isRead reads) made ?_ ?_ ?_
  · rw [String.toList_join, List.flatMap_map]
    simp only [String.toList_ofList]
    rfl
  · rw [tokenTexts_eq, textsOf]
    simp only [kind]
    rw [Pattern.inOrder, texts]
  · rw [tokenNames_eq, namesOf]
    simp only [kind]
    rw [Pattern.inOrder, names]

theorem grouped_toList (parts : List Part) (suffix : String) :
    (grouped ("|".intercalate (parts.map fun part => String.ofList part.source)) suffix).toList =
      (Pattern.anyOf parts).source ++ suffix.toList := by
  have grouped := grouped_intercalate (parts.map (·.source)) suffix
  rw [List.map_map] at grouped
  refine grouped.trans ?_
  rw [Pattern.anyOf, Pattern.barred, List.append_assoc, List.append_assoc]
  rfl

/-- Empty alternatives add the empty text, once for all. -/
theorem sum_texts (members : List Rule) :
    (members.map tokenTexts).sum = ((members.filter (·.kind != .blank)).map tokenTexts).sum
      + if members.any (·.kind == .blank) then 1 else 0 := by
  induction members with
  | nil => exact (add_zero _).symm
  | cons member rest ih =>
      rw [List.map_cons, List.sum_cons, ih, List.any_cons]
      by_cases blank : member.kind = .blank
      · have texts : member.tokenTexts = 1 := by
          rw [tokenTexts_eq, textsOf]
          simp only [blank]
        have here : (member.kind == .blank) = true := beq_iff_eq.mpr blank
        rw [List.filter_cons_of_neg (by simp [blank]), here, texts, Bool.true_or, if_pos rfl,
          add_left_comm]
        split
        · rw [add_idem]
        · rw [add_zero]
      · have other : (member.kind == .blank) = false := beq_false_of_ne blank
        rw [List.filter_cons_of_pos (by simp [blank]), other, Bool.false_or, List.map_cons,
          List.sum_cons, add_assoc]

theorem flatten_names (members : List Rule) :
    (members.map tokenNames).flatten =
      ((members.filter (·.kind != .blank)).map tokenNames).flatten := by
  induction members with
  | nil => rfl
  | cons member rest ih =>
      rw [List.map_cons, List.flatten_cons, ih]
      by_cases blank : member.kind = .blank
      · rw [List.filter_cons_of_neg (by simp [blank]), names_blank blank]
        rfl
      · rw [List.filter_cons_of_pos (by simp [blank]), List.map_cons, List.flatten_cons]

theorem choice_source (kind : rule.kind = .choice) {parts : List Part}
    (sources : (rule.members.filter (·.kind != .blank)).mapM tokenSource =
      .ok (parts.map fun part => String.ofList part.source)) :
    rule.tokenSource = .ok (grouped
      ("|".intercalate (parts.map fun part => String.ofList part.source))
      (if rule.members.any (·.kind == .blank) then "?" else "")) := by
  rw [tokenSource_choice kind, sources]
  rfl

theorem choice_texts (kind : rule.kind = .choice) {parts : List Part}
    (texts : parts.map (·.texts) = (rule.members.filter (·.kind != .blank)).map tokenTexts) :
    rule.tokenTexts =
      Pattern.allTexts parts + if rule.members.any (·.kind == .blank) then 1 else 0 := by
  rw [tokenTexts_eq, textsOf]
  simp only [kind]
  rw [sum_texts, ← texts]
  rfl

theorem choice_names (kind : rule.kind = .choice) {parts : List Part}
    (names : parts.map (·.names) = (rule.members.filter (·.kind != .blank)).map tokenNames) :
    rule.tokenNames = Pattern.allNames parts := by
  rw [tokenNames_eq, namesOf]
  simp only [kind]
  rw [flatten_names, ← names]
  rfl

theorem any_blank_of_filter {members : List Rule} (some : members ≠ [])
    (none : members.filter (·.kind != .blank) = []) :
    members.any (·.kind == .blank) = true := by
  obtain ⟨member, rest, rfl⟩ := List.exists_cons_of_ne_nil some
  have dropped := List.filter_eq_nil_iff.mp none member List.mem_cons_self
  rw [List.any_cons, Bool.or_eq_true]
  exact Or.inl (by simpa using dropped)

theorem translated_choice (kind : rule.kind = .choice) (some : rule.members ≠ [])
    (members : ∀ member ∈ rule.members, member.IsTranslated) : rule.IsTranslated := by
  obtain ⟨parts, reads, sources, texts, names⟩ :=
    parts_of fun member found => members member (List.mem_of_mem_filter found)
  have made := choice_source kind sources
  have sameTexts := choice_texts kind texts
  have sameNames := choice_names kind names
  cases parts with
  | nil =>
      -- Nothing but empty alternatives: the group has one that is empty, and may be left out.
      have none := List.map_eq_nil_iff.mp texts.symm
      rw [any_blank_of_filter some none, if_pos rfl] at made sameTexts
      have group := Pattern.anyOf_isPiece ⟨[], 1, []⟩ []
        (List.forall_mem_singleton.mpr Pattern.isRead_empty)
      refine .of_source group.optional made rfl ?_ sameNames.symm
      rw [sameTexts]
      change (1 + 0 : TextSet) + 1 = 0 + 1
      rw [add_zero, zero_add, add_idem]
  | cons part rest =>
      have group := Pattern.anyOf_isPiece part rest reads
      by_cases blank : rule.members.any (·.kind == .blank) = true
      · rw [if_pos blank] at made sameTexts
        exact .of_source group.optional made (grouped_toList (part :: rest) "?") sameTexts.symm
          sameNames.symm
      · rw [if_neg blank] at made sameTexts
        rw [add_zero] at sameTexts
        refine .of_source group.isRead made ?_ sameTexts.symm sameNames.symm
        exact (grouped_toList (part :: rest) "").trans (List.append_nil _)

theorem grouped_one (part : Part) (suffix : String) :
    (grouped (String.ofList part.source) suffix).toList =
      (Pattern.anyOf [part]).source ++ suffix.toList := by
  rw [← grouped_toList]
  rfl

/-- A repetition is the group of its content with a mark behind it. -/
theorem translated_repeated {inner : Rule} (suffix : String) (again : TextSet → TextSet)
    (content : inner.IsTranslated)
    (marked : ∀ group : Part, group.IsPiece →
      Part.IsRead ⟨group.source ++ suffix.toList, again group.texts, group.names⟩)
    (source : rule.tokenSource = inner.tokenSource.map (grouped · suffix))
    (texts : rule.tokenTexts = again inner.tokenTexts)
    (names : rule.tokenNames = inner.tokenNames) : rule.IsTranslated := by
  obtain ⟨part, read, innerSource, innerTexts, innerNames⟩ := content
  have group := Pattern.anyOf_isPiece part [] (List.forall_mem_singleton.mpr read)
  rw [innerSource] at source
  refine .of_source (marked _ group) source (grouped_one part suffix) ?_ ?_
  · rw [texts, Pattern.anyOf, Pattern.allTexts_one, innerTexts]
  · rw [names, Pattern.anyOf, Pattern.allNames_one, innerNames]

/-- The other wrappers stand for what their content stands for. -/
theorem translated_wrapper {inner : Rule} (content : inner.IsTranslated)
    (source : rule.tokenSource = inner.tokenSource) (texts : rule.tokenTexts = inner.tokenTexts)
    (names : rule.tokenNames = inner.tokenNames) : rule.IsTranslated := by
  rw [IsTranslated, source, texts, names]
  exact content

end Kinds

/-- Every token's body is translated to a pattern for its texts. -/
theorem IsTokenBody.translated (body : Rule) : body.IsTokenBody → body.IsTranslated := by
  induction body using childInduction with
  | step rule ih =>
      intro token
      have complete := token.complete rule rule.mem_walk_self
      -- What is well-formed has well-formed children, to which the induction applies.
      have members (member : Rule) (found : member ∈ rule.members) : member.IsTranslated := by
        have child : member ∈ rule.children := List.mem_append_right _ found
        exact ih member child (token.child child)
      have content (unary : rule.kind.isUnary = true) :
          ∃ inner, rule.content = some inner ∧ inner.IsTranslated
            ∧ rule.tokenNames = inner.tokenNames := by
        obtain ⟨inner, held⟩ := content_of_complete unary complete
        have child : inner ∈ rule.children :=
          List.mem_append_left _ (Option.mem_toList.mpr held)
        exact ⟨inner, held, ih inner child (token.child child), names_of_content unary held⟩
      cases kind : rule.kind with
      | blank => exact translated_blank kind
      | string => exact translated_string kind
      | pattern => exact translated_pattern kind (token.patterns rule rule.mem_walk_self kind)
      | symbol =>
          have closed := token.closed rule rule.mem_walk_self
          rw [isSymbol, kind] at closed
          cases closed
      | seq => exact translated_seq kind members
      | choice => exact translated_choice kind (members_of_complete kind complete) members
      | many =>
          obtain ⟨inner, held, inside, names⟩ := content (kind ▸ rfl)
          refine translated_repeated "*" (·∗) inside (fun _ single => single.many) ?_ ?_ names
          · rw [tokenSource_many kind, contentSource_eq held]
          · rw [tokenTexts_eq, textsOf]
            simp only [kind, held]
            rfl
      | many1 =>
          obtain ⟨inner, held, inside, names⟩ := content (kind ▸ rfl)
          refine translated_repeated "+" (fun texts => texts * texts∗) inside
            (fun _ single => single.many1) ?_ ?_ names
          · rw [tokenSource_many1 kind, contentSource_eq held]
          · rw [tokenTexts_eq, textsOf]
            simp only [kind, held]
            rfl
      | prec | precLeft | precRight | precDynamic | field | aliased | token | immediateToken
      | reserved =>
          obtain ⟨inner, held, inside, names⟩ := content (kind ▸ rfl)
          refine translated_wrapper inside ?_ ?_ names
          · rw [tokenSource_wrapper (by rw [kind]; rfl) (by simp [kind]) (by simp [kind]),
              contentSource_eq held]
          · rw [tokenTexts_eq, textsOf]
            simp only [kind, held]
            rfl

/-- Whether the pattern of a body keeps to the limits, if there is a pattern. -/
def KeepsTo (limits : Pattern.Limits) (body : Rule) : Prop :=
  ∀ source piece, body.tokenSource = .ok source → Pattern.Piece.read? source.toList = some piece →
    limits.admit piece = true

end Rule

open Pattern (AnswersLongest IsLongestFront)

section Matcher
variable {limits : Pattern.Limits} {place : String} {body : Rule}

/-- A literal takes its own text or nothing. -/
theorem literal_exact (wanted : String) (input : List Char) :
    AnswersLongest {wanted.toList} input ((Matcher.literal wanted).length? input) := by
  rw [Matcher.length?]
  split
  · rename_i found
    obtain ⟨solid, front⟩ := found
    have front : wanted.toList <+: input := List.isPrefixOf_iff_prefix.mp front
    refine ⟨wanted.toList, solid, ⟨front, rfl, ?_⟩, rfl⟩
    rintro other _ rfl
    exact Nat.le_refl _
  · rename_i missing
    rintro front fits rfl
    by_contra solid
    exact missing ⟨solid, List.isPrefixOf_iff_prefix.mpr fits⟩

theorem tokenMatcher_string {text : String} (held : body.stringText? = some text) :
    tokenMatcher limits place body = .ok (.literal text) := by
  rw [tokenMatcher, held]

theorem tokenMatcher_pattern {source : String} (other : body.stringText? = none)
    (made : body.tokenSource = .ok source) {matcher : Matcher} :
    tokenMatcher limits place body = .ok matcher ↔
      ∃ piece, Pattern.Piece.read? source.toList = some piece ∧ limits.admit piece = true
        ∧ Matcher.pattern source piece.expr.term = matcher := by
  rw [tokenMatcher, other]
  simp only [made]
  rw [Matcher.ofPattern?, Pattern.Term.read?]
  cases Pattern.Piece.read? source.toList with
  | none => simp
  | some piece => cases admitted : limits.admit piece <;> simp [admitted]

/-- A matcher that is made of a source has the term that the source is read as. -/
theorem tokenMatcher_read {source : String} {piece : Pattern.Piece} (other : body.stringText? = none)
    (translated : body.tokenSource = .ok source)
    (read : Pattern.Piece.read? source.toList = some piece) {matcher : Matcher}
    (made : tokenMatcher limits place body = .ok matcher) :
    matcher = .pattern source piece.expr.term := by
  obtain ⟨same, there, _, rfl⟩ := (tokenMatcher_pattern other translated).mp made
  obtain rfl := Option.some.inj (there.symm.trans read)
  rfl

theorem stringText_eq_some {text : String} (held : body.stringText? = some text) :
    body.kind = .string ∧ body.text? = some text := by
  rw [Rule.stringText?] at held
  split at held
  · rename_i kind
    exact ⟨kind, held⟩
  · cases held

theorem string_texts {text : String} (held : body.stringText? = some text) :
    body.tokenTexts = {text.toList} := by
  obtain ⟨kind, value⟩ := stringText_eq_some held
  rw [Rule.tokenTexts_eq, Rule.textsOf]
  simp only [kind, value]
  rfl

theorem Rule.IsTokenBody.not_string (token : body.IsTokenBody) (none : body.stringText? = none) :
    body.kind ≠ .string := by
  intro kind
  have complete := token.complete body body.mem_walk_self
  rw [Rule.stringText?, if_pos kind] at none
  rw [Rule.lack?, kind, none] at complete
  cases complete

/-- The pattern that a body amounts to can be read unless two of its groups have the same name, and
then it matches the texts of the body. -/
theorem Rule.IsTranslated.source_exact (translated : body.IsTranslated) :
    ∃ source, body.tokenSource = .ok source
      ∧ ((Pattern.Piece.read? source.toList).isSome ↔ body.tokenNames.Nodup)
      ∧ ∀ piece, Pattern.Piece.read? source.toList = some piece →
        piece.expr.texts = body.tokenTexts ∧ piece.expr.asserts = false := by
  obtain ⟨part, read, made, texts, names⟩ := translated
  refine ⟨_, made, ?_⟩
  rw [String.toList_ofList, ← texts, ← names]
  by_cases distinct : part.names.Nodup
  · obtain ⟨whole, readWhole, exact⟩ := read.whole distinct
    rw [readWhole]
    refine ⟨iff_of_true rfl distinct, ?_⟩
    rintro piece same
    exact Option.some.inj same ▸ exact
  · rw [read.not_whole distinct]
    exact ⟨iff_of_false Bool.false_ne_true distinct, nofun⟩

/-- The matcher of a token takes the longest text, not an empty one, that the token stands for.
There is one unless two groups have the same name or the pattern goes beyond the limits. -/
theorem tokenMatcher_exact (token : body.IsTokenBody) (limits : Pattern.Limits) (place : String) :
    (∀ matcher, tokenMatcher limits place body = .ok matcher →
      ∀ input, AnswersLongest body.tokenTexts input (matcher.length? input))
    ∧ ((∃ matcher, tokenMatcher limits place body = .ok matcher) ↔
      body.kind = .string ∨ body.tokenNames.Nodup ∧ body.KeepsTo limits) := by
  cases held : body.stringText? with
  | some text =>
      have kind := (stringText_eq_some held).1
      have made := @tokenMatcher_string limits place body text held
      refine ⟨fun matcher built input => ?_, fun _ => Or.inl kind, fun _ => ⟨_, made⟩⟩
      obtain rfl := Except.ok.inj (made.symm.trans built)
      rw [string_texts held]
      exact literal_exact text input
  | none =>
      -- What is no literal goes through the pattern, which stands for the same texts.
      obtain ⟨source, made, readable, exact⟩ := (token.translated body).source_exact
      have built := @tokenMatcher_pattern limits place body source held made
      rw [or_iff_right (token.not_string held)]
      refine ⟨fun matcher found input => ?_, ?_, ?_⟩
      · obtain ⟨piece, read, _, rfl⟩ := built.mp found
        obtain ⟨texts, asserts⟩ := exact piece read
        rw [← texts]
        exact Pattern.Term.longest?_exact asserts input
      · rintro ⟨matcher, found⟩
        obtain ⟨piece, read, admitted, _⟩ := built.mp found
        refine ⟨readable.mp (Option.isSome_iff_exists.mpr ⟨piece, read⟩), ?_⟩
        intro another other makes reads
        obtain rfl := Except.ok.inj (made.symm.trans makes)
        exact Option.some.inj (read.symm.trans reads) ▸ admitted
      · rintro ⟨distinct, keeps⟩
        obtain ⟨piece, read⟩ := Option.isSome_iff_exists.mp (readable.mpr distinct)
        exact ⟨_, built.mpr ⟨piece, read, keeps source piece made read, rfl⟩⟩

end Matcher

/-- A digit and perhaps an `x`. -/
def digitBody : Rule :=
  { kind := .seq
    members :=
      [{ kind := .pattern, value := some (.text "[0-9]") },
        { kind := .choice
          members := [{ kind := .string, value := some (.text "x") }, { kind := .blank }] }] }

theorem digit_isPlain : Pattern.IsPlain {} "[0-9]".toList := by
  refine ⟨⟨_, rfl, rfl⟩, fun parse reaches => ?_⟩
  rcases reaches.of_one rfl with rfl | stepped
  · rfl
  · cases stepped
    rfl

theorem digitBody_isTokenBody : digitBody.IsTokenBody := by
  have walk : digitBody.walk =
      [digitBody, { kind := .pattern, value := some (.text "[0-9]") },
        { kind := .choice
          members := [{ kind := .string, value := some (.text "x") }, { kind := .blank }] },
        { kind := .string, value := some (.text "x") }, { kind := .blank }] := rfl
  refine ⟨?_, ?_, ?_⟩
  · rw [walk]
    decide
  · rw [walk]
    decide
  · rw [walk]
    simp only [List.forall_mem_cons, List.not_mem_nil, false_imp_iff, implies_true, and_true]
    exact ⟨nofun, fun _ => digit_isPlain, nofun, nofun, nofun⟩

theorem tokenMatcher_exact_digit : ∃ matcher,
    tokenMatcher .standard "digit" digitBody = .ok matcher
      ∧ matcher.length? ['7', 'x', 'x'] = some 2
      ∧ AnswersLongest digitBody.tokenTexts ['7', 'x', 'x'] (matcher.length? ['7', 'x', 'x']) := by
  obtain ⟨exact, _⟩ := tokenMatcher_exact digitBody_isTokenBody .standard "digit"
  obtain ⟨matcher, made, answer⟩ : ∃ matcher,
      tokenMatcher .standard "digit" digitBody = .ok matcher
        ∧ matcher.length? ['7', 'x', 'x'] = some 2 := by decide +kernel
  exact ⟨matcher, made, answer, exact matcher made _⟩

end Treegram
