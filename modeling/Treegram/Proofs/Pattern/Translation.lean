import Treegram.Proofs.Pattern.Reading
import Treegram.Language.TokenSource

/-!
Sources that are put together from parts. A part is read wherever it stands, as pieces whose texts
one after the other are those of the part; parts side by side, alternatives in a group, and
repeated groups are parts again.
-/

namespace Treegram.Pattern

open scoped Computability

/-- Pieces without assertions that match these texts, one piece behind the other. -/
structure Spells (texts : TextSet) (pieces : List Piece) : Prop where
  texts : (pieces.reverse.map (·.expr.texts)).prod = texts
  asserts : ∀ piece ∈ pieces, piece.expr.asserts = false
  honest : ∀ piece ∈ pieces, piece.expr.IsHonest

theorem spells_nil : Spells 1 [] := ⟨rfl, nofun, nofun⟩

theorem Piece.Matches.spells {texts : TextSet} {piece : Piece} (fits : piece.Matches texts) :
    Spells texts [piece] := by
  refine ⟨?_, List.forall_mem_singleton.mpr fits.asserts, List.forall_mem_singleton.mpr fits.honest⟩
  rw [List.reverse_singleton, List.map_singleton, List.prod_singleton, fits.texts]

theorem Spells.append {left right : TextSet} {first second : List Piece} (spells : Spells left first)
    (further : Spells right second) : Spells (left * right) (second ++ first) := by
  refine ⟨?_, ?_, ?_⟩
  · rw [List.reverse_append, List.map_append, List.prod_append, spells.texts, further.texts]
  · exact List.forall_mem_append.mpr ⟨further.asserts, spells.asserts⟩
  · exact List.forall_mem_append.mpr ⟨further.honest, spells.honest⟩

/-- A part of a source, with the texts that it stands for and the names that it gives to groups. -/
structure Part where
  source : List Char
  texts : TextSet
  names : List String

theorem head_ne {c : Char} (other : c ≠ '?') (tail : List Char) : (c :: tail).head? ≠ some '?' :=
  fun same => other (Option.some.inj same)

/-- A part is read in front of everything that does not begin with a question mark, which would make
a repetition lazy; reading it fails if a name is taken twice. -/
structure Part.IsRead (part : Part) : Prop where
  head : part.source.head? ≠ some '?'
  reads : ∀ (parse : Parse) (tail : List Char), parse.group.flags = {} → tail.head? ≠ some '?' →
    (part.names.reverse ++ parse.names).Nodup →
      ∃ count pieces counted, count ≤ part.source.length
        ∧ Reads count parse (part.source ++ tail)
          (parse.extended pieces part.names.reverse counted) tail
        ∧ Spells part.texts pieces
  fails : ∀ (parse : Parse) (tail : List Char), parse.group.flags = {} → tail.head? ≠ some '?' →
    parse.names.Nodup → ¬ (part.names.reverse ++ parse.names).Nodup →
      Fails parse (part.source ++ tail)

/-- A part that is read as a single piece, whatever follows. -/
structure Part.IsPiece (part : Part) : Prop where
  begins : ∃ c ≠ '?', ∃ rest, part.source = c :: rest
  reads : ∀ (parse : Parse) (tail : List Char), parse.group.flags = {} →
    (part.names.reverse ++ parse.names).Nodup →
      ∃ count piece counted, count ≤ part.source.length
        ∧ Reads count parse (part.source ++ tail)
          (parse.extended [piece] part.names.reverse counted) tail
        ∧ piece.Matches part.texts
  fails : ∀ (parse : Parse) (tail : List Char), parse.group.flags = {} →
    parse.names.Nodup → ¬ (part.names.reverse ++ parse.names).Nodup →
      Fails parse (part.source ++ tail)

theorem Part.IsPiece.head {part : Part} (single : part.IsPiece) : part.source.head? ≠ some '?' := by
  obtain ⟨c, solid, rest, source⟩ := single.begins
  rw [source]
  exact head_ne solid rest

theorem Part.IsPiece.isRead {part : Part} (single : part.IsPiece) : part.IsRead := by
  refine ⟨single.head, fun parse tail plain _ distinct => ?_, fun parse tail plain _ =>
    single.fails parse tail plain⟩
  obtain ⟨count, piece, counted, le, reads, fits⟩ := single.reads parse tail plain distinct
  exact ⟨count, [piece], counted, le, reads, fits.spells⟩

theorem isRead_empty : Part.IsRead ⟨[], 1, []⟩ := by
  refine ⟨nofun, fun parse tail plain _ _ => ?_, fun parse tail _ _ distinct twice => ?_⟩
  · have plain : parse.group.flags.verbose = false := by rw [plain]
    exact ⟨0, [], parse.counted, Nat.le_refl 0, .done plain tail, spells_nil⟩
  · exact absurd distinct twice

/-- Parts side by side. -/
def Part.append (first second : Part) : Part :=
  ⟨first.source ++ second.source, first.texts * second.texts, first.names ++ second.names⟩

theorem head_append {left right : List Char} (first : left.head? ≠ some '?')
    (second : right.head? ≠ some '?') : (left ++ right).head? ≠ some '?' := by
  cases left with
  | nil => exact second
  | cons c left => exact first

theorem Part.IsRead.append {first second : Part} (one : first.IsRead) (two : second.IsRead) :
    (first.append second).IsRead := by
  refine ⟨head_append one.head two.head, fun parse tail plain noMark distinct => ?_,
    fun parse tail plain noMark before twice => ?_⟩
  · rw [Part.append, List.reverse_append, List.append_assoc] at distinct
    obtain ⟨count, pieces, counted, le, reads, spells⟩ :=
      one.reads parse (second.source ++ tail) plain (head_append two.head noMark)
        (List.nodup_append.mp distinct).2.1
    -- The second part is read where the first one has left off, with its names taken.
    obtain ⟨count', pieces', counted', le', reads', spells'⟩ :=
      two.reads (parse.extended pieces first.names.reverse counted) tail plain noMark distinct
    refine ⟨count + count', pieces' ++ pieces, counted', ?_, ?_, spells.append spells'⟩
    · rw [Part.append, List.length_append]
      exact Nat.add_le_add le le'
    · have both := reads.trans reads'
      rw [Part.append, List.append_assoc]
      rw [Parse.extended, Parse.extended] at both
      simpa only [Parse.extended, List.append_assoc, List.reverse_append] using both
  · rw [Part.append, List.reverse_append, List.append_assoc] at twice
    rw [Part.append, List.append_assoc]
    by_cases distinct : (first.names.reverse ++ parse.names).Nodup
    · obtain ⟨count, pieces, counted, _, reads, _⟩ :=
        one.reads parse (second.source ++ tail) plain (head_append two.head noMark) distinct
      exact reads.fails (two.fails _ tail plain noMark distinct twice)
    · exact one.fails parse _ plain (head_append two.head noMark) before distinct

/-- The texts of all parts one after the other. -/
def inOrder (parts : List Part) : Part :=
  ⟨(parts.map (·.source)).flatten, (parts.map (·.texts)).prod, (parts.map (·.names)).flatten⟩

theorem inOrder_isRead {parts : List Part} (read : ∀ part ∈ parts, part.IsRead) :
    (inOrder parts).IsRead := by
  induction parts with
  | nil => exact isRead_empty
  | cons part rest ih =>
      have behind := ih fun each found => read each (List.mem_cons_of_mem _ found)
      exact (read part List.mem_cons_self).append behind

section Literals

/-- One character as it is. -/
theorem literal_matches (c : Char) : Piece.Matches {[c]} { expr := literal {} c } := by
  refine ⟨?_, rfl, Expr.honest_chars _, rfl⟩
  ext text
  constructor
  · rintro ⟨d, held, rfl⟩
    rw [CharSet.has_one.mp held]
    rfl
  · rintro rfl
    exact ⟨c, CharSet.has_one.mpr rfl, rfl⟩

theorem read_escaped {c : Char} (special : isMeta c = true) (rest : List Char) :
    Lexeme.read? {} ('\\' :: c :: rest) = some (.piece (literal {} c) 0, rest) := by
  have escape : Escape.read? {} (c :: rest) = some (.char c, rest) := by
    rw [isMeta, List.contains_iff_mem] at special
    simp only [List.mem_cons, List.not_mem_nil, or_false] at special
    rcases special with rfl | rfl | rfl | rfl | rfl | rfl | rfl | rfl | rfl | rfl | rfl | rfl | rfl
      | rfl | rfl | rfl | rfl | rfl <;> rfl
  rw [Lexeme.read?]
  simp only [escape]
  rfl

theorem read_ordinary {c : Char} (ordinary : isMeta c = false) (rest : List Char) :
    Lexeme.read? {} (c :: rest) = some (.piece (literal {} c) 0, rest) := by
  unfold Lexeme.read?
  simp only
  split
  case h_13 => rfl
  all_goals cases ordinary

/-- A character as it is written in a source. -/
def escaped (c : Char) : List Char := if isMeta c then ['\\', c] else [c]

theorem character_isPiece (c : Char) : Part.IsPiece ⟨escaped c, {[c]}, []⟩ := by
  have reads (parse : Parse) (tail : List Char) (plain : parse.group.flags = {}) :
      Reads 1 parse (escaped c ++ tail)
        (parse.extended [{ expr := literal {} c }] [] parse.counted) tail := by
    have quiet : parse.group.flags.verbose = false := by rw [plain]
    have stepped : parse.step? (.piece (literal {} c) 0) =
        some (parse.extended [{ expr := literal {} c }] [] parse.counted) := rfl
    refine .one quiet ?_ stepped quiet
    rw [plain, escaped]
    split
    · rename_i special
      exact read_escaped special tail
    · rename_i ordinary
      exact read_ordinary (Bool.eq_false_iff.mpr ordinary) tail
  refine ⟨?_, fun parse tail plain _ => ?_, fun parse tail _ distinct twice => ?_⟩
  · change ∃ d ≠ '?', ∃ rest, escaped c = d :: rest
    rw [escaped]
    split
    · exact ⟨'\\', by decide, [c], rfl⟩
    · rename_i ordinary
      refine ⟨c, ?_, [], rfl⟩
      rintro rfl
      exact ordinary rfl
  · refine ⟨1, _, _, ?_, reads parse tail plain, literal_matches c⟩
    change 1 ≤ (escaped c).length
    rw [escaped]
    split <;> exact Nat.succ_pos _
  · exact absurd distinct twice

theorem singleton_mul (c : Char) (text : List Char) :
    ({[c]} : TextSet) * {text} = {c :: text} := by
  ext joined
  rw [Language.mem_mul]
  constructor
  · rintro ⟨_, rfl, _, rfl, rfl⟩
    rfl
  · rintro rfl
    exact ⟨[c], rfl, text, rfl, rfl⟩

/-- A text as it is written in a source. -/
theorem text_isRead (text : List Char) : Part.IsRead ⟨text.flatMap escaped, {text}, []⟩ := by
  induction text with
  | nil => exact isRead_empty
  | cons c text ih =>
      have both := (character_isPiece c).isRead.append ih
      rw [Part.append, singleton_mul] at both
      rw [List.flatMap_cons]
      exact both

end Literals

section Groups

theorem not_nodup_of_clash {names taken : List String} (distinct : names.Nodup) (before : taken.Nodup)
    (twice : ¬ (names.reverse ++ taken).Nodup) : ∃ name ∈ names, name ∈ taken := by
  by_contra none
  refine twice (List.nodup_append.mpr ⟨List.nodup_reverse.mpr distinct, before, ?_⟩)
  intro name found other taken same
  exact none ⟨name, List.mem_reverse.mp found, same ▸ taken⟩

theorem new_of_nodup {names taken : List String} (distinct : (names.reverse ++ taken).Nodup) :
    ∀ name ∈ names, name ∉ taken := by
  intro name found old
  exact (List.nodup_append.mp distinct).2.2 name (List.mem_reverse.mpr found) name old rfl

/-- What opens the group of a pattern. -/
def opening (foldCase : Bool) : List Char :=
  if foldCase then ['(', '?', 'i', ':'] else ['(', '?', ':']

theorem opening_reads {parse : Parse} (plain : parse.group.flags = {}) (foldCase : Bool)
    (tail : List Char) :
    Reads 1 parse (opening foldCase ++ tail) (parse.opened { foldCase }) tail := by
  have quiet : parse.group.flags.verbose = false := by rw [plain]
  have stepped : parse.step? (.openGroup false none { foldCase }) =
      some (parse.opened { foldCase }) := rfl
  refine .one quiet ?_ stepped rfl
  rw [plain]
  cases foldCase <;> rfl

/-- A plain pattern in a group of its own. -/
theorem pattern_isPiece {foldCase : Bool} {source : List Char}
    (pattern : IsPlain { foldCase } source) :
    Part.IsPiece ⟨opening foldCase ++ (source ++ [')']), patternTexts { foldCase } source,
      groupNames { foldCase } source⟩ := by
  -- The parenthesis behind the source is the one that closes the group, as the source is plain.
  have shape (tail : List Char) :
      opening foldCase ++ (source ++ [')']) ++ tail = opening foldCase ++ closed source tail := by
    rw [List.append_assoc, List.append_assoc]
    rfl
  refine ⟨?_, fun parse tail plain distinct => ?_, fun parse tail plain before twice => ?_⟩
  · cases foldCase <;> exact ⟨'(', by decide, _, rfl⟩
  · have quiet : parse.group.flags.verbose = false := by rw [plain]
    obtain ⟨count, piece, counted, le, reads, fits⟩ :=
      group_reads pattern quiet (new_of_nodup distinct) tail
    refine ⟨1 + count, piece, counted, ?_, ?_, fits⟩
    · change 1 + count ≤ (opening foldCase ++ (source ++ [')'])).length
      rw [List.length_append, List.length_append]
      have positive : 1 ≤ (opening foldCase).length := by cases foldCase <;> exact Nat.succ_pos _
      exact Nat.add_le_add positive le
    · exact (shape tail) ▸ (opening_reads plain foldCase (closed source tail)).trans reads
  · have clash := not_nodup_of_clash pattern.names_nodup before twice
    exact (shape tail) ▸ (opening_reads plain foldCase (closed source tail)).fails
      (group_fails pattern clash tail)

theorem Spells.joined {texts : TextSet} {pieces : List Piece} (spells : Spells texts pieces) :
    (joinPieces pieces).expr.texts = texts ∧ (joinPieces pieces).expr.asserts = false
      ∧ (joinPieces pieces).expr.IsHonest := by
  obtain ⟨product, asserts, honest⟩ := spells
  cases pieces with
  | nil => exact ⟨product, rfl, Expr.honest_nothing⟩
  | cons piece others =>
      cases others with
      | nil =>
          rw [List.reverse_singleton, List.map_singleton, List.prod_singleton] at product
          exact ⟨product, asserts piece List.mem_cons_self, honest piece List.mem_cons_self⟩
      | cons second others =>
          have shape : (joinPieces (piece :: second :: others)).expr =
              .sequence ((piece :: second :: others).reverse.map (·.expr)) := rfl
          rw [shape]
          refine ⟨?_, ?_, Expr.honest_sequence ?_⟩
          · rw [Expr.texts_sequence, List.map_map]
            exact product
          · rw [Expr.asserts_sequence, List.any_map, List.any_reverse, List.any_eq_false]
            exact fun piece found => Bool.eq_false_iff.mp (asserts piece found)
          · rw [List.forall_mem_map]
            exact fun piece found => honest piece (List.mem_reverse.mp found)

/-- Finished alternatives without assertions that match these texts. -/
structure Offers (texts : TextSet) (pieces : List Piece) : Prop where
  texts : (pieces.map (·.expr.texts)).sum = texts
  asserts : ∀ piece ∈ pieces, piece.expr.asserts = false
  honest : ∀ piece ∈ pieces, piece.expr.IsHonest

/-- A group matches what one of its alternatives does, the last one included. -/
theorem content_texts {group : Group} {earlier last : TextSet} (spells : Spells last group.pieces)
    (offers : Offers earlier group.alternatives) :
    group.content.expr.texts = earlier + last ∧ group.content.expr.asserts = false
      ∧ group.content.expr.IsHonest := by
  obtain ⟨texts, asserts, honest⟩ := spells.joined
  obtain ⟨total, others, othersHonest⟩ := offers
  cases shape : group.alternatives with
  | nil =>
      have content : group.content = joinPieces group.pieces := by rw [Group.content, shape]
      rw [shape] at total
      rw [content]
      refine ⟨?_, asserts, honest⟩
      rw [texts, ← total]
      exact (zero_add last).symm
  | cons first rest =>
      have content : group.content.expr =
          .choice ((joinPieces group.pieces :: group.alternatives).reverse.map (·.expr)) := by
        rw [Group.content, shape]
      rw [content]
      refine ⟨?_, ?_, Expr.honest_choice ?_⟩
      · rw [Expr.texts_choice, List.map_map, List.map_reverse, List.sum_reverse, List.map_cons,
          List.sum_cons, add_comm, ← total, ← texts]
        rfl
      · rw [Expr.asserts_choice, List.any_map, List.any_reverse, List.any_cons, Bool.or_eq_false_iff,
          List.any_eq_false]
        exact ⟨asserts, fun piece found => Bool.eq_false_iff.mp (others piece found)⟩
      · rw [List.forall_mem_map]
        intro piece found
        rcases List.mem_cons.mp (List.mem_reverse.mp found) with rfl | found
        · exact honest
        · exact othersHonest piece found

/-- The sources with bars between them. -/
def barred (parts : List Part) : List Char := ['|'].intercalate (parts.map (·.source))

theorem barred_one (part : Part) : barred [part] = part.source := List.append_nil _

theorem barred_cons (first second : Part) (rest : List Part) :
    barred (first :: second :: rest) = first.source ++ '|' :: barred (second :: rest) := by
  rw [barred, List.map_cons, List.map_cons, List.intercalate_cons_cons, List.append_assoc]
  rfl

theorem barred_ahead (first second : Part) (rest : List Part) (ahead : List Char) :
    barred (first :: second :: rest) ++ ahead =
      first.source ++ '|' :: (barred (second :: rest) ++ ahead) := by
  rw [barred_cons, List.append_assoc]
  rfl

/-- A group in which some alternatives are finished, and the next one has not begun. -/
structure Parse.AtAlternative (earlier : TextSet) (parse : Parse) : Prop where
  flags : parse.group.flags = {}
  pieces : parse.group.pieces = []
  offers : Offers earlier parse.group.alternatives

/-- Finishing an alternative leaves the group at the next one. -/
theorem bar_reads {earlier texts : TextSet} {parse : Parse} (at₁ : parse.AtAlternative earlier)
    {pieces : List Piece} (spells : Spells texts pieces) (names : List String) (counted : Nat)
    (tail : List Char) :
    ∃ next, Reads 1 (parse.extended pieces names counted) ('|' :: tail) next tail
      ∧ next.AtAlternative (earlier + texts) ∧ next.outer = parse.outer
      ∧ next.names = names ++ parse.names := by
  have quiet : (parse.extended pieces names counted).group.flags.verbose = false := by
    rw [Parse.extended, at₁.flags]
  obtain ⟨total, asserts, honest⟩ := spells.joined
  refine ⟨_, .one quiet rfl rfl quiet, ⟨at₁.flags, rfl, ?_⟩, rfl, rfl⟩
  have same : pieces ++ parse.group.pieces = pieces := by rw [at₁.pieces, List.append_nil]
  constructor
  · rw [Parse.extended, same, List.map_cons, List.sum_cons, total, at₁.offers.texts, add_comm]
  · rw [Parse.extended, same, List.forall_mem_cons]
    exact ⟨asserts, at₁.offers.asserts⟩
  · rw [Parse.extended, same, List.forall_mem_cons]
    exact ⟨honest, at₁.offers.honest⟩

theorem close_matches {group : Group} {earlier last : TextSet} (spells : Spells last group.pieces)
    (offers : Offers earlier group.alternatives) : group.close.Matches (earlier + last) := by
  obtain ⟨texts, asserts, honest⟩ := content_texts spells offers
  refine ⟨?_, ?_, close_honest honest, rfl⟩
  · rw [Expr.texts, close_term]
    exact texts
  · rw [Expr.asserts, close_term]
    exact asserts

/-- The texts of all parts together, as alternatives. -/
def allTexts (parts : List Part) : TextSet := (parts.map (·.texts)).sum

/-- The names in all parts. -/
def allNames (parts : List Part) : List String := (parts.map (·.names)).flatten

theorem allTexts_one (part : Part) : allTexts [part] = part.texts := add_zero _

theorem allNames_one (part : Part) : allNames [part] = part.names := List.append_nil _

theorem allNames_cons (part : Part) (rest : List Part) (taken : List String) :
    (allNames (part :: rest)).reverse ++ taken =
      (allNames rest).reverse ++ (part.names.reverse ++ taken) := by
  rw [allNames, List.map_cons, List.flatten_cons, List.reverse_append, List.append_assoc]
  rfl

/-- What remains of a group is read up to its end, where everything that it offers is known. -/
theorem alternatives_read (part : Part) (rest : List Part)
    (read : ∀ each ∈ part :: rest, each.IsRead) {earlier : TextSet} {parse : Parse}
    (at₁ : parse.AtAlternative earlier) (tail : List Char)
    (distinct : ((allNames (part :: rest)).reverse ++ parse.names).Nodup) :
    ∃ count last, count ≤ (barred (part :: rest)).length
      ∧ Reads count parse (barred (part :: rest) ++ ')' :: tail) last (')' :: tail)
      ∧ last.outer = parse.outer ∧ last.names = (allNames (part :: rest)).reverse ++ parse.names
      ∧ last.group.close.Matches (earlier + allTexts (part :: rest)) := by
  induction rest generalizing part earlier parse with
  | nil =>
      rw [allNames_one] at distinct ⊢
      obtain ⟨count, pieces, counted, le, reads, spells⟩ :=
        (read part List.mem_cons_self).reads parse (')' :: tail) at₁.flags (head_ne (by decide) _) distinct
      refine ⟨count, parse.extended pieces part.names.reverse counted, ?_, ?_, rfl, rfl, ?_⟩
      · rw [barred_one]
        exact le
      · rw [barred_one]
        exact reads
      · rw [allTexts_one]
        refine close_matches ?_ at₁.offers
        rw [Parse.extended, at₁.pieces, List.append_nil]
        exact spells
  | cons second rest ih =>
      -- The part in front takes its names first, and the others go on with what it has taken.
      rw [allNames_cons] at distinct
      have ahead := (List.nodup_append.mp distinct).2.1
      obtain ⟨count, pieces, counted, le, reads, spells⟩ :=
        (read part List.mem_cons_self).reads parse ('|' :: (barred (second :: rest) ++ ')' :: tail))
          at₁.flags (head_ne (by decide) _) ahead
      obtain ⟨next, bar, at₂, outer, names⟩ := bar_reads at₁ spells part.names.reverse counted
        (barred (second :: rest) ++ ')' :: tail)
      rw [← names] at distinct
      obtain ⟨further, last, le', reads', outer', names', fits⟩ :=
        ih second (fun each found => read each (List.mem_cons_of_mem _ found)) at₂ distinct
      have texts : earlier + allTexts (part :: second :: rest) =
          earlier + part.texts + allTexts (second :: rest) := (add_assoc _ _ _).symm
      refine ⟨count + (1 + further), last, ?_, ?_, outer'.trans outer, ?_, ?_⟩
      · rw [barred_cons, List.length_append, List.length_cons]
        omega
      · rw [barred_ahead]
        exact reads.trans (bar.trans reads')
      · rw [names', names]
        exact (allNames_cons part (second :: rest) parse.names).symm
      · rw [texts]
        exact fits

/-- A name that is taken twice stops the group before its end. -/
theorem alternatives_fail (part : Part) (rest : List Part)
    (read : ∀ each ∈ part :: rest, each.IsRead) {earlier : TextSet} {parse : Parse}
    (at₁ : parse.AtAlternative earlier) (tail : List Char) (before : parse.names.Nodup)
    (twice : ¬ ((allNames (part :: rest)).reverse ++ parse.names).Nodup) :
    Fails parse (barred (part :: rest) ++ ')' :: tail) := by
  induction rest generalizing part earlier parse with
  | nil =>
      rw [allNames_one] at twice
      rw [barred_one]
      exact (read part List.mem_cons_self).fails parse (')' :: tail) at₁.flags (head_ne (by decide) _) before twice
  | cons second rest ih =>
      rw [allNames_cons] at twice
      rw [barred_ahead]
      -- Either the part in front takes a name twice, or it is read and the clash comes later.
      by_cases ahead : (part.names.reverse ++ parse.names).Nodup
      · obtain ⟨count, pieces, counted, _, reads, spells⟩ :=
          (read part List.mem_cons_self).reads parse ('|' :: (barred (second :: rest) ++ ')' :: tail))
            at₁.flags (head_ne (by decide) _) ahead
        obtain ⟨next, bar, at₂, _, names⟩ := bar_reads at₁ spells part.names.reverse counted
          (barred (second :: rest) ++ ')' :: tail)
        rw [← names] at ahead twice
        have later := ih second (fun each found => read each (List.mem_cons_of_mem _ found)) at₂
          ahead twice
        exact (reads.trans bar).fails later
      · exact (read part List.mem_cons_self).fails parse _ at₁.flags (head_ne (by decide) _)
          before ahead

/-- A group of alternatives. -/
def anyOf (parts : List Part) : Part :=
  ⟨['(', '?', ':'] ++ (barred parts ++ [')']), allTexts parts, allNames parts⟩

theorem anyOf_isPiece (part : Part) (rest : List Part)
    (read : ∀ each ∈ part :: rest, each.IsRead) : (anyOf (part :: rest)).IsPiece := by
  have shape (tail : List Char) : (anyOf (part :: rest)).source ++ tail =
      opening false ++ (barred (part :: rest) ++ ')' :: tail) := by
    rw [anyOf, List.append_assoc, List.append_assoc]
    rfl
  -- A group that has just been opened offers nothing yet.
  have fresh (parse : Parse) : (parse.opened {}).AtAlternative 0 := ⟨rfl, rfl, rfl, nofun, nofun⟩
  refine ⟨⟨'(', by decide, _, rfl⟩, fun parse tail plain distinct => ?_,
    fun parse tail plain before twice => ?_⟩
  · have quiet : parse.group.flags.verbose = false := by rw [plain]
    obtain ⟨count, last, le, reads, outer, names, fits⟩ :=
      alternatives_read part rest read (fresh parse) tail distinct
    have closes : last.step? .closeGroup = some (parse.extended [last.group.close]
        (anyOf (part :: rest)).names.reverse last.counted) := by
      rw [step_closeGroup_iff, names]
      exact ⟨_, _, outer, rfl⟩
    have closing : Reads 1 last (')' :: tail) (parse.extended [last.group.close]
        (anyOf (part :: rest)).names.reverse last.counted) tail :=
      .one reads.plain rfl closes quiet
    refine ⟨1 + (count + 1), last.group.close, last.counted, ?_, ?_, ?_⟩
    · rw [anyOf, List.length_append, List.length_append]
      change 1 + (count + 1) ≤ 3 + ((barred (part :: rest)).length + 1)
      omega
    · rw [shape]
      exact (opening_reads plain false _).trans (reads.trans closing)
    · rw [zero_add] at fits
      exact fits
  · rw [shape]
    exact (opening_reads plain false _).fails
      (alternatives_fail part rest read (fresh parse) tail before twice)

end Groups

section Repetitions

theorem dropLazy_eq {text : List Char} (noMark : text.head? ≠ some '?') : dropLazy text = text := by
  unfold dropLazy
  split
  · exact absurd rfl noMark
  · rfl

/-- A piece with a mark behind it that says how often it stands there. -/
theorem Part.IsPiece.marked {part : Part} (single : part.IsPiece) {mark : Char} {low : Nat}
    {high : Option Nat} {texts : TextSet}
    (lexeme : ∀ rest, Lexeme.read? {} (mark :: rest) = some (.times low high, dropLazy rest))
    (means : ∀ piece : Piece, piece.Matches part.texts →
      (piece.expr.repeated low high).texts = texts
        ∧ (piece.expr.repeated low high).asserts = false) :
    Part.IsRead ⟨part.source ++ [mark], texts, part.names⟩ := by
  obtain ⟨c, solid, front, source⟩ := single.begins
  refine ⟨?_, fun parse tail plain noMark distinct => ?_, fun parse tail plain _ before twice => ?_⟩
  · rw [source]
    exact head_ne solid _
  · obtain ⟨count, piece, counted, le, reads, fits⟩ :=
      single.reads parse (mark :: tail) plain distinct
    obtain ⟨sameTexts, asserts⟩ := means piece fits
    have quiet : parse.group.flags.verbose = false := by rw [plain]
    have read : Lexeme.read? parse.group.flags (mark :: tail) = some (.times low high, tail) := by
      rw [plain, lexeme, dropLazy_eq noMark]
    have stepped : (parse.extended [piece] part.names.reverse counted).step? (.times low high) =
        some (parse.extended [{ expr := piece.expr.repeated low high, depth := piece.depth + 1 }]
          part.names.reverse counted) := by
      refine if_neg ?_
      rw [fits.repeatable]
      exact Bool.false_ne_true
    refine ⟨count + 1, [{ expr := piece.expr.repeated low high, depth := piece.depth + 1 }],
      counted, ?_, ?_, ?_⟩
    · rw [List.length_append]
      exact Nat.succ_le_succ le
    · rw [List.append_assoc]
      exact reads.trans (.one quiet read stepped quiet)
    · have repeated : Piece.Matches texts
          { expr := piece.expr.repeated low high, depth := piece.depth + 1 } :=
        ⟨sameTexts, asserts, Expr.honest_repeated fits.honest low high, rfl⟩
      exact repeated.spells
  · rw [List.append_assoc]
    exact single.fails parse (mark :: tail) plain before twice

theorem Part.IsPiece.optional {part : Part} (single : part.IsPiece) :
    Part.IsRead ⟨part.source ++ ['?'], part.texts + 1, part.names⟩ := by
  refine single.marked (fun _ => rfl) fun piece fits => ?_
  rw [Expr.repeated_optional]
  refine ⟨?_, ?_⟩
  · rw [Expr.texts_times_optional, fits.texts]
  · exact (Bool.or_false _).trans fits.asserts

theorem Part.IsPiece.many {part : Part} (single : part.IsPiece) :
    Part.IsRead ⟨part.source ++ ['*'], part.texts∗, part.names⟩ := by
  refine single.marked (fun _ => rfl) fun piece fits => ?_
  refine ⟨?_, ?_⟩
  · rw [Expr.texts_many fits.honest fits.asserts, fits.texts]
  · rw [Expr.asserts_many, fits.asserts]

theorem Part.IsPiece.many1 {part : Part} (single : part.IsPiece) :
    Part.IsRead ⟨part.source ++ ['+'], part.texts * part.texts∗, part.names⟩ := by
  refine single.marked (fun _ => rfl) fun piece fits => ?_
  refine ⟨?_, ?_⟩
  · rw [Expr.texts_many1 fits.honest fits.asserts, fits.texts]
  · rw [Expr.asserts_many1, fits.asserts]

end Repetitions

section Whole
variable {part : Part}

/-- A part by itself is a pattern that matches its texts. -/
theorem Part.IsRead.whole (read : part.IsRead) (distinct : part.names.Nodup) :
    ∃ piece, Piece.read? part.source = some piece ∧ piece.expr.texts = part.texts
      ∧ piece.expr.asserts = false := by
  have noneTaken : (part.names.reverse ++ []).Nodup := by
    rw [List.append_nil, List.nodup_reverse]
    exact distinct
  obtain ⟨count, pieces, counted, le, reads, spells⟩ :=
    read.reads { group := { flags := {} } } [] rfl nofun noneTaken
  rw [List.append_nil] at reads
  have ran := reads.run (Nat.lt_succ_of_le le)
  obtain ⟨texts, asserts, _⟩ := spells.joined
  refine ⟨joinPieces pieces, ?_, texts, asserts⟩
  rw [Piece.read?, ran]
  change some (joinPieces (pieces ++ [])) = _
  rw [List.append_nil]

/-- It is none if it names two groups alike. -/
theorem Part.IsRead.not_whole (read : part.IsRead) (twice : ¬ part.names.Nodup) :
    Piece.read? part.source = none := by
  have taken : ¬ (part.names.reverse ++ []).Nodup := by
    rw [List.append_nil, List.nodup_reverse]
    exact twice
  have fails := read.fails { group := { flags := {} } } [] rfl nofun List.nodup_nil taken
  rw [List.append_nil] at fails
  rw [Piece.read?, fails]
  rfl

end Whole

end Treegram.Pattern
