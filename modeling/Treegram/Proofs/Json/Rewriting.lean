import Treegram.Proofs.Json.ByteReader
import Treegram.Proofs.Json.Segments

/-!
Rewriting byte by byte, for any text. The rewriter keeps a byte offset up to which it has copied or
replaced everything, and takes slices from there to the next content that it replaces. No slice is ever
out of place, each step reads on, and what comes out is what the segments of the text tell.
-/

namespace Treegram.Json

/-- A rewriter at work: where it reads, how far the text is copied, and what it has made of that. -/
structure Rewriter where
  reader : ByteReader
  copied : Nat := 0
  made : String := ""
  deriving DecidableEq

namespace Rewriter

inductive Outcome where
  | going (rewriter : Rewriter)
  | finished (text : String)
  deriving DecidableEq

/-- Copies what is left. -/
def finish (rewriter : Rewriter) : Option Outcome :=
  (slice? rewriter.reader.text rewriter.copied rewriter.reader.text.utf8ByteSize).map
    fun rest => .finished (rewriter.made ++ rest)

/-- Behind a key `value`: without a colon the blanks are passed, and a content that is not replaced is
read again. -/
def member (replace : ByteReader → ByteReader.Read) (rewriter : Rewriter) (behind : ByteReader) :
    Option Outcome := do
  let gap := behind.skipWhile Scalar.isBlank
  match gap.eat? ':' with
  | none => return .going { rewriter with reader := gap }
  | some afterColon =>
      let content := afterColon.skipWhile Scalar.isBlank
      match ← replace content with
      | none => return .going { rewriter with reader := content }
      | some (new, ends) =>
          (slice? content.text rewriter.copied content.position).map fun kept =>
            .going ⟨ends, ends.position, rewriter.made ++ kept ++ new⟩

/-- One round. Without an outcome, a slice was out of place. -/
def step (replace : ByteReader → ByteReader.Read) (rewriter : Rewriter) : Option Outcome :=
  match rewriter.reader.byte? with
  | none => rewriter.finish
  | some c =>
      if c ≠ '"' then some (.going { rewriter with reader := rewriter.reader.skip 1 })
      else do
        match ← rewriter.reader.string? with
        | none => rewriter.finish
        | some (key, behind) =>
            if key ≠ "\"value\"" then return .going { rewriter with reader := behind }
            else rewriter.member replace behind

def Outcome.next (replace : ByteReader → ByteReader.Read) : Outcome → Option Outcome
  | .going rewriter => rewriter.step replace
  | .finished text => some (.finished text)

/-- So many rounds over a text, from its beginning on. -/
def run (replace : ByteReader → ByteReader.Read) (text : String) : Nat → Option Outcome
  | 0 => some (.going { reader := { text } })
  | count + 1 => (run replace text count).bind (·.next replace)

/-! ## Between the bytes of a character -/

/-- The reader has yet to pass `short`, the last bytes of the character in front of which it will stand
behind `count` characters. -/
structure Stands (text : List Char) (count : Nat) (short : List Char) (reader : ByteReader) : Prop where
  same : reader.text = String.ofList text
  position : reader.position + short.length = byteLength (text.take count)
  ahead : reader.ahead = short ++ ByteReader.spread (text.drop count)
  high : ∀ d ∈ short, 128 ≤ d.toNat

section Stands
variable {text short : List Char} {count : Nat} {reader : ByteReader}

theorem stands_behind (text : List Char) (count : Nat) :
    Stands text count [] (ByteReader.behind text count) :=
  ⟨rfl, rfl, ByteReader.ahead_behind text count, List.forall_mem_nil _⟩

theorem Stands.eq_behind (stands : Stands text count [] reader) :
    reader = ByteReader.behind text count := by
  obtain ⟨same, position⟩ := stands
  obtain ⟨_, _⟩ := reader
  cases same
  cases position
  rfl

theorem Stands.skip {d : Char} (stands : Stands text count (d :: short) reader) :
    Stands text count short (reader.skip 1) where
  same := stands.same
  position := by
    have position := stands.position
    rw [List.length_cons] at position
    show reader.position + 1 + short.length = _
    omega
  ahead := by
    rw [ByteReader.ahead_skip, stands.ahead]
    rfl
  high d held := stands.high d (List.mem_cons_of_mem _ held)

/-- Past the first byte of a character. -/
theorem stands_next {c : Char} {rest : List Char} (left : text.drop count = c :: rest) :
    ∃ short, Stands text (count + 1) short ((ByteReader.behind text count).skip 1) := by
  obtain ⟨first, more, shape, size, high, _⟩ := ByteReader.spread_cons c rest
  obtain ⟨here, next⟩ := ByteReader.drop_cons left
  refine ⟨more, rfl, ?_, ?_, high⟩
  · rw [ByteReader.byteLength_take here, size, Nat.add_comm 1, ← Nat.add_assoc]
    simp only [ByteReader.skip, ByteReader.behind]
    omega
  · rw [ByteReader.ahead_skip, ByteReader.ahead_behind, left, shape, next]
    rfl

end Stands

/-! ## Tokens in front of the rewriter -/

section Tokens
variable {text body rest : List Char} {count : Nat}

/-- A quoted text that is closed is sliced out with its quotes. -/
theorem string_closed (left : text.drop count = '"' :: (body ++ rest))
    (closed : closing? 0 (body ++ rest) = some body.length) :
    (ByteReader.behind text count).string? =
      some (some (String.ofList ('"' :: body), ByteReader.behind text (count + (body.length + 1)))) := by
  have length : Scalar.quotedLength? (text.drop count) = some (body.length + 1) := by
    rw [left, Scalar.quotedLength?, Scalar.closing_shift, closed, Option.map_some, Nat.add_comm]
  have token : ('"' :: (body ++ rest)).take (body.length + 1) = '"' :: body := by simp
  rw [ByteReader.string_behind, length, ByteReader.token, left, Option.map_some, token]

theorem string_unclosed (left : text.drop count = '"' :: rest) (unclosed : closing? 0 rest = none) :
    (ByteReader.behind text count).string? = some none := by
  have none : Scalar.quotedLength? (text.drop count) = none := by
    rw [left, Scalar.quotedLength?, Scalar.closing_shift, unclosed, Option.map_none]
  rw [ByteReader.string_behind, none, ByteReader.token, Option.map_none]

/-- The content of a key is reached over a colon with blanks around it, or there is no colon. -/
theorem content_cases (text : List Char) (count : Nat) :
    let gap := (ByteReader.behind text count).skipWhile Scalar.isBlank
    (∃ size afterColon, Scalar.toContent? (text.drop count) = some size ∧ gap.eat? ':' = some afterColon
        ∧ afterColon.skipWhile Scalar.isBlank = ByteReader.behind text (count + size))
      ∨ Scalar.toContent? (text.drop count) = none ∧ gap.eat? ':' = none := by
  intro gap
  have place : gap = ByteReader.behind text (count + Scalar.blanks (text.drop count)) :=
    ByteReader.blanks_behind text count
  rw [place, Scalar.toContent?, List.drop_drop]
  rcases ByteReader.eat_cases (show ':'.toNat < 128 by decide) text
    (count + Scalar.blanks (text.drop count)) with ⟨left, eaten⟩ | ⟨other, eaten⟩
  · generalize whole : count + Scalar.blanks (text.drop count) + 1 = next at left eaten
    refine .inl ⟨Scalar.blanks (text.drop count) + 1 + Scalar.blanks (text.drop next), _, ?_, eaten, ?_⟩
    · rw [left]
      rfl
    · rw [ByteReader.blanks_behind]
      congr 1
      omega
  · refine .inr ⟨?_, eaten⟩
    split
    · exact absurd ‹_› (other _)
    · rfl

end Tokens

/-! ## Rounds -/

/-- What holds at any time: of the characters that the rewriter has passed, all but the first `done` are
yet to be copied, and `found` is how the rest is to be cut. -/
structure Holds (swap : Scalar.Swap) (text : List Char) (done passed : Nat) (short new : List Char)
    (found : List Scalar.Segment) (rewriter : Rewriter) : Prop where
  stands : Stands text passed short rewriter.reader
  cuts : Scalar.Cuts swap (text.drop passed) found
  copied : rewriter.copied = byteLength (text.take done)
  ordered : done ≤ passed
  inside : passed ≤ text.length
  before : rewriter.copied ≤ rewriter.reader.position
  made : rewriter.made = String.ofList new
  whole : Scalar.substitute swap text =
    new ++ ((text.take passed).drop done ++ found.flatMap Scalar.Segment.new)

section Holds
variable {swap : Scalar.Swap} {text short new : List Char} {done passed more : Nat}
  {found : List Scalar.Segment} {rewriter : Rewriter}

/-- Everything that is not copied yet is copied at the end. -/
theorem Holds.finish (holds : Holds swap text done passed short new found rewriter)
    (kept : found.flatMap Scalar.Segment.new = text.drop passed) :
    rewriter.finish = some (.finished (String.ofList (Scalar.substitute swap text))) := by
  have rest : (text.take passed).drop done ++ text.drop passed = text.drop done := by
    rw [← List.drop_append_of_le_length, List.take_append_drop]
    rw [List.length_take_of_le holds.inside]
    exact holds.ordered
  rw [Rewriter.finish, holds.stands.same, holds.copied, slice_drop, holds.made, Option.map_some,
    ← String.ofList_append, holds.whole, kept, rest]

theorem drop_word {word rest : List Char} (left : text.drop passed = word ++ rest) :
    text.drop (passed + word.length) = rest ∧ (text.drop passed).take word.length = word
      ∧ word.length ≤ (text.drop passed).length := by
  rw [← List.drop_drop, left, List.length_append]
  exact ⟨List.drop_left, List.take_left, Nat.le_add_right _ _⟩

theorem Holds.inside_word (holds : Holds swap text done passed short new found rewriter)
    {word rest : List Char} (left : text.drop passed = word ++ rest) :
    passed + word.length ≤ text.length := by
  have fits := (drop_word left).2.2
  have reached := holds.inside
  rw [List.length_drop] at fits
  omega

theorem Holds.pending (holds : Holds swap text done passed short new found rewriter)
    {word rest : List Char} (left : text.drop passed = word ++ rest) :
    (text.take (passed + word.length)).drop done = (text.take passed).drop done ++ word := by
  rw [List.take_add, (drop_word left).2.1, List.drop_append_of_le_length]
  rw [List.length_take_of_le holds.inside]
  exact holds.ordered

/-- The rewriter passes a word that it will copy. -/
theorem Holds.keep (holds : Holds swap text done passed short new found rewriter)
    {word rest short' : List Char} {found' : List Scalar.Segment} {reader : ByteReader}
    (left : text.drop passed = word ++ rest) (cuts : Scalar.Cuts swap rest found')
    (kept : found.flatMap Scalar.Segment.new = word ++ found'.flatMap Scalar.Segment.new)
    (stands : Stands text (passed + word.length) short' reader)
    (forward : rewriter.reader.position ≤ reader.position) :
    Holds swap text done (passed + word.length) short' new found' { rewriter with reader := reader } where
  stands := stands
  cuts := by rwa [(drop_word left).1]
  copied := holds.copied
  ordered := Nat.le_trans holds.ordered (Nat.le_add_right _ _)
  inside := holds.inside_word left
  before := Nat.le_trans holds.before forward
  made := holds.made
  whole := by rw [holds.whole, kept, holds.pending left, List.append_assoc]

/-- Behind more characters there are more bytes. -/
theorem position_lt {word rest : List Char} (left : text.drop passed = word ++ rest) (solid : word ≠ []) :
    (ByteReader.behind text passed).position <
      (ByteReader.behind text (passed + word.length)).position := by
  have other := (ByteReader.position_behind (drop_word left).2.2).not.mpr
    (Nat.ne_of_gt (List.length_pos_iff.mpr solid))
  have ordered : (ByteReader.behind text passed).position ≤
      (ByteReader.behind text (passed + word.length)).position :=
    byteLength_prefix (List.take_prefix_take_left (Nat.le_add_right _ _))
  omega

/-- The outcome of a round: everything is made, or the rewriter has read on. -/
def Progress (swap : Scalar.Swap) (text : List Char) (rewriter : Rewriter) (outcome : Option Outcome) :
    Prop :=
  outcome = some (.finished (String.ofList (Scalar.substitute swap text)))
    ∨ ∃ next done passed short new found, outcome = some (.going next)
      ∧ Holds swap text done passed short new found next
      ∧ rewriter.reader.position < next.reader.position

/-- A round that passes a word. -/
theorem Holds.progress (holds : Holds swap text done passed [] new found rewriter)
    {word rest : List Char} {found' : List Scalar.Segment} (left : text.drop passed = word ++ rest)
    (solid : word ≠ []) (cuts : Scalar.Cuts swap rest found')
    (kept : found.flatMap Scalar.Segment.new = word ++ found'.flatMap Scalar.Segment.new) :
    Progress swap text rewriter
      (some (.going { rewriter with reader := ByteReader.behind text (passed + word.length) })) := by
  have forward := position_lt left solid
  rw [← holds.stands.eq_behind] at forward
  exact .inr ⟨_, _, _, _, _, _, rfl,
    holds.keep left cuts kept (stands_behind text _) (Nat.le_of_lt forward), forward⟩

section Step
variable {replace : ByteReader → ByteReader.Read} {rest : List Char}

theorem step_plain {d : Char} (seen : rewriter.reader.byte? = some d) (other : d ≠ '"') :
    rewriter.step replace = some (.going { rewriter with reader := rewriter.reader.skip 1 }) := by
  rw [Rewriter.step, seen]
  exact if_pos other

/-- Inside of a character, one more byte is passed. -/
theorem Holds.step_short {d : Char} (holds : Holds swap text done passed (d :: short) new found rewriter) :
    Progress swap text rewriter (rewriter.step replace) := by
  have seen : rewriter.reader.byte? = some d := by
    rw [ByteReader.byte_ahead, holds.stands.ahead]
    rfl
  have other : d ≠ '"' := by
    rintro rfl
    exact absurd (holds.stands.high _ List.mem_cons_self) (by decide)
  have forward : rewriter.reader.position < (rewriter.reader.skip 1).position := Nat.lt_succ_self _
  have before := Nat.le_trans holds.before (Nat.le_of_lt forward)
  exact .inr ⟨_, _, _, _, _, _, step_plain seen other,
    { holds with stands := holds.stands.skip, before }, forward⟩

variable (holds : Holds swap text done passed [] new found rewriter)
include holds

theorem Holds.step_char {c : Char} (left : text.drop passed = c :: rest) (other : c ≠ '"')
    {found' : List Scalar.Segment} (cuts : Scalar.Cuts swap rest found')
    (kept : found.flatMap Scalar.Segment.new = c :: found'.flatMap Scalar.Segment.new) :
    Progress swap text rewriter (rewriter.step replace) := by
  obtain ⟨first, seen, _, same⟩ := ByteReader.byte_char left
  obtain ⟨short, stands⟩ := stands_next left
  have plain : first ≠ '"' := other ∘ (same _ (by decide)).mp
  rw [← holds.stands.eq_behind] at seen stands
  have forward : rewriter.reader.position < (rewriter.reader.skip 1).position := Nat.lt_succ_self _
  exact .inr ⟨_, _, _, _, _, _, step_plain seen plain,
    holds.keep (show text.drop passed = [c] ++ rest from left) cuts kept stands (Nat.le_of_lt forward),
    forward⟩

theorem Holds.step_end (left : text.drop passed = []) (none : found = []) :
    rewriter.step replace = some (.finished (String.ofList (Scalar.substitute swap text))) := by
  have ended : rewriter.reader.byte? = Option.none := by
    rw [holds.stands.eq_behind, ByteReader.byte_end left]
  rw [Rewriter.step, ended]
  exact holds.finish (by rw [left, none]; rfl)

theorem Holds.step_unclosed (left : text.drop passed = '"' :: rest) (unclosed : closing? 0 rest = none)
    (kept : found.flatMap Scalar.Segment.new = '"' :: rest) :
    rewriter.step replace = some (.finished (String.ofList (Scalar.substitute swap text))) := by
  have seen := (ByteReader.byte_ascii (by decide) text passed).mpr (ByteReader.drop_cons left).1
  have none := string_unclosed left unclosed
  rw [← holds.stands.eq_behind] at seen none
  rw [Rewriter.step, seen, none]
  exact holds.finish (by rw [left, kept])

theorem Holds.step_closed {body : List Char} (left : text.drop passed = '"' :: (body ++ rest))
    (closed : closing? 0 (body ++ rest) = some body.length) :
    rewriter.step replace =
      if '"' :: body ≠ Scalar.valueKey then
        some (.going { rewriter with reader := ByteReader.behind text (passed + (body.length + 1)) })
      else rewriter.member replace (ByteReader.behind text (passed + (body.length + 1))) := by
  have seen := (ByteReader.byte_ascii (by decide) text passed).mpr (ByteReader.drop_cons left).1
  have token := string_closed left closed
  have named : String.ofList ('"' :: body) ≠ "\"value\"" ↔ '"' :: body ≠ Scalar.valueKey :=
    not_congr (@String.ofList_inj ('"' :: body) Scalar.valueKey)
  rw [← holds.stands.eq_behind] at seen token
  rw [Rewriter.step, seen, token]
  simp only [Option.bind_eq_bind, Option.bind_some, named]
  rfl

/-- A quoted text that hands nothing over. Behind a key without a colon, blanks are passed as well. -/
theorem Holds.step_quoted {body : List Char} (left : text.drop passed = '"' :: (body ++ rest))
    (closed : closing? 0 (body ++ rest) = some body.length)
    (other : '"' :: body ≠ Scalar.valueKey ∨ Scalar.toContent? rest = none)
    {found' : List Scalar.Segment} (cuts : Scalar.Cuts swap rest found')
    (kept : found.flatMap Scalar.Segment.new = '"' :: body ++ found'.flatMap Scalar.Segment.new) :
    Progress swap text rewriter (rewriter.step replace) := by
  rw [holds.step_closed left closed]
  split
  case isTrue => exact holds.progress left (List.cons_ne_nil '"' body) cuts kept
  case isFalse key =>
    have next : text.drop (passed + ('"' :: body).length) = rest := (drop_word left).1
    rw [List.length_cons] at next
    have none := other.resolve_left key
    rw [← next] at none
    rcases content_cases text (passed + (body.length + 1)) with ⟨_, _, reached, _⟩ | ⟨_, missing⟩
    · rw [none] at reached
      cases reached
    · -- The blanks are passed together with the key; taken one by one, they would be kept as well.
      have parts := List.take_append_drop (Scalar.blanks rest) rest
      have plain : ∀ c ∈ rest.take (Scalar.blanks rest), c ≠ '"' := by
        rintro c held rfl
        exact absurd (Scalar.isBlank_take _ held) (by decide)
      rw [← parts] at cuts
      obtain ⟨others, cuts, same⟩ := Scalar.Cuts.past plain cuts
      have passed' : text.drop passed =
          '"' :: (body ++ rest.take (Scalar.blanks rest)) ++ rest.drop (Scalar.blanks rest) := by
        rw [left, List.cons_append, List.append_assoc, parts]
      have copies : found.flatMap Scalar.Segment.new =
          '"' :: (body ++ rest.take (Scalar.blanks rest)) ++ others.flatMap Scalar.Segment.new := by
        rw [kept, same, List.cons_append, List.cons_append, List.append_assoc]
      have passes := holds.progress passed' (List.cons_ne_nil '"' _) cuts copies
      have place : passed + ('"' :: (body ++ rest.take (Scalar.blanks rest))).length =
          passed + (body.length + 1) + Scalar.blanks rest := by
        rw [List.length_cons, List.length_append, List.length_take_of_le (Scalar.blanks_le rest)]
        omega
      rw [place] at passes
      rw [member, missing, ByteReader.blanks_behind, next]
      exact passes

section Content
variable {gap content : List Char} (left : text.drop passed = Scalar.valueKey ++ (gap ++ content))
  (reached : Scalar.toContent? (gap ++ content) = some gap.length)
include left reached

/-- A round over a key `value` and the gap behind it is told by what is replaced then. -/
theorem Holds.step_content (replaces : ByteReader.Replaces replace swap) {place : Nat}
    (ahead : passed + (Scalar.valueKey ++ gap).length = place) :
    rewriter.step replace =
      match swap content with
      | none => some (.going { rewriter with reader := ByteReader.behind text place })
      | some (size, new) =>
          (slice? (String.ofList text) rewriter.copied (byteLength (text.take place))).map fun kept =>
            .going ⟨ByteReader.behind text (place + size), byteLength (text.take (place + size)),
              rewriter.made ++ kept ++ String.ofList new⟩ := by
  have quoted : text.drop passed = '"' :: (Scalar.valueKey.tail ++ (gap ++ content)) := left
  have closed : closing? 0 (Scalar.valueKey.tail ++ (gap ++ content)) =
    some Scalar.valueKey.tail.length := rfl
  have key : ¬ '"' :: Scalar.valueKey.tail ≠ Scalar.valueKey := not_not_intro rfl
  have reaches : passed + (Scalar.valueKey.tail.length + 1) + gap.length = place := by
    rw [← ahead, List.length_append, Nat.add_assoc]
    rfl
  have behind : text.drop (passed + (Scalar.valueKey.tail.length + 1)) = gap ++ content :=
    (drop_word left).1
  have remaining : text.drop place = content := by
    rw [← List.append_assoc] at left
    rw [← ahead]
    exact (drop_word left).1
  rw [holds.step_closed quoted closed, if_neg key]
  -- The reader looks for the colon on its own, and finds the content where the text has it.
  rcases content_cases text (passed + (Scalar.valueKey.tail.length + 1)) with
    ⟨size, afterColon, found, eaten, stops⟩ | ⟨missing, _⟩
  · rw [behind, reached] at found
    obtain rfl := Option.some.inj found
    rw [reaches] at stops
    rw [member]
    simp only [eaten, stops, replaces text _, remaining, Option.bind_eq_bind, Option.bind_some]
    cases swap content with
    | none => rfl
    | some change => rfl
  · rw [behind, reached] at missing
    cases missing

end Content

/-- A content that is not replaced is read again. -/
theorem Holds.step_declined (replaces : ByteReader.Replaces replace swap) {gap content : List Char}
    (left : text.drop passed = Scalar.valueKey ++ (gap ++ content))
    (reached : Scalar.toContent? (gap ++ content) = some gap.length) (none : swap content = none)
    {found' : List Scalar.Segment} (cuts : Scalar.Cuts swap content found')
    (kept : found.flatMap Scalar.Segment.new =
      Scalar.valueKey ++ gap ++ found'.flatMap Scalar.Segment.new) :
    Progress swap text rewriter (rewriter.step replace) := by
  rw [holds.step_content left reached replaces rfl, none]
  rw [← List.append_assoc] at left
  exact holds.progress left (by simp [Scalar.valueKey]) cuts kept

/-- What was passed in front of a content that is replaced is copied; nothing is left to be copied
behind it. -/
theorem Holds.step_swapped (replaces : ByteReader.Replaces replace swap) {gap old new' : List Char}
    (left : text.drop passed = Scalar.valueKey ++ (gap ++ (old ++ rest)))
    (reached : Scalar.toContent? (gap ++ (old ++ rest)) = some gap.length)
    (known : swap (old ++ rest) = some (old.length, new'))
    {found' : List Scalar.Segment} (cuts : Scalar.Cuts swap rest found')
    (kept : found.flatMap Scalar.Segment.new =
      Scalar.valueKey ++ gap ++ (new' ++ found'.flatMap Scalar.Segment.new)) :
    Progress swap text rewriter (rewriter.step replace) := by
  have front : text.drop passed = (Scalar.valueKey ++ gap) ++ (old ++ rest) := by
    rw [left, List.append_assoc]
  have shape : text.drop passed = (Scalar.valueKey ++ gap ++ old) ++ rest := by
    rw [front, List.append_assoc _ old]
  have forward := position_lt shape (by simp [Scalar.valueKey])
  have inside := holds.inside_word shape
  have remaining := (drop_word shape).1
  have pending := holds.pending front
  have ordered := Nat.le_trans holds.ordered (Nat.le_add_right passed (Scalar.valueKey ++ gap).length)
  rw [holds.step_content left reached replaces rfl, known]
  have size : passed + (Scalar.valueKey ++ gap ++ old).length =
      passed + (Scalar.valueKey ++ gap).length + old.length := by
    rw [List.length_append, Nat.add_assoc]
  rw [size] at forward inside remaining
  -- At `place` the content begins: up to there the text is copied, and from there it is replaced.
  generalize passed + (Scalar.valueKey ++ gap).length = place at *
  rw [holds.copied]
  simp only [slice_take text ordered, Option.map_some]
  rw [← holds.stands.eq_behind] at forward
  refine .inr ⟨_, place + old.length, place + old.length, [],
    new ++ (text.take place).drop done ++ new', found', rfl, ?_, forward⟩
  exact
    { stands := stands_behind text _, cuts := by rwa [remaining], copied := rfl, ordered := Nat.le_refl _
      inside, before := Nat.le_refl _
      made := by rw [holds.made, String.ofList_append, String.ofList_append]
      whole := by
        have none : (text.take (place + old.length)).drop (place + old.length) = [] := by simp
        rw [holds.whole, kept, none, pending]
        simp }

end Step

/-- A round is finished with everything made or has read on. -/
theorem Holds.step {replace : ByteReader → ByteReader.Read}
    (replaces : ByteReader.Replaces replace swap)
    (holds : Holds swap text done passed short new found rewriter) :
    Progress swap text rewriter (rewriter.step replace) := by
  cases short with
  | cons d short => exact holds.step_short
  | nil =>
      -- Between characters, how the rest is to be cut tells what the round does.
      have cuts := holds.cuts
      generalize left : text.drop passed = rest at cuts
      cases cuts with
      | nil => exact .inl (holds.step_end left rfl)
      | plain other behind => exact holds.step_char left other behind rfl
      | unclosed none => exact .inl (holds.step_unclosed left none (by simp [Scalar.Segment.new]))
      | quoted closed other behind => exact holds.step_quoted left closed other behind rfl
      | declined reached none behind => exact holds.step_declined replaces left reached none behind rfl
      | swapped reached known behind => exact holds.step_swapped replaces left reached known behind rfl

end Holds

/-! ## Runs -/

/-- What holds of a rewriter over a text at any time, with the marks left open. -/
def Sound (swap : Scalar.Swap) (text : List Char) (rewriter : Rewriter) : Prop :=
  ∃ done passed short new found, Holds swap text done passed short new found rewriter

theorem run_cases {replace : ByteReader → ByteReader.Read} {swap : Scalar.Swap}
    (replaces : ByteReader.Replaces replace swap) (fits : Scalar.Fits swap) (text : List Char)
    (count : Nat) :
    run replace (String.ofList text) count =
        some (.finished (String.ofList (Scalar.substitute swap text)))
      ∨ ∃ rewriter, run replace (String.ofList text) count = some (.going rewriter)
        ∧ Sound swap text rewriter ∧ count ≤ rewriter.reader.position := by
  -- Each round reads on, so the number of rounds is no more than the position that is reached.
  induction count with
  | zero =>
      refine .inr ⟨_, rfl, ⟨0, 0, [], [], Scalar.segments swap text, ?_⟩, Nat.zero_le _⟩
      exact
        { stands := stands_behind text 0, cuts := Scalar.cuts_segments fits text, copied := rfl
          ordered := Nat.le_refl _, inside := Nat.zero_le _, before := Nat.le_refl _, made := rfl
          whole := rfl }
  | succ count ih =>
      rcases ih with finished | ⟨rewriter, going, ⟨_, _, _, _, _, holds⟩, passed⟩
      · exact .inl (by rw [run, finished]; rfl)
      · have round : run replace (String.ofList text) (count + 1) = rewriter.step replace := by
          rw [run, going]
          rfl
        rw [round]
        rcases holds.step replaces with finished | ⟨next, _, _, _, _, _, reads, holds, forward⟩
        · exact .inl finished
        · exact .inr ⟨next, reads, ⟨_, _, _, _, _, holds⟩, by omega⟩

theorem Sound.marks {swap : Scalar.Swap} {text : List Char} {rewriter : Rewriter}
    (sound : Sound swap text rewriter) :
    rewriter.copied ≤ rewriter.reader.position
      ∧ rewriter.reader.position ≤ (String.ofList text).utf8ByteSize
      ∧ String.Pos.Raw.IsValid (String.ofList text) ⟨rewriter.copied⟩ := by
  obtain ⟨done, passed, short, new, found, holds⟩ := sound
  refine ⟨holds.before, ?_, ?_⟩
  · have reached : byteLength (text.take passed) ≤ byteLength text :=
      byteLength_prefix (List.take_prefix passed text)
    have position := holds.stands.position
    rw [byteLength_ofList]
    omega
  · have valid := isValid_front (text.take done) (text.drop done)
    rwa [List.take_append_drop, ← holds.copied] at valid

/-- What is made of a text, whatever it holds. -/
structure Rewrites (replace : ByteReader → ByteReader.Read) (swap : Scalar.Swap) (text : String) :
    Prop where
  /-- After any number of rounds there is an outcome: all slices were in the text, between characters and
  in order. -/
  slices : ∀ count, ∃ outcome, run replace text count = some outcome
  /-- What is copied ends between characters and not behind the reader, and that is in the text. -/
  marks : ∀ count rewriter, run replace text count = some (.going rewriter) →
    rewriter.copied ≤ rewriter.reader.position ∧ rewriter.reader.position ≤ text.utf8ByteSize
      ∧ String.Pos.Raw.IsValid text ⟨rewriter.copied⟩
  /-- There are no more rounds than bytes, and one for the end. -/
  ends : run replace text (text.utf8ByteSize + 1) =
    some (.finished (String.ofList (Scalar.substitute swap text.toList)))
  /-- Segment by segment, the text is the old one and its substitute the new one. -/
  whole : (Scalar.segments swap text.toList).flatMap Scalar.Segment.old = text.toList
    ∧ (Scalar.segments swap text.toList).flatMap Scalar.Segment.new = Scalar.substitute swap text.toList
  /-- Only the contents of keys `value` differ between the two. -/
  placed : Scalar.Placed swap (Scalar.segments swap text.toList)

theorem rewrites {replace : ByteReader → ByteReader.Read} {swap : Scalar.Swap}
    (replaces : ByteReader.Replaces replace swap) (fits : Scalar.Fits swap) (text : String) :
    Rewrites replace swap text := by
  have cuts := Scalar.cuts_segments fits text.toList
  have cases (count : Nat) := run_cases replaces fits text.toList count
  rw [String.ofList_toList] at cases
  refine ⟨fun count => ?_, fun count rewriter going => ?_, ?_, ⟨cuts.old, rfl⟩, cuts.placed⟩
  · rcases cases count with finished | ⟨rewriter, going, _⟩
    · exact ⟨_, finished⟩
    · exact ⟨_, going⟩
  · rcases cases count with finished | ⟨other, reads, sound, _⟩
    · rw [going] at finished
      cases finished
    · rw [going] at reads
      cases reads
      have marks := sound.marks
      rwa [String.ofList_toList] at marks
  · rcases cases (text.utf8ByteSize + 1) with finished | ⟨rewriter, _, sound, passed⟩
    · exact finished
    · -- So many rounds would have read on behind the end.
      have inside := sound.marks.2.1
      rw [String.ofList_toList] at inside
      omega

end Rewriter

/-- Whatever a text holds, it is tagged and untagged: no slice is out of place, there is an end, and the
result is the text with some contents of keys `value` replaced, which is what `Scalar.tag` and
`Scalar.untag` make of its characters. -/
theorem rewrites_any_text (text : String) :
    Rewriter.Rewrites ByteReader.wrap Scalar.wrap text
      ∧ Rewriter.Rewrites ByteReader.unwrap Scalar.unwrap text :=
  ⟨Rewriter.rewrites ByteReader.replaces_wrap Scalar.fits_wrap text,
    Rewriter.rewrites ByteReader.replaces_unwrap Scalar.fits_unwrap text⟩

end Treegram.Json
