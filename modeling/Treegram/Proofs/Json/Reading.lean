import Treegram.Json.Reader
import Treegram.Proofs.Json.Decimal

/-!
Written trees are read back. The tokens of a written value are those of its parts one
after the other, and a stack that waits for a value takes all of them as one step: as if
the value had been put there whole.
-/

namespace Treegram.Json

namespace Token

theorem scanOnto_eq (found : List Token) (text : List Char) :
    scanOnto found text = found.reverse ++ scan text := by
  -- Along the cases of the scan, as for the segments of a rewriter.
  cases text with
  | nil => rw [scan, scanOnto, scanOnto, List.reverse_nil, List.append_nil]
  | cons c rest =>
      rw [scan, scanOnto, scanOnto]
      split
      case isTrue => exact scanOnto_eq found rest
      case isFalse =>
        cases punctuation? c with
        | some token =>
            dsimp only
            rw [scanOnto_eq (token :: found), scanOnto_eq [token]]
            simp
        | none =>
            dsimp only
            split
            case isTrue =>
              cases closing? 0 rest with
              | none => simp
              | some count =>
                  dsimp only
                  cases unescape? (rest.take (count - 1)) with
                  | none => simp
                  | some content =>
                      dsimp only
                      rw [scanOnto_eq (_ :: found), scanOnto_eq [_]]
                      simp
            case isFalse =>
              split
              case isTrue =>
                split
                case isTrue =>
                  rw [scanOnto_eq (_ :: found), scanOnto_eq [_]]
                  simp
                case isFalse => simp
              case isFalse =>
                cases word? (c :: rest) with
                | none => simp
                | some read =>
                    dsimp only
                    rw [scanOnto_eq (_ :: found), scanOnto_eq [_]]
                    simp
termination_by text.length
decreasing_by all_goals simp; try omega

theorem scan_punctuation {c : Char} {token : Token} (blank : isBlank c = false)
    (mark : punctuation? c = some token) (rest : List Char) :
    scan (c :: rest) = token :: scan rest := by
  rw [scan, scanOnto, blank, mark]
  exact scanOnto_eq [token] rest

theorem scan_quoted (content : String) (rest : List Char) :
    scan (Value.quoted content ++ rest) = string content :: scan rest := by
  have closed := Scalar.closing_quoted content rest
  have length : (escape content.toList ++ ['"']).length - 1 = (escape content.toList).length := by
    simp
  have inside : (escape content.toList ++ ['"'] ++ rest).take
      ((escape content.toList ++ ['"']).length - 1) = escape content.toList := by
    rw [length, List.append_assoc, List.take_left]
  have read : unescape? ((escape content.toList ++ ['"'] ++ rest).take
      ((escape content.toList ++ ['"']).length - 1)) = some content.toList := by
    rw [inside, unescape_escape]
  have text : scan (Value.quoted content ++ rest) =
      scan ('"' :: (escape content.toList ++ ['"'] ++ rest)) := rfl
  rw [text, scan, scanOnto, if_neg (by decide), show punctuation? '"' = none from rfl]
  dsimp only
  rw [if_pos rfl, closed]
  dsimp only
  rw [read, List.drop_left]
  dsimp only
  rw [scanOnto_eq, String.ofList_toList]
  rfl

theorem scan_bool (value : Bool) (rest : List Char) :
    scan ((Value.bool value).chars ++ rest) = bool value :: scan rest := by
  cases value with
  | false =>
      show scanOnto [] ('f' :: 'a' :: 'l' :: 's' :: 'e' :: rest) = _
      rw [scanOnto]
      simp [isBlank, punctuation?, isNumberStart, word?, scanOnto_eq]
  | true =>
      show scanOnto [] ('t' :: 'r' :: 'u' :: 'e' :: rest) = _
      rw [scanOnto]
      simp [isBlank, punctuation?, isNumberStart, word?, scanOnto_eq]

theorem numberStart_only {c : Char} (start : isNumberStart c = true) :
    isBlank c = false ∧ punctuation? c = none ∧ c ≠ '"' := by
  refine ⟨?_, ?_, ?_⟩
  · cases found : isBlank c with
    | false => rfl
    | true =>
        simp only [isBlank, Bool.or_eq_true, beq_iff_eq] at found
        rcases found with ((rfl | rfl) | rfl) | rfl <;> exact absurd start (by decide)
  · unfold punctuation?
    split <;> first | rfl | exact absurd start (by decide)
  · rintro rfl
    exact absurd start (by decide)

theorem scan_number {text rest : List Char} {number : Decimal} {c : Char}
    (head : text.head? = some c) (start : isNumberStart c = true) (spelled : number.chars = text)
    (read : Decimal.front (text ++ rest) = number) (valid : number.isValid = true) :
    scan (text ++ rest) = .number number :: scan rest := by
  obtain ⟨tail, rfl⟩ := List.head?_eq_some_iff.mp head
  obtain ⟨blank, mark, quote⟩ := numberStart_only start
  have length : number.chars.length - 1 = tail.length := by rw [spelled]; rfl
  rw [List.cons_append] at read ⊢
  rw [scan, scanOnto, blank, mark]
  dsimp only
  rw [if_neg (by decide), if_neg quote, if_pos start, read, if_pos valid, length, List.drop_left]
  exact scanOnto_eq [_] rest

theorem scan_integer {size : Int} (low : -2147483648 ≤ size) (high : size < 2147483648)
    {rest : List Char} (ends : EndsValue rest) :
    scan ((Decimal.ofInt size).chars ++ rest) = .number (.ofInt size) :: scan rest := by
  have begins : ∃ c, (Decimal.ofInt size).chars.head? = some c ∧ isNumberStart c = true := by
    rw [Decimal.chars_ofInt, Decimal.sign]
    by_cases negative : size < 0
    · exact ⟨'-', by rw [if_pos negative]; rfl, rfl⟩
    · obtain ⟨c, head, digit⟩ := Decimal.head_digits size.natAbs []
      refine ⟨c, ?_, by simp [isNumberStart, digit]⟩
      rwa [if_neg negative, List.nil_append, ← List.append_nil (Nat.toDigits 10 size.natAbs)]
  obtain ⟨c, head, start⟩ := begins
  exact scan_number head start rfl (Decimal.front_ofInt size ends) (Decimal.valid_ofInt low high)

end Token

section Trees
variable {Place : Type} {layout : Layout Place} {start : Place}

/-- Trees of which every member is wanted and every number is a level. -/
inductive Legible (layout : Layout Place) : Place → Value → Prop where
  | bool (place : Place) (value : Bool) : Legible layout place (.bool value)
  | string (place : Place) (content : String) : Legible layout place (.string content)
  | integer (place : Place) {size : Int} (low : -2147483648 ≤ size) (high : size < 2147483648) :
      Legible layout place (.integer size)
  | array {place : Place} {items : List Value}
      (inside : ∀ item ∈ items, Legible layout (layout.item place) item) :
      Legible layout place (.array items)
  | object {place : Place} {members : List (String × Value)} (inner : String → Place)
      (wanted : ∀ member ∈ members, layout.member? place member.1 = some (inner member.1))
      (inside : ∀ member ∈ members, Legible layout (inner member.1) member.2) :
      Legible layout place (.object members)

namespace Progress

/-- Goes on from where a step has led. -/
def resume (layout : Layout Place) (start : Place) (tokens : List Token) :
    Option (Progress Place) → Option Value
  | none => none
  | some (done value) => some value
  | some (more stack) => run layout start stack tokens

theorem run_cons (stack : List (Pending Place)) (token : Token) (rest : List Token) :
    run layout start stack (token :: rest) =
      resume layout start rest (step layout start stack token) := by
  rw [run]
  cases step layout start stack token with
  | none => rfl
  | some progress => cases progress <;> rfl

/-- The stack waits for a value, which will stand at `place`. -/
def Awaits (layout : Layout Place) (start : Place) : List (Pending Place) → Place → Prop
  | [], place => place = start
  | .array outer _ _ :: _, place => place = layout.item outer
  | .member _ _ _ inner _ :: _, place => place = inner
  | _, _ => False

/-- Opening brackets and scalars are taken alike by all stacks that wait for a value. -/
theorem step_awaits {stack : List (Pending Place)} {place : Place}
    (awaits : Awaits layout start stack place) :
    (∀ value, step layout start stack (.bool value) = put (.bool value) stack) ∧
    (∀ content, step layout start stack (.string content) = put (.string content) stack) ∧
    (∀ decimal, step layout start stack (.number decimal) = put (.number decimal) stack) ∧
    step layout start stack .beginArray = some (more (.array place [] false :: stack)) ∧
    step layout start stack .beginObject = some (more (.object place [] false :: stack)) := by
  cases stack with
  | nil =>
      cases awaits
      exact ⟨fun _ => rfl, fun _ => rfl, fun _ => rfl, rfl, rfl⟩
  | cons top below =>
      cases top with
      | array =>
          cases awaits
          exact ⟨fun _ => rfl, fun _ => rfl, fun _ => rfl, rfl, rfl⟩
      | member =>
          cases awaits
          exact ⟨fun _ => rfl, fun _ => rfl, fun _ => rfl, rfl, rfl⟩
      | object => exact awaits.elim
      | passing => exact awaits.elim

/-- A written value is read as one step. -/
def ReadsWhole (layout : Layout Place) (start place : Place) (value : Value) : Prop :=
  ∀ stack, Awaits layout start stack place → ∀ rest, EndsValue rest →
    run layout start stack (Token.scan (value.chars ++ rest)) =
      resume layout start (Token.scan rest) (put value stack)

theorem run_comma {rest : List Char} (stack : List (Pending Place)) :
    run layout start stack (Token.scan (',' :: rest)) =
      resume layout start (Token.scan rest) (step layout start stack .comma) := by
  rw [Token.scan_punctuation rfl rfl, run_cons]

theorem ends_items (items : List (List Char)) {rest : List Char} (ends : EndsValue rest) :
    EndsValue (items.flatMap (',' :: ·) ++ rest) := by
  cases items with
  | nil => exact ends
  | cons => exact ends_mark _ (Or.inl rfl)

theorem run_items {place : Place} {items : List Value}
    (inside : ∀ item ∈ items, ReadsWhole layout start (layout.item place) item)
    (found : List Value) (stack : List (Pending Place)) (rest : List Char) :
    run layout start (.array place found false :: stack)
        (Token.scan ((items.map Value.chars).flatMap (',' :: ·) ++ ']' :: rest)) =
      resume layout start (Token.scan rest) (put (.array (found.reverse ++ items)) stack) := by
  induction items generalizing found with
  | nil =>
      rw [List.append_nil, List.map_nil, List.flatMap_nil, List.nil_append,
        Token.scan_punctuation rfl rfl, run_cons]
      rfl
  | cons item items ih =>
      have ends := ends_items (items.map Value.chars) (ends_mark rest (Or.inr (Or.inl rfl)))
      have read := inside item List.mem_cons_self (.array place found true :: stack) rfl _ ends
      have later := ih (fun other member => inside other (List.mem_cons_of_mem item member))
        (item :: found)
      simp only [List.map_cons, List.flatMap_cons, List.cons_append, List.append_assoc]
      rw [List.reverse_cons, List.append_assoc] at later
      rw [run_comma]
      exact read.trans later

theorem reads_array {place : Place} {items : List Value}
    (inside : ∀ item ∈ items, ReadsWhole layout start (layout.item place) item) :
    ReadsWhole layout start place (.array items) := by
  intro stack awaits rest _
  have opened : run layout start stack (Token.scan ((Value.array items).chars ++ rest)) =
      run layout start (.array place [] false :: stack)
        (Token.scan (Value.listed (items.map Value.chars) ++ ']' :: rest)) := by
    rw [Value.chars_array, List.cons_append, Token.scan_punctuation rfl rfl, run_cons,
      (step_awaits awaits).2.2.2.1, List.append_assoc]
    rfl
  rw [opened]
  cases items with
  | nil => exact run_items inside [] stack rest
  | cons item items =>
      have ends := ends_items (items.map Value.chars) (ends_mark rest (Or.inr (Or.inl rfl)))
      have read := inside item List.mem_cons_self (.array place [] false :: stack) rfl _ ends
      have later := run_items (fun other member => inside other (List.mem_cons_of_mem item member))
        [item] stack rest
      rw [List.map_cons, Value.listed_cons, List.append_assoc]
      exact read.trans later

/-- The place of a wanted member is the place of its value. -/
theorem run_member {place inner : Place} {key : String} {value : Value}
    (wanted : layout.member? place key = some inner)
    (inside : ReadsWhole layout start inner value) (comma : Bool)
    (found : List (String × Value)) (stack : List (Pending Place)) {rest : List Char}
    (ends : EndsValue rest) :
    run layout start (.object place found comma :: stack)
        (Token.scan (Scalar.memberChars (key, value) ++ rest)) =
      run layout start (.object place ((key, value) :: found) false :: stack) (Token.scan rest) := by
  have keyed : step layout start (.object place found comma :: stack) (.string key) =
      some (more (.member place found key inner false :: stack)) := by
    rw [step, Progress.key, wanted]
  rw [Scalar.memberChars, List.append_assoc, Token.scan_quoted, run_cons, keyed, resume,
    List.cons_append, Token.scan_punctuation rfl rfl, run_cons]
  exact inside (.member place found key inner true :: stack) rfl rest ends

theorem run_members {place : Place} {members : List (String × Value)} (inner : String → Place)
    (wanted : ∀ member ∈ members, layout.member? place member.1 = some (inner member.1))
    (inside : ∀ member ∈ members, ReadsWhole layout start (inner member.1) member.2)
    (found : List (String × Value)) (stack : List (Pending Place)) (rest : List Char) :
    run layout start (.object place found false :: stack)
        (Token.scan ((members.map Scalar.memberChars).flatMap (',' :: ·) ++ '\x7d' :: rest)) =
      resume layout start (Token.scan rest) (put (.object (found.reverse ++ members)) stack) := by
  induction members generalizing found with
  | nil =>
      rw [List.append_nil, List.map_nil, List.flatMap_nil, List.nil_append,
        Token.scan_punctuation rfl rfl, run_cons]
      rfl
  | cons member members ih =>
      have ends :=
        ends_items (members.map Scalar.memberChars) (ends_mark rest (Or.inr (Or.inr rfl)))
      have read := run_member (wanted member List.mem_cons_self) (inside member List.mem_cons_self)
        true found stack ends
      -- The member that is read stands in front of those that are read behind it.
      have later := ih (fun other held => wanted other (List.mem_cons_of_mem member held))
        (fun other held => inside other (List.mem_cons_of_mem member held)) (member :: found)
      rw [List.reverse_cons, List.append_assoc] at later
      simp only [List.map_cons, List.flatMap_cons, List.cons_append, List.append_assoc]
      rw [run_comma]
      exact read.trans later

theorem reads_object {place : Place} {members : List (String × Value)} (inner : String → Place)
    (wanted : ∀ member ∈ members, layout.member? place member.1 = some (inner member.1))
    (inside : ∀ member ∈ members, ReadsWhole layout start (inner member.1) member.2) :
    ReadsWhole layout start place (.object members) := by
  intro stack awaits rest _
  have opened : run layout start stack (Token.scan ((Value.object members).chars ++ rest)) =
      run layout start (.object place [] false :: stack)
        (Token.scan (Value.listed (members.map Scalar.memberChars) ++ '\x7d' :: rest)) := by
    rw [Value.chars_object, List.cons_append, Token.scan_punctuation rfl rfl, run_cons,
      (step_awaits awaits).2.2.2.2, List.append_assoc]
    rfl
  rw [opened]
  cases members with
  | nil => exact run_members inner wanted inside [] stack rest
  | cons member members =>
      have ends :=
        ends_items (members.map Scalar.memberChars) (ends_mark rest (Or.inr (Or.inr rfl)))
      have read := run_member (wanted member List.mem_cons_self) (inside member List.mem_cons_self)
        false [] stack ends
      have later := run_members inner
        (fun other held => wanted other (List.mem_cons_of_mem member held))
        (fun other held => inside other (List.mem_cons_of_mem member held)) [member] stack rest
      rw [List.map_cons, Value.listed_cons, List.append_assoc]
      exact read.trans later

theorem reads_legible {place : Place} {value : Value} (legible : Legible layout place value) :
    ReadsWhole layout start place value := by
  induction legible with
  | bool place value =>
      intro stack awaits rest _
      rw [Token.scan_bool, run_cons, (step_awaits awaits).1]
  | string place content =>
      intro stack awaits rest _
      rw [Value.chars_string, Token.scan_quoted, run_cons, (step_awaits awaits).2.1]
  | @integer place size low high =>
      intro stack awaits rest ends
      rw [Value.chars_integer, Token.scan_integer low high ends, run_cons,
        (step_awaits awaits).2.2.1]
      rfl
  | array _ ih => exact reads_array ih
  | object inner wanted _ ih => exact reads_object inner wanted ih

end Progress

/-- A legible tree is read back from its text. -/
theorem Layout.read_chars {value : Value} (legible : Legible layout start value) :
    layout.read? start value.chars = some value := by
  have whole : Progress.ReadsWhole layout start start value := Progress.reads_legible legible
  have read := whole [] rfl [] (Or.inl rfl)
  rw [List.append_nil] at read
  exact read

end Trees

end Treegram.Json
