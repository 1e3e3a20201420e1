import Mathlib.Algebra.Order.BigOperators.Group.List
import Mathlib.Algebra.Order.Ring.Nat
import Std.Data.TreeMap.Lemmas
import Treegram.Pattern.Reader

/-!
How much room a set takes, going by its boundaries. A range is spelled by a fixed number of
sequences of four bytes at most, every byte range of a sequence is one step at most, and a state has
a step at least. Laying a set out is a lot of work; counting its boundaries is not.
-/

namespace Treegram

/-! ## Boundaries -/

namespace Unicode

namespace Boundaries

theorem length_combineFrom_le (keep : Bool → Bool → Bool) (inLeft inRight : Bool)
    (left right : Boundaries) :
    (combineFrom keep inLeft inRight left right).length ≤ left.length + right.length := by
  fun_induction combineFrom keep inLeft inRight left right <;> grind

theorem length_combine_le (keep : Bool → Bool → Bool) (left right : Boundaries) :
    (combine keep left right).length ≤ left.length + right.length :=
  length_combineFrom_le keep false false left right

theorem length_ofRanges_le (ranges : Ranges) : (ofRanges ranges).length ≤ 2 * ranges.length := by
  induction ranges with
  | nil => exact Nat.le_refl _
  | cons range rest ih =>
      simp only [ofRanges, List.foldr_cons, List.length_cons] at ih ⊢
      split
      · split <;> simp_all <;> omega
      · simp only [List.length_cons, List.length_nil]
        omega

theorem length_toRanges_le (set : Boundaries) : 2 * set.toRanges.length ≤ set.length := by
  fun_induction toRanges set with
  | case1 first behind rest ih =>
      simp only [List.length_cons]
      omega
  | case2 set _ => exact Nat.zero_le _

end Boundaries

/-! ## Sequences -/

namespace Utf8

theorem length_encode_le (c : Nat) : (encode c).length ≤ 4 := by
  unfold encode
  split
  · exact Nat.le_add_left 1 3
  · split
    · exact Nat.le_add_left 2 2
    · split
      · exact Nat.le_add_left 3 1
      · exact Nat.le_refl 4

theorem length_cut_le (sizes : List Nat) (first last : Nat) :
    (cut sizes first last).length ≤ 2 * sizes.length + 1 := by
  induction sizes generalizing first last with
  | nil => exact Nat.le_refl 1
  | cons size sizes ih =>
      rw [cut]
      grind

theorem length_sequences_le (range : Nat × Nat) : (sequences range).length ≤ 29 := by
  have pieces (first last : Nat) : (cut [0x40, 0x1000, 0x40000] first last).length ≤ 7 :=
    length_cut_le _ first last
  simp only [sequences, longSegments, List.flatMap_cons, List.flatMap_nil, List.length_append]
  grind

theorem length_flatMap_le {α β : Type} {f : α → List β} {most : Nat} {list : List α}
    (bounded : ∀ item ∈ list, (f item).length ≤ most) :
    (list.flatMap f).length ≤ most * list.length := by
  rw [List.length_flatMap, Nat.mul_comm, ← List.length_map (fun item => (f item).length)]
  refine List.sum_le_card_nsmul _ most fun length held => ?_
  obtain ⟨item, inside, rfl⟩ := List.mem_map.mp held
  exact bounded item inside

theorem length_flatMap_sequences_le (ranges : Ranges) :
    (ranges.flatMap sequences).length ≤ 29 * ranges.length :=
  length_flatMap_le fun range _ => length_sequences_le range

theorem length_of_mem_sequences {range : Nat × Nat} {sequence : List ByteRange}
    (held : sequence ∈ sequences range) : sequence.length ≤ 4 := by
  rw [sequences] at held
  rcases List.mem_append.mp held with short | long
  · split at short
    · rw [List.mem_singleton.mp short]
      exact Nat.le_add_left 1 3
    · cases short
  · obtain ⟨segment, _, inside⟩ := List.mem_flatMap.mp long
    simp only at inside
    split at inside
    · cases inside
    · obtain ⟨piece, _, rfl⟩ := List.mem_map.mp inside
      rw [List.length_zip]
      exact Nat.le_trans (Nat.min_le_left _ _) (length_encode_le _)

theorem length_flatten_sequences_le (ranges : Ranges) :
    (ranges.flatMap sequences).flatten.length ≤ 4 * (ranges.flatMap sequences).length := by
  rw [← List.flatMap_id]
  refine length_flatMap_le fun sequence inside => ?_
  obtain ⟨range, _, spelled⟩ := List.mem_flatMap.mp inside
  exact length_of_mem_sequences spelled

end Utf8

end Unicode

namespace Pattern

open Unicode (Boundaries Ranges)
open Unicode.Utf8 (ByteRange)

namespace Footprint

/-! ## States -/

deriving instance DecidableEq for Step

theorem Step.compare_eq : compare (α := Step) =
    compareLex (compareOn Step.first) (compareLex (compareOn Step.last) (compareOn Step.next)) := by
  funext step other
  simp [compare, instOrdStep.ord, compareLex, compareOn]

instance : Std.TransOrd Step := by
  rw [Std.TransOrd, Step.compare_eq]
  infer_instance

theorem Step.eq_of_compare {step other : Step} (same : compare step other = .eq) : step = other := by
  rw [Step.compare_eq] at same
  obtain ⟨first, last, next⟩ := step
  obtain ⟨first', last', next'⟩ := other
  simpa [compareLex, compareOn, Ordering.then_eq_eq] using same

instance : Std.LawfulEqOrd Step where
  eq_of_compare := Step.eq_of_compare

namespace States

/-- The room of states, without the one behind a character. -/
def room (states : States) : Nat :=
  (states.toList.map fun state => stateRoom + stepRoom * state.1.length).sum

theorem foldl_room (states : States) (found : Nat) :
    states.foldl (fun room steps _ => room + stateRoom + stepRoom * steps.length) found =
      found + states.room := by
  rw [Std.TreeMap.foldl_eq_foldl_toList, room]
  induction states.toList generalizing found with
  | nil => rfl
  | cons state states ih =>
      simp only [List.foldl_cons, ih, List.map_cons, List.sum_cons]
      omega

theorem room_insert_le (states : States) (steps : List Step) (number : Nat) :
    room (states.insert steps number) ≤ states.room + (stateRoom + stepRoom * steps.length) := by
  have inserted := (Std.TreeMap.toList_insert_perm (t := states) (k := steps) (v := number)).map
    fun state => stateRoom + stepRoom * state.1.length
  have kept := (List.filter_sublist (p := fun state => decide ¬(steps == state.1) = true)
    (l := states.toList)).map fun state => stateRoom + stepRoom * state.1.length
  rw [room, inserted.sum_nat, List.map_cons, List.sum_cons, Nat.add_comm]
  exact Nat.add_le_add_right (kept.sum_le_sum fun _ _ => Nat.zero_le _) _

end States

theorem room_stateWith_le (steps : List Step) (states : States) :
    (stateWith steps states).2.room ≤ states.room + (stateRoom + stepRoom * steps.length) := by
  rw [stateWith]
  split
  · exact Nat.le_add_right _ _
  · exact states.room_insert_le steps _

/-- Every byte range of the sequences stands at the beginning of a choice, or behind one. -/
theorem length_byFirst_le (sequences : List (List ByteRange)) :
    (byFirst sequences).length + ((byFirst sequences).map (·.2.flatten.length)).sum ≤
      sequences.flatten.length := by
  fun_induction byFirst sequences <;> grind

/-- The states that read what stands behind each choice, which are made one after the other. -/
theorem room_foldl_build_le {length : Nat}
    (bounded : ∀ sequences states, (build length sequences states).2.room ≤
      states.room + (stateRoom + stepRoom) * sequences.flatten.length)
    (choices : List (ByteRange × List (List ByteRange))) (found : List Step × States) :
    let made := choices.foldl (fun (found : List Step × States) choice =>
      let (number, states) := build length choice.2 found.2
      (⟨choice.1.1, choice.1.2, number⟩ :: found.1, states)) found
    made.1.length = found.1.length + choices.length ∧
      made.2.room ≤ found.2.room +
        (stateRoom + stepRoom) * (choices.map (·.2.flatten.length)).sum := by
  induction choices generalizing found with
  | nil => exact ⟨rfl, Nat.le_add_right _ _⟩
  | cons choice choices ih =>
      have step := bounded choice.2 found.2
      obtain ⟨counted, room⟩ := ih
        (⟨choice.1.1, choice.1.2, (build length choice.2 found.2).1⟩ :: found.1,
          (build length choice.2 found.2).2)
      simp only [List.foldl_cons, List.length_cons, List.map_cons, List.sum_cons, Nat.mul_add]
        at counted room ⊢
      exact ⟨by omega, by omega⟩

theorem room_build_le (length : Nat) (sequences : List (List ByteRange)) (states : States) :
    (build length sequences states).2.room ≤
      states.room + (stateRoom + stepRoom) * sequences.flatten.length := by
  induction length generalizing sequences states with
  | zero => exact Nat.le_add_right _ _
  | succ length ih =>
      have begun := length_byFirst_le sequences
      rw [build]
      split
      · exact Nat.le_add_right _ _
      · next choices solid =>
          have laid := room_foldl_build_le ih (byFirst sequences) ([], states)
          generalize List.foldl _ _ _ = made at laid ⊢
          obtain ⟨steps, states'⟩ := made
          obtain ⟨counted, behind⟩ := laid
          have own := room_stateWith_le steps.reverse states'
          have choice : 0 < (byFirst sequences).length := List.length_pos_of_ne_nil solid
          rw [List.length_reverse] at own
          simp only [stateRoom, stepRoom, List.length_nil, Nat.zero_add] at counted behind own ⊢
          omega

theorem forwardSet_le (sequences : List (List ByteRange)) :
    forwardSet sequences ≤ stateRoom + (stateRoom + stepRoom) * sequences.flatten.length := by
  have built := room_build_le 4 sequences ∅
  rw [forwardSet]
  simp only [States.foldl_room]
  have empty : States.room ∅ = 0 := rfl
  omega

theorem beginnings_le (previous : List ByteRange) (sequences : List (List ByteRange)) :
    beginnings previous sequences ≤ sequences.flatten.length := by
  induction sequences generalizing previous with
  | nil => exact Nat.le_refl 0
  | cons next rest ih =>
      rw [beginnings, List.flatten_cons, List.length_append]
      exact Nat.add_le_add (Nat.sub_le _ _) (ih next)

/-- Both directions keep to a room. -/
structure Within (footprint : Footprint) (room : Nat) : Prop where
  forward : footprint.forward ≤ room
  backward : footprint.backward ≤ room

theorem within_both (room : Nat) : (both room).Within room := ⟨Nat.le_refl room, Nat.le_refl room⟩

theorem Within.mono {footprint : Footprint} {room more : Nat} (within : footprint.Within room)
    (fits : room ≤ more) : footprint.Within more :=
  ⟨Nat.le_trans within.forward fits, Nat.le_trans within.backward fits⟩

theorem Within.add {left right : Footprint} {room more : Nat} (first : left.Within room)
    (second : right.Within more) : (left + right).Within (room + more) :=
  ⟨Nat.add_le_add first.forward second.forward, Nat.add_le_add first.backward second.backward⟩

theorem Within.unbounded {body : Footprint} {room : Nat} (within : body.Within room) (isSolid : Bool)
    (low : Nat) : (ofTimes body isSolid low none).Within
      ((low + 1) * room + (2 * forkRoom + stateRoom)) := by
  obtain ⟨forward, backward⟩ := within
  match low with
  | 0 =>
      rw [Nat.zero_add, Nat.one_mul]
      refine Within.add ⟨forward, backward⟩ ((within_both _).mono ?_)
      cases isSolid <;> decide
  | low + 1 =>
      have scaled : (body.scale (low + 1)).Within ((low + 1 + 1) * room) :=
        ⟨Nat.mul_le_mul (Nat.le_succ _) forward, Nat.mul_le_mul (Nat.le_succ _) backward⟩
      exact scaled.add ((within_both forkRoom).mono (by decide))

/-- The most room that a set takes for each of its boundaries. -/
def boundaryRoom : Nat := 2320

theorem ofSet_within (set : Boundaries) :
    (ofSet set).Within (2 * stateRoom + boundaryRoom * set.length) := by
  have ranges := set.length_toRanges_le
  rw [ofSet]
  split
  · constructor <;> simp only [both, stateRoom, stepRoom, boundaryRoom] <;> omega
  · have short := Unicode.Utf8.length_flatMap_sequences_le set.toRanges
    have long := Unicode.Utf8.length_flatten_sequences_le set.toRanges
    constructor
    · have forward := forwardSet_le (set.toRanges.flatMap Unicode.Utf8.sequences)
      simp only [stateRoom, stepRoom, boundaryRoom] at forward ⊢
      omega
    · have backward := beginnings_le [] (set.toRanges.flatMap Unicode.Utf8.sequences)
      simp only [backwardSet, stateRoom, branchRoom, boundaryRoom] at backward ⊢
      omega

end Footprint

/-! ## Patterns -/

/-- The most boundaries that a set can have, going by those of the sets it is made of. -/
def CharSet.size : CharSet → Nat
  | .ranges list => 2 * list.length
  | .property p => p.boundaries.length
  | .union a b | .inter a b | .minus a b | .either a b => a.size + b.size
  | .complement a => 4 + a.size
  | .folded a => (CharSet.folded a).boundaries.length
  | .foldedAscii a => (CharSet.foldedAscii a).boundaries.length

theorem CharSet.length_boundaries_le (set : CharSet) : set.boundaries.length ≤ set.size := by
  induction set with
  | ranges list => exact Boundaries.length_ofRanges_le list
  | property p => exact Nat.le_refl _
  | union a b left right | inter a b left right | minus a b left right | either a b left right =>
      exact Nat.le_trans (Boundaries.length_combine_le _ _ _) (Nat.add_le_add left right)
  | complement a inside =>
      exact Nat.le_trans (Boundaries.length_combine_le _ _ _) (Nat.add_le_add_left inside 4)
  | folded a | foldedAscii a => exact Nat.le_refl _

/-- Only a set of one character is not laid out as a set. -/
theorem Outline.ofSet_cases (set : Boundaries) :
    Outline.ofSet set = .oneOf set ∨ ∃ c, Outline.ofSet set = .text [c] := by
  unfold Outline.ofSet
  split
  · split
    · exact .inr ⟨_, rfl⟩
    · exact .inl rfl
  · exact .inl rfl

theorem Outline.footprint_choice {alternatives : List Outline}
    (mixed : alternatives.mapM Footprint.text? = none) (ofSet : Boundaries → Footprint) :
    (Outline.choice alternatives).footprint ofSet = Outline.footprints ofSet
      (.both (2 * stateRoom + branchRoom * alternatives.length)) alternatives := by
  rw [Outline.footprint, mixed]

theorem Outline.footprint_char_within (c : Char) (ofSet : Boundaries → Footprint) :
    ((Outline.text [c]).footprint ofSet).Within (4 * stateRoom) := by
  have bytes : (Footprint.bytes [c]).length ≤ 4 := by
    rw [Footprint.bytes, List.flatMap_singleton]
    exact Unicode.Utf8.length_encode_le _
  rw [Outline.footprint]
  constructor <;> (simp only [Footprint.both, stateRoom]; omega)

theorem Outline.footprint_ofSet_within (set : Boundaries) :
    ((Outline.ofSet set).footprint Footprint.ofSet).Within
      (4 * stateRoom + Footprint.boundaryRoom * set.length) := by
  rcases Outline.ofSet_cases set with same | ⟨c, same⟩
  · rw [same, Outline.footprint]
    exact (Footprint.ofSet_within set).mono (by simp only [stateRoom]; omega)
  · rw [same]
    exact (Outline.footprint_char_within c _).mono (Nat.le_add_right _ _)

/-- It makes no difference that each set is measured once. -/
theorem lookup_measured (sets : List Boundaries) (set : Boundaries) :
    ((sets.map fun set => (set, Footprint.ofSet set)).lookup set).getD (.ofSet set) =
      Footprint.ofSet set := by
  induction sets with
  | nil => rfl
  | cons first sets ih =>
      rw [List.map_cons, List.lookup_cons]
      split
      · next same =>
          rw [beq_iff_eq.mp same]
          rfl
      · exact ih

/-- The room of what leads to a pattern and of what stands at its end. -/
def Footprint.around : Footprint :=
  ⟨forkRoom + 2 * stateRoom + stepRoom + 3 * stateRoom,
    forkRoom + 2 * stateRoom + stepRoom + stateRoom⟩

theorem Expr.footprint_eq (expr : Expr) : 
    expr.footprint = .around + expr.outline.footprint Footprint.ofSet := by
  simp only [Expr.footprint, lookup_measured]
  rfl

theorem Limits.admit_of_within {limits : Limits} {piece : Piece} {room : Nat}
    (within : piece.expr.footprint.Within room) (shallow : piece.depth ≤ limits.depth)
    (fits : room ≤ limits.room) : limits.admit piece = true := by
  obtain ⟨forward, backward⟩ := within.mono fits
  unfold Limits.admit
  rw [Bool.and_eq_true, decide_eq_true_iff, decide_eq_true_iff]
  exact ⟨shallow, forward, backward⟩

end Pattern
end Treegram
