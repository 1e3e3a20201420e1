import Treegram.Ordered

/-!
The order of names. Texts are compared character by character; comparing their UTF-8 bytes
instead gives the same order, because the encodings of two characters part at some byte, and the
larger character has the larger byte there.
-/

namespace Treegram.Unicode

/-- The bytes of a text. -/
def utf8Bytes (text : String) : List UInt8 := text.toByteArray.data.toList

theorem utf8Bytes_eq (text : String) : utf8Bytes text = text.toList.flatMap String.utf8EncodeChar := by
  rw [utf8Bytes, ← String.utf8Encode_toList, List.utf8Encode, List.toList_data_toByteArray]

/-- Two lists of bytes part, and the first one has the smaller byte there. -/
inductive PartsBelow : List UInt8 → List UInt8 → Prop where
  | here {first second : UInt8} (less : first < second) (rest rest' : List UInt8) :
      PartsBelow (first :: rest) (second :: rest')
  | later (shared : UInt8) {rest rest' : List UInt8} (below : PartsBelow rest rest') :
      PartsBelow (shared :: rest) (shared :: rest')

theorem PartsBelow.lt {left right : List UInt8} (below : PartsBelow left right)
    (more more' : List UInt8) : left ++ more < right ++ more' := by
  induction below with
  | here less => exact List.cons_lt_cons_iff.mpr (Or.inl less)
  | later shared _ ih => exact List.cons_lt_cons_iff.mpr (Or.inr ⟨rfl, ih⟩)

/-- Equal bytes leave the question to the bytes behind them. -/
theorem PartsBelow.next {first second : Nat} {rest rest' : List UInt8} (le : first ≤ second)
    (small : second < 256) (behind : first = second → PartsBelow rest rest') :
    PartsBelow (UInt8.ofNat first :: rest) (UInt8.ofNat second :: rest') := by
  rcases Nat.lt_or_eq_of_le le with less | same
  · refine .here ?_ rest rest'
    rw [UInt8.lt_iff_toNat_lt, UInt8.toNat_ofNat', UInt8.toNat_ofNat']
    omega
  · rw [same]
    exact .later _ (behind same)

/-- The larger of two characters has the larger encoding, whatever stands behind the two. -/
theorem encoded_below {c d : Char} (less : c < d) :
    PartsBelow (String.utf8EncodeChar c) (String.utf8EncodeChar d) := by
  have less : c.val.toNat < d.val.toNat := less
  have bound : d.val.toNat < 0x110000 := by
    rcases d.valid with low | ⟨_, high⟩
    · exact Nat.lt_trans low (by decide)
    · exact high
  -- Longer encodings have larger first bytes, so the lengths are told apart at once.
  rw [String.utf8EncodeChar, String.utf8EncodeChar]
  split
  · split
    · exact .next (by omega) (by omega) fun _ => by omega
    · split
      · exact .next (by omega) (by omega) fun _ => by omega
      · split <;> exact .next (by omega) (by omega) fun _ => by omega
  · have long : ¬ d.val.toNat ≤ 0x7f := by omega
    rw [if_neg long]
    split
    · split
      · refine .next (by omega) (by omega) fun _ => ?_
        exact .next (by omega) (by omega) fun _ => by omega
      · split <;> exact .next (by omega) (by omega) fun _ => by omega
    · have longer : ¬ d.val.toNat ≤ 0x7ff := by omega
      rw [if_neg longer]
      split
      · split
        · refine .next (by omega) (by omega) fun _ => ?_
          refine .next (by omega) (by omega) fun _ => ?_
          exact .next (by omega) (by omega) fun _ => by omega
        · exact .next (by omega) (by omega) fun _ => by omega
      · have longest : ¬ d.val.toNat ≤ 0xffff := by omega
        rw [if_neg longest]
        refine .next (by omega) (by omega) fun _ => ?_
        refine .next (by omega) (by omega) fun _ => ?_
        refine .next (by omega) (by omega) fun _ => ?_
        exact .next (by omega) (by omega) fun _ => by omega

theorem utf8EncodeChar_ne_nil (c : Char) : String.utf8EncodeChar c ≠ [] := by
  rw [String.utf8EncodeChar]
  split
  · exact List.cons_ne_nil _ _
  · split
    · exact List.cons_ne_nil _ _
    · split <;> exact List.cons_ne_nil _ _

theorem encoded_lt {left right : List Char} (less : left < right) :
    left.flatMap String.utf8EncodeChar < right.flatMap String.utf8EncodeChar := by
  induction less with
  | nil =>
      rename_i c rest
      rw [List.flatMap_nil, List.flatMap_cons]
      obtain ⟨first, more, shape⟩ := List.exists_cons_of_ne_nil (utf8EncodeChar_ne_nil c)
      rw [shape]
      exact List.Lex.nil
  | rel less => exact (encoded_below less).lt _ _
  | cons _ ih =>
      rw [List.flatMap_cons, List.flatMap_cons]
      exact List.append_left_lt ih

/-- Names in ascending order are in the order of their bytes. -/
theorem utf8Bytes_lt {left right : String} (less : compare left right = .lt) :
    utf8Bytes left < utf8Bytes right := by
  have less : left < right := compareOfLessAndEq_eq_lt.mp less
  rw [utf8Bytes_eq, utf8Bytes_eq]
  exact encoded_lt less

end Treegram.Unicode
