import Std.Data.ExtTreeMap
import Std.Data.TreeSet

/-!
What is kept in order. Two maps by name that hold the same pairs are the same map, in
whatever order they were filled, and whatever walks a map walks it in name order.
-/

namespace Treegram

abbrev NameMap (α : Type) : Type := Std.ExtTreeMap String α

instance {α : Type} [DecidableEq α] : DecidableEq (NameMap α) := instDecidableEqOfLawfulBEq

/-- The items that occur, in their order, each once. -/
def ascending {α : Type} [Ord α] (items : List α) : List α := (Std.TreeSet.ofList items).toList

theorem mem_ascending {α : Type} [Ord α] [Std.TransOrd α] [Std.LawfulEqOrd α] [BEq α]
    [LawfulBEq α] {item : α} {items : List α} : item ∈ ascending items ↔ item ∈ items := by
  rw [ascending, Std.TreeSet.mem_toList, Std.TreeSet.mem_ofList, List.contains_iff_mem]

theorem ascending_pairwise {α : Type} [Ord α] [Std.TransOrd α] (items : List α) :
    (ascending items).Pairwise (fun a b => compare a b = .lt) :=
  Std.TreeSet.ordered_toList

end Treegram
