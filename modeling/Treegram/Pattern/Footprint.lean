import Std.Data.TreeMap
import Treegram.Pattern.Outline
import Treegram.Unicode.Utf8

/-!
How much room a pattern takes when it is laid out for matching: once for reading
forwards and once for reading backwards, byte by byte, in states with steps to other
states. A repetition takes the room of its body as often as it counts.
-/

namespace Treegram.Pattern

open Unicode (Boundaries)
open Unicode.Utf8 (ByteRange)

/-- The room in bytes, for both directions. -/
structure Footprint where
  forward : Nat
  backward : Nat
  deriving DecidableEq

namespace Footprint

def both (size : Nat) : Footprint := ⟨size, size⟩

instance : Add Footprint := ⟨fun a b => ⟨a.forward + b.forward, a.backward + b.backward⟩⟩

def scale (count : Nat) (footprint : Footprint) : Footprint :=
  ⟨count * footprint.forward, count * footprint.backward⟩

end Footprint

/-- The room of a state without steps, or with one. -/
def stateRoom : Nat := 32

/-- The room of one of several steps. -/
def stepRoom : Nat := 8

/-- The room of one way out of a state that reads nothing. -/
def branchRoom : Nat := 4

/-- A state that reads nothing and has two ways out. -/
def forkRoom : Nat := stateRoom + 2 * branchRoom

namespace Footprint

/-! ## Sets -/

/-- The ranges with which sequences begin, each with what follows it. Sequences that begin alike
stand side by side. -/
def byFirst : List (List ByteRange) → List (ByteRange × List (List ByteRange))
  | [] => []
  | [] :: rest => byFirst rest
  | (range :: tail) :: rest =>
      match byFirst rest with
      | (next, tails) :: others =>
          if range = next then (range, tail :: tails) :: others
          else (range, [tail]) :: (next, tails) :: others
      | [] => [(range, [tail])]

/-- A step out of a state, with the number of the state that it leads to. -/
structure Step where
  first : Nat
  last : Nat
  next : Nat
  deriving Ord

/-- States by their steps, with their numbers, which begin at 1; 0 is the state behind a
character. -/
abbrev States := Std.TreeMap (List Step) Nat

/-- The number of the state with these steps, which may have been there before. -/
def stateWith (steps : List Step) (states : States) : Nat × States :=
  match states[steps]? with
  | some number => (number, states)
  | none => (states.size + 1, states.insert steps (states.size + 1))

/-- States that read one of the sequences, none of them longer than `length`. -/
def build (length : Nat) (sequences : List (List ByteRange)) (states : States) : Nat × States :=
  match length with
  | 0 => (0, states)
  | length + 1 =>
      match byFirst sequences with
      | [] => (0, states)
      | choices =>
          let (steps, states) := choices.foldl (fun (found : List Step × States) choice =>
            let (number, states) := build length choice.2 found.2
            (⟨choice.1.1, choice.1.2, number⟩ :: found.1, states)) ([], states)
          stateWith steps.reverse states

/-- States with equal steps are one state. -/
def forwardSet (sequences : List (List ByteRange)) : Nat :=
  let (_, states) := build 4 sequences ∅
  states.foldl (fun room steps _ => room + stateRoom + stepRoom * steps.length) stateRoom

def commonLength : List ByteRange → List ByteRange → Nat
  | a :: left, b :: right => if a = b then commonLength left right + 1 else 0
  | _, _ => 0

/-- The number of different beginnings of sequences in ascending order. -/
def beginnings (previous : List ByteRange) : List (List ByteRange) → Nat
  | [] => 0
  | next :: rest => next.length - commonLength previous next + beginnings next rest

/-- Sequences that begin alike share the states of their beginning. -/
def backwardSet (sequences : List (List ByteRange)) : Nat :=
  2 * stateRoom + branchRoom * sequences.length + stateRoom * beginnings [] sequences

/-- Sets of ASCII characters are read in one step, whatever the direction. -/
def ofSet (set : Boundaries) : Footprint :=
  let ranges := set.toRanges
  if ranges.all (·.2 < 0x80) then both (2 * stateRoom + stepRoom * ranges.length)
  else
    let sequences := ranges.flatMap Unicode.Utf8.sequences
    ⟨forwardSet sequences, backwardSet sequences⟩

/-! ## Texts -/

def bytes (chars : List Char) : List Nat := chars.flatMap fun c => Unicode.Utf8.encode c.toNat

/-- Texts by their bytes. A step is only shared by texts between which no text ends at its state:
`ends` counts those that do, and each step keeps the count at which it came. -/
inductive Trie where
  | node (ends : Nat) (steps : List (Nat × Nat × Trie))

namespace Trie

def leaf : Trie := node 0 []

/-- Changes the trie behind a step, which is added if it is not there. -/
def change (turn byte : Nat) (update : Trie → Trie) : List (Nat × Nat × Trie) → List (Nat × Nat × Trie)
  | [] => [(turn, byte, update leaf)]
  | (otherTurn, otherByte, trie) :: rest =>
      if otherTurn = turn ∧ otherByte = byte then (turn, byte, update trie) :: rest
      else (otherTurn, otherByte, trie) :: change turn byte update rest

def insert : List Nat → Trie → Trie
  | [], node ends steps => if steps.isEmpty ∧ 0 < ends then node ends steps else node (ends + 1) steps
  | byte :: rest, node ends steps => node ends (change ends byte (insert rest) steps)

/-- The room of the state for so many steps that came between two ends. -/
def stepsRoom (count : Nat) : Nat :=
  if count = 0 then 0
  else branchRoom + stateRoom + if count = 1 then 0 else stepRoom * count

mutual

/-- The room of a trie but for the state at the ends of the texts. -/
def room : Trie → Nat
  | node ends steps =>
      if steps.isEmpty then 0
      else
        let counts := (List.range (ends + 1)).map fun turn =>
          stepsRoom (steps.countP (·.1 == turn))
        stateRoom + branchRoom * ends + counts.foldl (· + ·) (roomBehind 0 steps)

def roomBehind (found : Nat) : List (Nat × Nat × Trie) → Nat
  | [] => found
  | (_, _, trie) :: rest => roomBehind (found + room trie) rest

end

end Trie

def ofTexts (texts : List (List Nat)) : Nat :=
  stateRoom + (texts.foldl (fun trie text => trie.insert text) Trie.leaf).room

def text? : Outline → Option (List Nat)
  | .text chars => some (bytes chars)
  | _ => none

/-! ## Outlines -/

/-- The room of a repetition, going by the room of its body; `isSolid` says that the body reads
something whenever it is matched. -/
def ofTimes (body : Footprint) (isSolid : Bool) (low : Nat) (high : Option Nat) : Footprint :=
  match low, high with
  | 0, none => body + both (if isSolid then forkRoom else 2 * forkRoom + stateRoom)
  | low, none => body.scale low + both forkRoom
  | 0, some 1 => body + both (forkRoom + stateRoom)
  | low, some high =>
      if low = high then body.scale low
      else
        let entry := if low = 0 then stateRoom else 0
        body.scale high + both (entry + stateRoom + (high - low) * forkRoom)

end Footprint

mutual

/-- The room of an outline, given the room of its sets. -/
def Outline.footprint (ofSet : Boundaries → Footprint) : Outline → Footprint
  | .empty | .assertion _ => .both stateRoom
  | .text chars => .both (stateRoom * (Footprint.bytes chars).length)
  | .oneOf set => ofSet set
  | .sequence parts => Outline.footprints ofSet (.both 0) parts
  | .choice alternatives =>
      match alternatives.mapM Footprint.text? with
      | some texts => ⟨Footprint.ofTexts texts, Footprint.ofTexts (texts.map List.reverse)⟩
      | none =>
          Outline.footprints ofSet (.both (2 * stateRoom + branchRoom * alternatives.length))
            alternatives
  | .times body low high =>
      .ofTimes (Outline.footprint ofSet body) (body.least?.any (0 < ·)) low high
  | .group _ body => ⟨2 * stateRoom, 0⟩ + Outline.footprint ofSet body

/-- The room of all outlines on top of what has been found. -/
def Outline.footprints (ofSet : Boundaries → Footprint) (found : Footprint) :
    List Outline → Footprint
  | [] => found
  | outline :: rest =>
      Outline.footprints ofSet (found + Outline.footprint ofSet outline) rest

end

mutual

/-- The sets in an outline on top of those found, each once. -/
def Outline.sets (found : List Boundaries) : Outline → List Boundaries
  | .empty | .assertion _ | .text _ => found
  | .oneOf set => if found.contains set then found else set :: found
  | .sequence parts => Outline.setsOfAll found parts
  | .choice alternatives => Outline.setsOfAll found alternatives
  | .times body _ _ => Outline.sets found body
  | .group _ body => Outline.sets found body

def Outline.setsOfAll (found : List Boundaries) : List Outline → List Boundaries
  | [] => found
  | outline :: rest => Outline.setsOfAll (Outline.sets found outline) rest

end

/-- The room of a whole pattern. Each set is measured once. In front of the pattern anything may be
skipped, forwards the place of the match is kept, and a state at the end says that it is found. -/
def Expr.footprint (expr : Expr) : Footprint :=
  let outline := expr.outline
  let measured := (outline.sets []).map fun set => (set, Footprint.ofSet set)
  let ofSet (set : Boundaries) : Footprint := (measured.lookup set).getD (.ofSet set)
  let skipping := forkRoom + 2 * stateRoom + stepRoom
  (⟨skipping + 3 * stateRoom, skipping + stateRoom⟩ : Footprint) + outline.footprint ofSet

end Treegram.Pattern
