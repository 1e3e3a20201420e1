import Treegram.Json.Token
import Treegram.Json.Value

/-!
Trees from tokens. The arrays and objects that are still open form a stack, and
each token changes the top of it. Reading is lenient about marks between elements:
a comma may be missing or stand before the first element, but an element has to
follow it, and the colon behind a key may be missing. Members that nobody wants are
passed over by counting brackets, whatever their kind and whatever stands between
them. What follows the outermost value is not looked at.
-/

namespace Treegram.Json

/-- Which members are wanted, place by place. -/
structure Layout (Place : Type) where
  /-- The place of a member in an object, if the member is wanted. -/
  member? : Place → String → Option Place
  /-- The place of the items in an array. -/
  item : Place → Place

/-- All members are wanted. -/
def Layout.everything : Layout Unit := { member? := fun _ _ => some (), item := fun _ => () }

/-- An array or object with what it holds so far, last first. The flag says whether a comma
(behind a key: a colon) has just been read. -/
inductive Pending (Place : Type) where
  | array (place : Place) (items : List Value) (comma : Bool)
  | object (place : Place) (members : List (String × Value)) (comma : Bool)
  | member (place : Place) (members : List (String × Value)) (key : String) (inner : Place)
      (colon : Bool)
  /-- An unwanted member, `depth` brackets into its value. -/
  | passing (place : Place) (members : List (String × Value)) (key : String) (depth : Nat)

inductive Progress (Place : Type) where
  | more (stack : List (Pending Place))
  | done (value : Value)

namespace Progress
variable {Place : Type}

/-- A finished value goes into the innermost open array or behind the last key. An unwanted value
counts as null. -/
def put (value : Value) : List (Pending Place) → Option (Progress Place)
  | [] => some (done value)
  | .array place items _ :: below => some (more (.array place (value :: items) false :: below))
  | .member place members key _ _ :: below =>
      some (more (.object place ((key, value) :: members) false :: below))
  | .passing place members key _ :: below =>
      some (more (.object place ((key, .null) :: members) false :: below))
  | .object _ _ _ :: _ => none

/-- The place of the value that may begin here. -/
def place? (layout : Layout Place) (start : Place) : List (Pending Place) → Option Place
  | [] => some start
  | .array place _ _ :: _ => some (layout.item place)
  | .member _ _ _ inner _ :: _ => some inner
  | .object _ _ _ :: _ => none
  | .passing place _ _ _ :: _ => some place

/-- A key that has been read. -/
def key (layout : Layout Place) (place : Place) (members : List (String × Value)) (name : String) :
    Pending Place :=
  match layout.member? place name with
  | some inner => .member place members name inner false
  | none => .passing place members name 0

/-- Whether a token is a whole value. -/
def isScalar : Token → Bool
  | .null | .bool _ | .string _ => true
  | .number decimal => decimal.isNarrow
  | _ => false

/-- What a token does to an unwanted value, `depth` brackets into it: how deep it is then, or that
the value is over. Any bracket closes any other, and colons may stand in front of the value. -/
def pass? (depth : Nat) : Token → Option (Option Nat)
  | .bad => none
  | .beginArray | .beginObject => some (some (depth + 1))
  | .endArray | .endObject =>
      match depth with
      | 0 => none
      | 1 => some none
      | depth + 1 => some (some depth)
  | .colon => some (some depth)
  | token =>
      if 0 < depth then some (some depth) else if isScalar token then some none else none

def step (layout : Layout Place) (start : Place) :
    List (Pending Place) → Token → Option (Progress Place)
  | .passing place members key depth :: below, token =>
      match pass? depth token with
      | none => none
      | some none => put .null (.passing place members key depth :: below)
      | some (some depth) => some (more (.passing place members key depth :: below))
  | .object place members _ :: below, .string name =>
      some (more (key layout place members name :: below))
  | stack, .null => put .null stack
  | stack, .bool value => put (.bool value) stack
  | stack, .number decimal => put (.number decimal) stack
  | stack, .string content => put (.string content) stack
  | stack, .beginArray =>
      (place? layout start stack).map fun place => more (.array place [] false :: stack)
  | stack, .beginObject =>
      (place? layout start stack).map fun place => more (.object place [] false :: stack)
  | .array _ items false :: below, .endArray => put (.array items.reverse) below
  | .object _ members false :: below, .endObject => put (.object members.reverse) below
  | .array place items false :: below, .comma => some (more (.array place items true :: below))
  | .object place members false :: below, .comma =>
      some (more (.object place members true :: below))
  | .member place members key inner false :: below, .colon =>
      some (more (.member place members key inner true :: below))
  | _, _ => none

def run (layout : Layout Place) (start : Place) : List (Pending Place) → List Token → Option Value
  | _, [] => none
  | stack, token :: rest =>
      match step layout start stack token with
      | none => none
      | some (done value) => some value
      | some (more stack) => run layout start stack rest

end Progress

/-- The value that a text begins with, as far as it is wanted. -/
def Layout.read? {Place : Type} (layout : Layout Place) (start : Place) (text : List Char) :
    Option Value :=
  Progress.run layout start [] (Token.scan text)

/-- The value that a text begins with. -/
def Value.read? (text : List Char) : Option Value := Layout.everything.read? () text

end Treegram.Json
