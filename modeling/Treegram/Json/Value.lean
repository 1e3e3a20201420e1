import Treegram.Json.Decimal
import Treegram.Json.Quoted

/-!
Value trees. Numbers keep their spelling, members keep their order.
-/

namespace Treegram.Json

inductive Value where
  | null
  | bool (value : Bool)
  | number (decimal : Decimal)
  | string (content : String)
  | array (items : List Value)
  | object (members : List (String × Value))

namespace Value

instance : Inhabited Value := ⟨null⟩

def integer (size : Int) : Value := .number (.ofInt size)

def quoted (content : String) : List Char := '"' :: (escape content.toList ++ ['"'])

/-- Elements with commas between them. -/
def listed (elements : List (List Char)) : List Char := (elements.intersperse [',']).flatten

mutual

/-- Writes a value behind what is written already, which is given last character first. -/
def write (written : List Char) : Value → List Char
  | .null => ['n', 'u', 'l', 'l'].reverseAux written
  | .bool true => ['t', 'r', 'u', 'e'].reverseAux written
  | .bool false => ['f', 'a', 'l', 's', 'e'].reverseAux written
  | .number decimal => decimal.chars.reverseAux written
  | .string content => (quoted content).reverseAux written
  | .array [] => ']' :: '[' :: written
  | .array (item :: rest) => ']' :: writeItems (write ('[' :: written) item) rest
  | .object [] => '\x7d' :: '\x7b' :: written
  | .object ((key, value) :: rest) =>
      '\x7d' :: writeMembers
        (write (':' :: (quoted key).reverseAux ('\x7b' :: written)) value) rest

/-- Items that are not the first ones. -/
def writeItems (written : List Char) : List Value → List Char
  | [] => written
  | item :: rest => writeItems (write (',' :: written) item) rest

/-- Members that are not the first ones. -/
def writeMembers (written : List Char) : List (String × Value) → List Char
  | [] => written
  | (key, value) :: rest =>
      writeMembers (write (':' :: (quoted key).reverseAux (',' :: written)) value) rest

end

/-- The written form, without blanks. -/
def chars (value : Value) : List Char := (write [] value).reverse

mutual

theorem write_append (written before : List Char) :
    ∀ value : Value, write (written ++ before) value = write written value ++ before
  | .null | .bool true | .bool false | .number _ | .string _ => by
      simp [write, List.reverseAux_eq]
  | .array [] | .object [] => by simp [write]
  | .array (item :: rest) => by
      have inner := write_append ('[' :: written) before item
      simp only [List.cons_append] at inner
      simp only [write, inner, writeItems_append _ _ rest, List.cons_append]
  | .object ((key, value) :: rest) => by
      have inner := write_append (':' :: (quoted key).reverseAux ('\x7b' :: written)) before value
      simp only [List.cons_append, List.reverseAux_eq, List.append_assoc] at inner
      simp only [write, List.reverseAux_eq, inner, writeMembers_append _ _ rest, List.cons_append]

theorem writeItems_append (written before : List Char) :
    ∀ items : List Value, writeItems (written ++ before) items = writeItems written items ++ before
  | [] => by simp [writeItems]
  | item :: rest => by
      have inner := write_append (',' :: written) before item
      simp only [List.cons_append] at inner
      simp only [writeItems, inner, writeItems_append _ _ rest]

theorem writeMembers_append (written before : List Char) :
    ∀ members : List (String × Value),
      writeMembers (written ++ before) members = writeMembers written members ++ before
  | [] => by simp [writeMembers]
  | (key, value) :: rest => by
      have inner := write_append (':' :: (quoted key).reverseAux (',' :: written)) before value
      simp only [List.cons_append, List.reverseAux_eq, List.append_assoc] at inner
      simp only [writeMembers, List.reverseAux_eq, inner, writeMembers_append _ _ rest]

end

theorem write_eq (written : List Char) (value : Value) :
    write written value = (chars value).reverse ++ written := by
  simpa [chars] using write_append [] written value

theorem writeItems_eq (written : List Char) (items : List Value) :
    writeItems written items = (items.flatMap fun item => ',' :: chars item).reverse ++ written := by
  induction items generalizing written with
  | nil => simp [writeItems]
  | cons item rest ih => simp [writeItems, ih, write_eq]

theorem writeMembers_eq (written : List Char) (members : List (String × Value)) :
    writeMembers written members =
      (members.flatMap fun member => ',' :: (quoted member.1 ++ ':' :: chars member.2)).reverse
        ++ written := by
  induction members generalizing written with
  | nil => simp [writeMembers]
  | cons member rest ih => simp [writeMembers, ih, write_eq, List.reverseAux_eq]

theorem listed_cons (first : List Char) (rest : List (List Char)) :
    listed (first :: rest) = first ++ rest.flatMap (',' :: ·) := by
  induction rest generalizing first with
  | nil => simp [listed]
  | cons next rest ih => simpa [listed, List.flatMap_cons] using ih next

theorem chars_array (items : List Value) :
    chars (.array items) = '[' :: (listed (items.map chars) ++ [']']) := by
  cases items with
  | nil => rfl
  | cons item rest =>
      rw [List.map_cons, listed_cons, List.flatMap_map]
      rw [chars, write, writeItems_eq, write_eq]
      simp

theorem chars_object (members : List (String × Value)) :
    chars (.object members) =
      '\x7b' :: (listed (members.map fun member => quoted member.1 ++ ':' :: chars member.2)
        ++ ['\x7d']) := by
  cases members with
  | nil => rfl
  | cons member rest =>
      rw [List.map_cons, listed_cons, List.flatMap_map]
      rw [chars, write, writeMembers_eq, write_eq]
      simp [List.reverseAux_eq]

def text (value : Value) : String := String.ofList value.chars

end Value

end Treegram.Json
