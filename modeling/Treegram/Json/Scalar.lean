import Treegram.Json.Quoted

/-!
Tagged scalars. A written grammar has a bare text or integer under the key `value`;
the reader wants it wrapped in an object that names its type. `tag` puts the wrappers
on and `untag` takes them off. Both go over the text as it is spelled: they know
quoted texts and nothing else of its structure, and leave alone what does not look
right. The text is cut into segments, from which can be read off what is kept and what
is replaced.
-/

namespace Treegram.Json.Scalar

inductive Segment where
  | kept (text : List Char)
  | replaced (old new : List Char)
  deriving DecidableEq

def Segment.old : Segment → List Char
  | kept text => text
  | replaced old _ => old

def Segment.new : Segment → List Char
  | kept text => text
  | replaced _ new => new

/-- Blanks between the marks around a value, form feeds among them. -/
def isBlank (c : Char) : Bool := c == ' ' || c == '\t' || c == '\n' || c == '\r' || c == '\x0c'

def blanks (text : List Char) : Nat := (text.takeWhile isBlank).length

/-- The length of the quoted text at the front, quotes included. -/
def quotedLength? : List Char → Option Nat
  | '"' :: rest => closing? 1 rest
  | _ => none

/-- The length of the integer at the front. A number with a fraction or an exponent is none. -/
def integerLength? (text : List Char) : Option Nat :=
  let sign := if text.head? = some '-' then 1 else 0
  let digits := ((text.drop sign).takeWhile Char.isDigit).length
  let next := text[sign + digits]?
  if digits = 0 ∨ next = some '.' ∨ next = some 'e' ∨ next = some 'E' then none
  else some (sign + digits)

def scalarLength? (text : List Char) : Option Nat := (quotedLength? text).or (integerLength? text)

/-- How much of the content behind a key to replace, and by what. -/
abbrev Swap := List Char → Option (Nat × List Char)

def tagged (word scalar : List Char) : List Char :=
  '\x7b' :: '"' :: (word ++ '"' :: ':' :: (scalar ++ ['\x7d']))

def textTag : List Char := ['S', 't', 'r', 'i', 'n', 'g']

def levelTag : List Char := ['I', 'n', 't', 'e', 'g', 'e', 'r']

def wrap : Swap := fun text =>
  match quotedLength? text with
  | some count => some (count, tagged textTag (text.take count))
  | none => (integerLength? text).map fun count => (count, tagged levelTag (text.take count))

/-- Wants one of the two tags, a colon and a scalar inside braces, with blanks where they may stand. -/
def unwrap : Swap := fun text =>
  match text with
  | '\x7b' :: body =>
      let toTag := blanks body
      let tagText := body.drop toTag
      match quotedLength? tagText with
      | none => none
      | some tagLength =>
          let tag := tagText.take tagLength
          if tag = '"' :: (textTag ++ ['"']) ∨ tag = '"' :: (levelTag ++ ['"']) then
            let toColon := blanks (tagText.drop tagLength)
            match (tagText.drop tagLength).drop toColon with
            | ':' :: afterColon =>
                let toScalar := blanks afterColon
                let scalarText := afterColon.drop toScalar
                match scalarLength? scalarText with
                | none => none
                | some scalarLength =>
                    let afterScalar := scalarText.drop scalarLength
                    let toEnd := blanks afterScalar
                    match afterScalar.drop toEnd with
                    | '\x7d' :: _ =>
                        some (1 + toTag + tagLength + toColon + 1 + toScalar + scalarLength + toEnd + 1,
                          scalarText.take scalarLength)
                    | _ => none
            | _ => none
          else none
  | _ => none

def valueKey : List Char := ['"', 'v', 'a', 'l', 'u', 'e', '"']

/-- The distance from behind a key to its content: blanks, a colon, blanks. -/
def toContent? (text : List Char) : Option Nat :=
  let gap := blanks text
  match text.drop gap with
  | ':' :: rest => some (gap + 1 + blanks rest)
  | _ => none

/-- The segments of `text` behind those already found, which come last first. A quote without
its partner ends the search. -/
def segmentsOnto (swap : Swap) (found : List Segment) (text : List Char) : List Segment :=
  match text with
  | [] => found.reverse
  | c :: rest =>
      if c = '"' then
        match closing? 0 rest with
        | none => (.kept (c :: rest) :: found).reverse
        | some count =>
            let key := c :: rest.take count
            let behind := rest.drop count
            if key = valueKey then
              match toContent? behind with
              | none => segmentsOnto swap (.kept key :: found) behind
              | some gap =>
                  let content := behind.drop gap
                  let found := .kept (key ++ behind.take gap) :: found
                  match swap content with
                  | none => segmentsOnto swap found content
                  | some (size, new) =>
                      segmentsOnto swap (.replaced (content.take size) new :: found)
                        (content.drop size)
            else segmentsOnto swap (.kept key :: found) behind
      else segmentsOnto swap (.kept [c] :: found) rest
termination_by text.length
decreasing_by all_goals (simp only [List.length_cons, List.length_drop]; omega)

def segments (swap : Swap) (text : List Char) : List Segment := segmentsOnto swap [] text

def substitute (swap : Swap) (text : List Char) : List Char := (segments swap text).flatMap Segment.new

def tag (text : List Char) : List Char := substitute wrap text

def untag (text : List Char) : List Char := substitute unwrap text

end Treegram.Json.Scalar
