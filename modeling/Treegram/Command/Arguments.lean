import Treegram.Unicode.Property

/-!
The arguments of the command. An option is given by its word behind two hyphens or by
its letter behind one, and its content follows an equals sign or, for the one option
that has any use for it, as the next argument. A word may be written small, with a
capital or in capitals, and what is neither letter nor digit around it does not count.
Behind two hyphens alone no option may follow, and nothing else is ever accepted.
-/

namespace Treegram.Command

inductive Setting where
  | grammarPath
  | asJson
  | strict
  | verbose
  deriving DecidableEq

namespace Setting

def all : List Setting := [grammarPath, asJson, strict, verbose]

def word : Setting → String
  | grammarPath => "grammar"
  | asJson => "json"
  | strict => "strict"
  | verbose => "verbose"

def letter : Setting → Char
  | grammarPath => 'g'
  | asJson => 'j'
  | strict => 's'
  | verbose => 'v'

def isMark (c : Char) : Bool :=
  !Unicode.isAlphabetic c.toNat && !Unicode.isAmong Unicode.Category.numbers c.toNat

/-- A word without the marks around it. -/
def bare (name : List Char) : List Char :=
  ((name.dropWhile isMark).reverse.dropWhile isMark).reverse

/-- The ways to write a word. -/
def spellings (setting : Setting) : List (List Char) :=
  match setting.word.toList with
  | [] => []
  | first :: rest =>
      [first :: rest, first.toUpper :: rest, (first :: rest).map Char.toUpper]

def ofWord? (name : List Char) : Option Setting := all.find? (·.spellings.contains (bare name))

def ofLetter? (name : List Char) : Option Setting := all.find? (name == [·.letter])

end Setting

/-- One argument by itself. -/
inductive Argument where
  | option (setting : Setting) (content : Option String)
  | noMoreOptions
  | other

namespace Argument

/-- The name of an option and what stands behind its first equals sign. -/
def splitContent (text : List Char) : List Char × Option String :=
  let name := text.takeWhile (· != '=')
  (name, (text.drop name.length).tail?.map String.ofList)

def ofChars : List Char → Argument
  | ['-', '-'] => noMoreOptions
  | '-' :: '-' :: text =>
      let (name, content) := splitContent text
      ((Setting.ofWord? name).map (option · content)).getD other
  | '-' :: text =>
      let (name, content) := splitContent text
      ((Setting.ofLetter? name).map (option · content)).getD other
  | _ => other

end Argument

structure Request where
  grammarPath : Option String := none
  asJson : Bool := false
  strict : Bool := false
  verbose : Bool := false

namespace Request

/-- Reads the arguments behind those that made the request so far; `none` is a wrong use. -/
def ofArgs? (request : Request) : List String → Option Request
  | [] => some request
  | argument :: rest =>
      match Argument.ofChars argument.toList, rest with
      | .option .grammarPath (some path), rest =>
          ofArgs? { request with grammarPath := some path } rest
      | .option .grammarPath none, path :: rest =>
          ofArgs? { request with grammarPath := some path } rest
      | .option .asJson _, rest => ofArgs? { request with asJson := true } rest
      | .option .strict _, rest => ofArgs? { request with strict := true } rest
      | .option .verbose _, rest => ofArgs? { request with verbose := true } rest
      | .noMoreOptions, [] => some request
      | _, _ => none

end Request

end Treegram.Command
