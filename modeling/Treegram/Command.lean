import Treegram.Builtin.Load
import Treegram.Command.Arguments
import Treegram.Grammar.Reader
import Treegram.Grammar.Written

/-!
The command: loads the built-in grammar or one from a file and tells whether it makes
a language. What it does depends on its arguments and on what the file holds.
-/

namespace Treegram.Command

/-- What the command does: the status it ends with, what it prints, and the report of an error. -/
structure Outcome where
  status : Nat
  output : String := ""
  report : List String := []

def wrongUse : Outcome := { status := 2 }

/-- Loads the grammar that is asked for. `read` gives the text of a file. -/
def load (read : String → Option String) (request : Request) :
    Except Unavailable (Grammar × Language) × List Event :=
  let options : LoadOptions := { strict := request.strict }
  match request.grammarPath with
  | none => Builtin.load options
  | some path =>
      match read path with
      | none => unavailable path .noFile []
      | some text =>
          match Grammar.read? text with
          | none => unavailable path .noGrammarText []
          | some grammar =>
              let (result, events) := Language.loadNamed path options grammar
              (result.map fun language => (grammar, language), events)

/-- A language in one line. -/
def summary (grammar : Grammar) (language : Language) : String :=
  language.name ++ ": " ++ toString grammar.rules.size ++ " rules, "
    ++ toString language.symbolCount ++ " symbols, " ++ toString language.tokenCount ++ " tokens, "
    ++ toString language.externalCount ++ " external tokens, " ++ toString language.fieldCount
    ++ " fields, start rule '" ++ (language.symbolName? language.startSymbol).getD "" ++ "'"

def run (read : String → Option String) (request : Request) : Outcome × List Event :=
  match load read request with
  | (.error failure, events) => ({ status := 1, report := failure.report }, events)
  | (.ok (grammar, language), events) =>
      let line := if request.asJson then grammar.text else summary grammar language
      ({ status := 0, output := line ++ "\n" }, events)

end Treegram.Command
