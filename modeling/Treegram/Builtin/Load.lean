import Treegram.Builtin.Grammar
import Treegram.Language.Unavailable

/-!
Loading the built-in grammar, or another grammar in its place, with a scanner for raw
strings.
-/

namespace Treegram.Builtin

/-- Loads a grammar as if it were the built-in one. -/
def loadAs (options : LoadOptions) (grammar : Grammar) : Except Unavailable Language × List Event :=
  let (result, events) := Language.loadNamed displayName options grammar
  (result.map (·.withScanner {}), .loadingGrammar grammar.rules.size options.strict :: events)

/-- Loads the grammar that its parts make, if no rule is given twice. -/
def loadAssembled (options : LoadOptions) :
    Except DuplicateRule Grammar → Except Unavailable (Grammar × Language) × List Event
  | .error duplicate => unavailable displayName (.duplicateRule duplicate) []
  | .ok grammar =>
      let (result, events) := loadAs options grammar
      (result.map fun language => (grammar, language), events)

/-- The built-in grammar and its language. -/
def load (options : LoadOptions) : Except Unavailable (Grammar × Language) × List Event :=
  loadAssembled options grammar

/-- What is loaded, without the grammar. -/
def withoutGrammar (run : Except Unavailable (Grammar × Language) × List Event) :
    Except Unavailable Language × List Event :=
  (run.1.map (·.2), run.2)

/-- The built-in language. -/
def language : Except Unavailable Language × List Event := withoutGrammar (load {})

/-- Whether the built-in language loads and its version can be used. -/
def check : Except Unavailable Unit × List Event :=
  match language with
  | (.error failure, events) => (.error failure, events)
  | (.ok language, events) =>
      match language.checkCompatible with
      | .ok () => (.ok (), events)
      | .error incompatible => unavailable displayName (.version incompatible) events

end Treegram.Builtin
