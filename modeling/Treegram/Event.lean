/-!
What happens while a grammar is checked and numbered, told beside the result.
-/

namespace Treegram

inductive Severity where
  | warning
  | info
  | debug
  deriving DecidableEq

def Severity.text : Severity → String
  | warning => "WARN"
  | info => "INFO"
  | debug => "DEBUG"

inductive Event where
  | unreachableRule (rule : String)
  | mixedLevels (rule : String) (levels : List Int32)
  | leftRecursiveRule (rule : String)
  | auxiliaryToken (token pattern : String)
  | languageLoaded (language : String) (symbols tokens fields externals : Nat)
  | loadingGrammar (rules : Nat) (strict : Bool)
  | grammarUnavailable (grammar : String)
  deriving DecidableEq

namespace Event

def severity : Event → Severity
  | unreachableRule _ | mixedLevels _ _ => .warning
  | languageLoaded .. => .info
  | leftRecursiveRule _ | auxiliaryToken _ _ | loadingGrammar _ _ | grammarUnavailable _ => .debug

def message : Event → String
  | unreachableRule _ => "unreachable rule"
  | mixedLevels _ _ => "rule mixes several precedence levels"
  | leftRecursiveRule _ => "rule is immediately left-recursive"
  | auxiliaryToken _ _ => "auxiliary token"
  | languageLoaded .. => "language loaded"
  | loadingGrammar _ _ => "loading grammar"
  | grammarUnavailable _ => "grammar unavailable"

/-- What the event is about: a rule, a token, a language or a grammar. -/
def subject? : Event → Option String
  | unreachableRule name | mixedLevels name _ | leftRecursiveRule name | auxiliaryToken name _
  | languageLoaded name .. | grammarUnavailable name => some name
  | loadingGrammar _ _ => none

/-- Levels in brackets, smallest first. -/
def levelsText (levels : List Int32) : String :=
  "[" ++ ", ".intercalate (levels.map fun level => toString level.toInt) ++ "]"

end Event

end Treegram
