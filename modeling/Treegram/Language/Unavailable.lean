import Treegram.Grammar.Draft
import Treegram.Language.Load

/-!
Why a grammar that someone asked for by name cannot be had.
-/

namespace Treegram

inductive Cause where
  | noFile
  | noGrammarText
  | duplicateRule (duplicate : DuplicateRule)
  | load (error : LoadError)
  | version (incompatible : IncompatibleVersion)
  deriving DecidableEq

def Cause.message : Cause → String
  | noFile => "io error"
  | noGrammarText => "JSON parse error"
  | duplicateRule duplicate => duplicate.message
  | load error => error.message
  | version incompatible => incompatible.message

structure Unavailable where
  grammar : String
  cause : Cause
  deriving DecidableEq

namespace Unavailable

def message (failure : Unavailable) : String := "Error loading " ++ failure.grammar ++ " grammar"

/-- The message and, behind it, its cause. -/
def report (failure : Unavailable) : List String := [failure.message, failure.cause.message]

end Unavailable

/-- Fails under the name of a grammar, with what had happened until then. -/
def unavailable {α : Type} (grammar : String) (cause : Cause) (events : List Event) :
    Except Unavailable α × List Event :=
  (.error ⟨grammar, cause⟩, events ++ [.grammarUnavailable grammar])

/-- Loads a grammar; failures go by the name it is known under. -/
def Language.loadNamed (known : String) (options : LoadOptions) (grammar : Grammar) :
    Except Unavailable Language × List Event :=
  match Language.load options grammar with
  | (.error error, events) => unavailable known (.load error) events
  | (.ok language, events) => (.ok language, events)

end Treegram
