import Treegram.Language.Basic
import Treegram.Language.Numbering

/-!
Loading: a grammar is checked, its symbols are numbered, and the names it declares are
looked up among them.
-/

namespace Treegram

structure LoadOptions where
  /-- Rules out of reach are an error. -/
  strict : Bool := false
  version : Nat := languageVersion

namespace Language

/-- The tables of a grammar that has the start rule `start`. -/
def ofNumbered (grammar : Grammar) (start : String) (numbered : NumberedGrammar) (version : Nat) :
    Language :=
  let id? (name : String) : Option Nat := numbered.numbering.ids[name]?
  { name := grammar.name
    symbols := numbered.numbering.symbols
    fields := grammar.fieldNames.toArray
    tokens := numbered.numbering.tokens
    externals := numbered.externals
    extras := numbered.extras
    supertypes := ascending (grammar.supertypeNames.filterMap id?)
    startSymbol := (id? start).getD 0
    wordToken := grammar.word.bind id?
    version }

def loaded (language : Language) : Event :=
  .languageLoaded language.name language.symbolCount language.tokenCount language.fieldCount
    language.externalCount

/-- Loads a grammar into tables with room for so many symbols. -/
def loadWithin (room : Nat) (options : LoadOptions) (grammar : Grammar) :
    Except LoadError Language × List Event :=
  match grammar.check options.strict with
  | (.error defect, events) => (.error (.defect defect), events)
  | (.ok (), events) =>
      let start := grammar.startRule?.getD ""
      match grammar.number room start with
      | .error failure => (.error failure.error, events ++ failure.events)
      | .ok numbered =>
          let language := ofNumbered grammar start numbered options.version
          (.ok language, events ++ numbered.numbering.events.reverse ++ [language.loaded])

def load (options : LoadOptions) (grammar : Grammar) : Except LoadError Language × List Event :=
  loadWithin symbolRoom options grammar

end Language

end Treegram
