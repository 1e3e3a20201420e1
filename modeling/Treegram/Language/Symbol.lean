import Treegram.Language.Matcher

/-!
Symbols and tokens, the rows of a language's tables. A symbol's number is its place.
-/

namespace Treegram

inductive SymbolKind where
  | stop
  | terminal
  | external
  | nonterminal
  | aliased
  deriving DecidableEq

structure Symbol where
  name : String
  kind : SymbolKind
  visible : Bool
  named : Bool
  supertype : Bool := false
  deriving DecidableEq

/-- A leading underscore hides a rule from syntax trees. -/
def isVisibleName (name : String) : Bool := name.toList.head? != some '_'

namespace Symbol

/-- The end of the input, symbol 0 of every language. -/
def stop : Symbol := { name := "end", kind := .stop, visible := false, named := true }

def ofRule (name : String) (kind : SymbolKind) : Symbol :=
  { name, kind, visible := isVisibleName name, named := true }

def literal (text : String) : Symbol :=
  { name := text, kind := .terminal, visible := true, named := false }

def auxiliary (name : String) : Symbol :=
  { name, kind := .terminal, visible := false, named := false }

def external (name : String) (named : Bool) : Symbol :=
  { name, kind := .external, visible := isVisibleName name, named }

def aliased (name : String) (named : Bool) : Symbol := { name, kind := .aliased, visible := true, named }

/-- Whether syntax trees show the symbol under this name. -/
def shows (symbol : Symbol) (name : String) (named : Bool) : Bool :=
  symbol.visible && symbol.named == named && symbol.name == name

end Symbol

structure Token where
  symbol : Nat
  matcher : Matcher
  /-- Nothing may stand between this token and the one before it. -/
  immediate : Bool
  deriving DecidableEq

end Treegram
