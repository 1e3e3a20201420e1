import Treegram.Pattern.Escape
import Treegram.Rule.Basic

/-!
Tokens in rule trees: which rules are tokens as a whole, which tokens are written
inside of other rules, and the pattern that a token's body amounts to.
-/

namespace Treegram.Rule

/-- The body of a rule that is one token, and whether nothing may stand before the token. -/
def lexicalBody? : Rule → Option (Rule × Bool) :=
  fold fun rule inner _ =>
    match rule.kind with
    | .string | .pattern => some (rule, false)
    | .token => rule.content.map (·, false)
    | .immediateToken => rule.content.map (·, true)
    | .prec | .precLeft | .precRight | .precDynamic => inner.join
    | _ => none

/-- The tokens written in a rule, not looking inside of them, in front of `rest`. -/
def inlineTokensOnto : Rule → List Rule → List Rule :=
  fold fun rule content members rest =>
    match rule.kind with
    | .string | .pattern | .token | .immediateToken => rule :: rest
    | _ => gather content members rest

/-- The tokens written in a rule, not looking inside of them. -/
def inlineTokens (rule : Rule) : List Rule := rule.inlineTokensOnto []

/-- The body of a token; a token without content is its own body. -/
def tokenBody (token : Rule) : Rule × Bool := token.lexicalBody?.getD (token, false)

/-- A pattern for just this text. -/
def literalSource (text : String) : String :=
  String.ofList (text.toList.flatMap fun c => if Pattern.isMeta c then ['\\', c] else [c])

def grouped (source suffix : String) : String := "(?:" ++ source ++ ")" ++ suffix

/-- The pattern of a token's body. An empty alternative makes the others optional, precedences,
names and other wrappers mean nothing here, and a reference cannot be part of a token: its name
is the error. -/
def tokenSource : Rule → Except String String :=
  fold fun rule content members =>
    let inner := content.getD (.ok "")
    match rule.kind with
    | .blank => .ok ""
    | .string => .ok (literalSource (rule.text?.getD ""))
    | .pattern =>
        let source := rule.text?.getD ""
        if (rule.flags.getD "").toList.contains 'i' then .ok ("(?i:" ++ source ++ ")")
        else .ok (grouped source "")
    | .symbol => .error (rule.name.getD "")
    | .seq => (members.mapM id).map String.join
    | .choice =>
        let alternatives := (rule.members.zip members).filter (·.1.kind != .blank)
        let suffix := if rule.members.any (·.kind == .blank) then "?" else ""
        (alternatives.mapM Prod.snd).map fun sources => grouped ("|".intercalate sources) suffix
    | .many => inner.map (grouped · "*")
    | .many1 => inner.map (grouped · "+")
    | .prec | .precLeft | .precRight | .precDynamic | .field | .aliased | .token
    | .immediateToken | .reserved => inner

end Treegram.Rule
