/-!
Rule trees. A rule is one node with a kind and a fixed set of optional parts;
every part can stand on every kind, because rule trees are read from text, and
which parts a kind needs is asked only when a grammar is checked.
-/

namespace Treegram

namespace Rule

inductive Kind where
  | blank
  | string
  | pattern
  | symbol
  | choice
  | seq
  | many
  | many1
  | prec
  | precLeft
  | precRight
  | precDynamic
  | field
  | aliased
  | token
  | immediateToken
  | reserved
  deriving DecidableEq, Repr

namespace Kind

def all : List Kind :=
  [blank, string, pattern, symbol, choice, seq, many, many1, prec, precLeft, precRight,
    precDynamic, field, aliased, token, immediateToken, reserved]

/-- The word for a kind in a written grammar. -/
def tag : Kind → String
  | blank => "BLANK"
  | string => "STRING"
  | pattern => "PATTERN"
  | symbol => "SYMBOL"
  | choice => "CHOICE"
  | seq => "SEQ"
  | many => "REPEAT"
  | many1 => "REPEAT1"
  | prec => "PREC"
  | precLeft => "PREC_LEFT"
  | precRight => "PREC_RIGHT"
  | precDynamic => "PREC_DYNAMIC"
  | field => "FIELD"
  | aliased => "ALIAS"
  | token => "TOKEN"
  | immediateToken => "IMMEDIATE_TOKEN"
  | reserved => "RESERVED"

def ofTag? (word : String) : Option Kind := all.find? (·.tag == word)

theorem ofTag?_tag (kind : Kind) : ofTag? kind.tag = some kind := by cases kind <;> decide

/-- The wrappers of a single content rule. -/
def isUnary : Kind → Bool
  | many | many1 | prec | precLeft | precRight | precDynamic | field | aliased | token
  | immediateToken | reserved => true
  | _ => false

def isCompound : Kind → Bool
  | seq | choice => true
  | _ => false

def isPrecedence : Kind → Bool
  | prec | precLeft | precRight | precDynamic => true
  | _ => false

end Kind

/-- What stands in a rule's value: a text (a literal, a pattern, the name of an
alias or of a precedence) or a numeric precedence. -/
inductive Value where
  | text (content : String)
  | level (number : Int32)
  deriving DecidableEq

end Rule

structure Rule where
  kind : Rule.Kind
  value : Option Rule.Value := none
  name : Option String := none
  content : Option Rule := none
  members : List Rule := []
  named : Option Bool := none
  flags : Option String := none
  context : Option String := none

namespace Rule

instance : Inhabited Rule := ⟨{ kind := .blank }⟩

mutual

/-- Whether two rules have the same parts. -/
def same : Rule → Rule → Bool
  | ⟨kind, value, name, content, members, named, flags, context⟩, other =>
      decide (kind = other.kind ∧ value = other.value ∧ name = other.name ∧ named = other.named
          ∧ flags = other.flags ∧ context = other.context)
        && sameContent content other.content && sameMembers members other.members

def sameContent : Option Rule → Option Rule → Bool
  | none, none => true
  | some rule, some other => same rule other
  | _, _ => false

def sameMembers : List Rule → List Rule → Bool
  | [], [] => true
  | rule :: rest, other :: others => same rule other && sameMembers rest others
  | _, _ => false

end

mutual

theorem same_iff : ∀ rule other : Rule, same rule other = true ↔ rule = other
  | ⟨_, _, _, content, members, _, _, _⟩, ⟨_, _, _, content', members', _, _, _⟩ => by
      rw [same, Bool.and_eq_true, Bool.and_eq_true, sameContent_iff content content',
        sameMembers_iff members members', decide_eq_true_iff]
      grind

theorem sameContent_iff : ∀ content other : Option Rule,
    sameContent content other = true ↔ content = other
  | none, none | none, some _ | some _, none => by simp [sameContent]
  | some rule, some other => by simp [sameContent, same_iff rule other]

theorem sameMembers_iff : ∀ members others : List Rule,
    sameMembers members others = true ↔ members = others
  | [], [] | [], _ :: _ | _ :: _, [] => by simp [sameMembers]
  | rule :: rest, other :: others => by
      simp [sameMembers, same_iff rule other, sameMembers_iff rest others]

end

instance : DecidableEq Rule := fun _ _ => decidable_of_iff _ (same_iff _ _)

def isTerminal (rule : Rule) : Bool := rule.kind == .string || rule.kind == .pattern

def isSymbol (rule : Rule) : Bool := rule.kind == .symbol

/-- The name a reference refers to. -/
def symbolName? (rule : Rule) : Option String := if rule.isSymbol then rule.name else none

def text? (rule : Rule) : Option String :=
  match rule.value with
  | some (.text content) => some content
  | _ => none

def stringText? (rule : Rule) : Option String := if rule.kind = .string then rule.text? else none

def patternText? (rule : Rule) : Option String := if rule.kind = .pattern then rule.text? else none

/-- The number of a precedence wrapper; a named precedence has none. -/
def level? (rule : Rule) : Option Int32 :=
  if rule.kind.isPrecedence then
    match rule.value with
    | some (.level number) => some number
    | _ => none
  else none

/-- The direct sub-rules: the content first, then the members. -/
def children (rule : Rule) : List Rule := rule.content.toList ++ rule.members

theorem sizeOf_child {rule child : Rule} (found : child ∈ rule.children) :
    sizeOf child < sizeOf rule := by
  obtain ⟨kind, value, name, content, members, named, flags, context⟩ := rule
  simp only [children, List.mem_append, Option.mem_toList] at found
  rcases found with inside | inside
  · cases content <;> simp_all; omega
  · have := List.sizeOf_lt_of_mem inside
    simp; omega

/-- Every rule tree is reached from its children. -/
theorem childInduction {motive : Rule → Prop}
    (step : ∀ rule, (∀ child ∈ rule.children, motive child) → motive rule) (rule : Rule) :
    motive rule :=
  step rule fun child _ => childInduction step child
termination_by rule
decreasing_by exact sizeOf_child ‹_›

section Fold
variable {α : Type}

mutual

/-- Works a rule up: what comes of a node is made from what has come of its content and of its
members. -/
def fold (step : Rule → Option α → List α → α) : Rule → α
  | rule@⟨_, _, _, content, members, _, _, _⟩ =>
      step rule (foldContent step content) (foldMembers step [] members)

def foldContent (step : Rule → Option α → List α → α) : Option Rule → Option α
  | none => none
  | some inner => some (fold step inner)

/-- Members in their order; what has come of the earlier ones is given last first. -/
def foldMembers (step : Rule → Option α → List α → α) (found : List α) : List Rule → List α
  | [] => found.reverse
  | member :: rest => foldMembers step (fold step member :: found) rest

end

theorem foldMembers_eq (step : Rule → Option α → List α → α) (found : List α)
    (members : List Rule) :
    foldMembers step found members = found.reverse ++ members.map (fold step) := by
  induction members generalizing found with
  | nil => simp [foldMembers]
  | cons member rest ih => simp [foldMembers, ih]

/-- A fold is a recursion over the children; this is all there is to know about it. -/
theorem fold_eq (step : Rule → Option α → List α → α) (rule : Rule) :
    rule.fold step = step rule (rule.content.map (fold step)) (rule.members.map (fold step)) := by
  obtain ⟨kind, value, name, content, members, named, flags, context⟩ := rule
  rw [fold, foldMembers_eq]
  cases content <;> simp [foldContent]

/-- What has come of the children, one after the other, in front of what comes behind them. Lists
are passed on as functions that put themselves in front of others, so that no list is copied. -/
def gather (content : Option (List α → List α)) (members : List (List α → List α))
    (rest : List α) : List α :=
  content.getD id (members.foldr (· ·) rest)

theorem gather_map (rule : Rule) (onto : Rule → List α → List α) (f : Rule → List α)
    (eq : ∀ child ∈ rule.children, ∀ rest, onto child rest = f child ++ rest) (rest : List α) :
    gather (rule.content.map onto) (rule.members.map onto) rest =
      rule.children.flatMap f ++ rest := by
  have members : ∀ some : List Rule, (∀ child ∈ some, ∀ rest, onto child rest = f child ++ rest) →
      (some.map onto).foldr (· ·) rest = some.flatMap f ++ rest := by
    intro some
    induction some with
    | nil => simp
    | cons member others ih => intro eq; simp_all
  have behind := members rule.members fun child found => eq child (by simp [children, found])
  cases held : rule.content with
  | none => simp [gather, children, held, behind]
  | some inner =>
      have front := eq inner (by simp [children, held])
      simp [gather, children, held, behind, front]

end Fold

/-- The rule and all rules nested in it, a node before its children, in front of `rest`. -/
def walkOnto : Rule → List Rule → List Rule :=
  fold fun rule content members rest => rule :: gather content members rest

/-- The rule and all rules nested in it, a node before its children. -/
def walk (rule : Rule) : List Rule := rule.walkOnto []

theorem walkOnto_step (rule : Rule) (rest : List Rule) :
    rule.walkOnto rest =
      rule :: gather (rule.content.map walkOnto) (rule.members.map walkOnto) rest := by
  rw [walkOnto, fold_eq]

theorem walkOnto_eq (rule : Rule) : ∀ rest, rule.walkOnto rest = rule.walk ++ rest := by
  induction rule using childInduction with
  | step rule ih =>
      intro rest
      rw [walk, walkOnto_step, walkOnto_step, gather_map rule walkOnto walk ih rest,
        gather_map rule walkOnto walk ih []]
      simp

theorem walk_eq (rule : Rule) : rule.walk = rule :: rule.children.flatMap walk := by
  rw [walk, walkOnto_step, gather_map rule walkOnto walk (fun child _ => walkOnto_eq child)]
  simp

/-- The names of all references in the rule. -/
def symbolNames (rule : Rule) : List String := rule.walk.filterMap symbolName?

end Rule

end Treegram
