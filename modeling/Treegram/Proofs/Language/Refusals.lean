import Treegram.Proofs.Language.RuleOrder

/-!
Why a grammar is refused. A numbering gets stuck on tokens or on the room for symbols, but never blames
the grammar for a defect, so the defects that loading reports are those that a check finds.
-/

namespace Treegram

/-- Whatever it fails with is no defect of a grammar. -/
def BlamesNoDefect {α : Type} (result : Except LoadFailure α) : Prop :=
  ∀ failure, result = .error failure → ∀ defect, failure.error ≠ .defect defect

section BlamesNoDefect
variable {α β : Type} {room : Nat} {numbering : Numbering}

theorem BlamesNoDefect.ok (value : α) : BlamesNoDefect (.ok value) := nofun

theorem BlamesNoDefect.bind {first : Except LoadFailure α} {next : α → Except LoadFailure β}
    (own : BlamesNoDefect first) (after : ∀ value, BlamesNoDefect (next value)) :
    BlamesNoDefect (first >>= next) := by
  cases first with
  | error failure =>
      intro other failed
      obtain rfl := Except.error.inj failed
      exact own failure rfl
  | ok value => exact after value

theorem BlamesNoDefect.map {first : Except LoadFailure α} (own : BlamesNoDefect first) (f : α → β) :
    BlamesNoDefect (first.map f) := by
  have mapped : first.map f = first >>= fun value => .ok (f value) := by cases first <;> rfl
  rw [mapped]
  exact own.bind fun value => .ok (f value)

theorem BlamesNoDefect.foldlM {step : β → α → Except LoadFailure β}
    (own : ∀ item state, BlamesNoDefect (step state item)) (items : List α) (first : β) :
    BlamesNoDefect (items.foldlM step first) := by
  induction items generalizing first with
  | nil => exact .ok first
  | cons item rest ih =>
      rw [List.foldlM_cons]
      exact (own item first).bind ih

theorem BlamesNoDefect.require {result : Except LoadError α}
    (own : ∀ defect, result ≠ .error (.defect defect)) : BlamesNoDefect (numbering.require result) := by
  cases result with
  | ok value => exact .ok value
  | error error =>
      intro failure failed defect same
      obtain rfl := Except.error.inj failed
      exact own defect (congrArg Except.error same)

end BlamesNoDefect

theorem tokenMatcher_blames (limits : Pattern.Limits) (place : String) (body : Rule) (defect : Defect) :
    tokenMatcher limits place body ≠ .error (.defect defect) := by
  rw [tokenMatcher]
  repeat' split
  all_goals nofun

namespace Numbering
variable (room : Nat) (numbering : Numbering)

theorem reject_blames {α : Type} {error : LoadError} (own : ∀ defect, error ≠ .defect defect) :
    BlamesNoDefect (numbering.reject error : Except LoadFailure α) := by
  intro failure failed
  obtain rfl := Except.error.inj failed
  exact own

theorem add_blames (symbol : Symbol) : BlamesNoDefect (numbering.add room symbol) := by
  rw [add]
  split
  · exact .ok _
  · exact numbering.reject_blames (by simp)

theorem addLexicalRule_blames (name : String) (body : Rule) (immediate : Bool) :
    BlamesNoDefect (numbering.addLexicalRule room name body immediate) :=
  (numbering.add_blames room _).bind fun _ =>
    (BlamesNoDefect.require (tokenMatcher_blames _ name body)).bind fun _ => .ok _

theorem addLiteral_blames (text : String) (immediate : Bool) :
    BlamesNoDefect (numbering.addLiteral room text immediate) := by
  rw [addLiteral]
  split
  · exact .ok _
  · exact (numbering.add_blames room _).bind fun _ => .ok _

theorem addAuxiliary_blames (place : String) (body : Rule) (source : String) (immediate : Bool) :
    BlamesNoDefect (numbering.addAuxiliary room place body source immediate) := by
  rw [addAuxiliary]
  split
  · exact .ok _
  · exact (BlamesNoDefect.require (tokenMatcher_blames _ place body)).bind fun _ =>
      (numbering.add_blames room _).bind fun _ => .ok _

theorem addInline_blames (place : String) (token : Rule) :
    BlamesNoDefect (numbering.addInline room place token) := by
  rw [addInline]
  rcases token.tokenBody with ⟨body, immediate⟩
  dsimp only
  split
  · exact numbering.addLiteral_blames room _ _
  · split
    · exact numbering.reject_blames (by simp)
    · exact numbering.addAuxiliary_blames room place _ _ _

theorem addRuleTokens_blames (name : String) (rule : Rule) :
    BlamesNoDefect (numbering.addRuleTokens room name rule) := by
  rw [addRuleTokens]
  split
  · exact numbering.addLexicalRule_blames room name _ _
  · exact .foldlM (fun token numbering => (numbering.addInline_blames room name token).map _) _ _

theorem addExtra_blames (found : List ExtraRef × Numbering) (extra : Rule) :
    BlamesNoDefect (addExtra room found extra) := by
  rw [addExtra]
  split
  · exact .ok _
  · exact (found.2.addInline_blames room "extras" extra).map _

theorem addExternal_blames (found : List Nat × Numbering) (external : Rule) :
    BlamesNoDefect (addExternal room found external) := by
  rw [addExternal]
  split
  · exact .ok _
  · exact (found.2.add_blames room _).bind fun _ => .ok _

theorem addRule_blames (isSupertype : String → Bool) (name : String) :
    BlamesNoDefect (numbering.addRule room isSupertype name) := by
  rw [addRule]
  split
  · exact .ok _
  · exact (numbering.add_blames room _).bind fun _ => .ok _

theorem addAlias_blames (spelling : String × Bool) :
    BlamesNoDefect (numbering.addAlias room spelling) := by
  rw [addAlias]
  split
  · exact .ok _
  · exact numbering.add_blames room _

end Numbering

theorem Grammar.number_blames (room : Nat) (start : String) (grammar : Grammar) :
    BlamesNoDefect (grammar.number room start) := by
  refine .bind (.foldlM (fun rule found => found.addRuleTokens_blames room rule.1 rule.2) _ _)
    fun tokens => ?_
  refine .bind (.foldlM (fun extra found => Numbering.addExtra_blames room found extra) _ _)
    fun extras => ?_
  refine .bind (.foldlM (fun external found => Numbering.addExternal_blames room found external) _ _)
    fun externals => ?_
  refine .bind (.foldlM (fun name found => found.addRule_blames room _ name) _ _) fun rules => ?_
  refine .bind (.foldlM (fun spelling found => found.addAlias_blames room spelling) _ _)
    fun aliases => ?_
  exact .ok _

/-- Loading reports the defect that a check finds, and no other. -/
theorem Language.load_defect_iff {options : LoadOptions} {grammar : Grammar} {defect : Defect} :
    (load options grammar).1 = .error (.defect defect) ↔ grammar.defect? options.strict = some defect := by
  refine ⟨fun failed => ?_, load_rejected⟩
  cases verdict : grammar.defect? options.strict with
  | some other =>
      rw [load_rejected verdict] at failed
      rw [LoadError.defect.inj (Except.error.inj failed)]
  | none =>
      rw [load, loadWithin, Grammar.check, verdict] at failed
      simp only at failed
      cases made : grammar.number symbolRoom (grammar.startRule?.getD "") with
      | ok numbered => simp [made] at failed
      | error failure =>
          rw [made] at failed
          exact absurd (Except.error.inj failed) (grammar.number_blames _ _ failure made defect)

end Treegram
