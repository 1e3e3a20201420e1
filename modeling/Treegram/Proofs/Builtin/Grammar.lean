import Mathlib.Data.List.Nodup
import Treegram.Proofs.Builtin.Names
import Treegram.Proofs.Language.Pairs

/-!
The built-in grammar loads. No rule is given twice, every reference refers to something, nothing but
the module stands for itself, and every token can be made. All of this is evaluated on the list of the
rules, with names compared by numbers.
-/

namespace Treegram.Builtin

/-- All rules of the built-in grammar. -/
def entries : Entries :=
  files ++ declarationForms ++ notations ++ blockForms ++ termForms ++ tacticForms ++ words

/-- What is declared beside the rules. -/
def base : Grammar where
  name := grammarName
  externals := some (externalNames.map ref)
  extras := some extras

/-! ## Names by numbers -/

/-- The bytes of a name as the digits of a number, none of them zero. -/
def digitsCode : List UInt8 → Nat
  | [] => 0
  | byte :: rest => digitsCode rest * 257 + (byte.toNat + 1)

/-- A name as a number. Evaluation compares numbers faster than names. -/
def nameCode (name : String) : Nat := digitsCode (Unicode.utf8Bytes name)

theorem digitsCode_injective {bytes others : List UInt8} (same : digitsCode bytes = digitsCode others) :
    bytes = others := by
  induction bytes generalizing others with
  | nil =>
      cases others with
      | nil => rfl
      | cons other rest => simp only [digitsCode] at same; omega
  | cons byte bytes ih =>
      cases others with
      | nil => simp only [digitsCode] at same; omega
      | cons other rest =>
          have small := byte.toNat_lt
          have small' := other.toNat_lt
          simp only [digitsCode] at same
          have first : byte.toNat = other.toNat := by omega
          have behind : digitsCode bytes = digitsCode rest := by omega
          rw [UInt8.toNat_inj.mp first, ih behind]

theorem nameCode_injective : Function.Injective nameCode := by
  intro name other same
  exact String.toByteArray_inj.mp (ByteArray.ext (Array.toList_inj.mp (digitsCode_injective same)))

/-- Names that are searched by their numbers. -/
theorem mem_of_code {name : String} {names : List String}
    (found : nameCode name ∈ names.map nameCode) : name ∈ names :=
  (List.mem_map_of_injective nameCode_injective).mp found

/-! ## The rules -/

theorem entries_distinct : (entries.map (·.1)).Nodup := by
  have codes : ((entries.map (·.1)).map nameCode).Nodup := by decide +kernel
  exact List.Nodup.of_map nameCode codes

theorem grammar_eq : grammar = .ok (base.withRules entries) := by
  have steps : Draft.entries [
      .rules files, .rules declarationForms, .rules notations, .rules blockForms, .rules termForms,
      .rules tacticForms, .rules words, .externals (externalNames.map ref), .extras extras] =
      entries := by
    simp only [Draft.entries, Draft.Step.entries, List.flatMap_cons, List.flatMap_nil, List.append_nil,
      entries, List.append_assoc]
  rw [grammar, Grammar.assemble_distinct (steps ▸ entries_distinct), steps]
  rfl

theorem entries_complete : ∀ rule ∈ base.listedRules entries, ∀ node ∈ rule.walk, node.lack? = none := by
  decide +kernel

theorem entries_closed : ∀ rule ∈ entries.map (·.2) ++ base.extraRules, ∀ name ∈ rule.symbolNames,
    name ∈ entries.map (·.1) ∨ name ∈ base.externalNames := by
  have codes : ∀ rule ∈ entries.map (·.2) ++ base.extraRules, ∀ name ∈ rule.symbolNames,
      nameCode name ∈ (entries.map (·.1) ++ base.externalNames).map nameCode := by decide +kernel
  intro rule held name inside
  exact List.mem_append.mp (mem_of_code (codes rule held name inside))

theorem entries_roots : ∀ name ∈ entries.map (·.1),
    name ∉ base.listedReferences entries ↔ name = "module" := by
  have codes : ∀ name ∈ entries.map (·.1),
      nameCode name ∉ (base.listedReferences entries).map nameCode ↔
        nameCode name = nameCode "module" := by decide +kernel
  intro name held
  rw [← nameCode_injective.eq_iff, ← codes name held, List.mem_map_of_injective nameCode_injective]

theorem entries_listed : base.IsListed entries "module" := by
  constructor
  case distinct => exact entries_distinct
  case complete => exact entries_complete
  case closed => exact entries_closed
  case word => exact nofun
  case supertypes => exact nofun
  case begins => exact List.mem_map_of_mem List.mem_cons_self
  case roots => exact entries_roots

/-! ## The tokens -/

theorem isUsable_of_makes {use : TokenUse} (made : makes use.body = true) : use.IsUsable := by
  rw [makes] at made
  cases found : tokenMatcher .standard "" use.body with
  | error error =>
      rw [found] at made
      cases made
  | ok matcher =>
      have usable : (TokenUse.inside "" use.body false).IsUsable := ⟨matcher, found⟩
      rw [TokenUse.isUsable_iff] at usable ⊢
      exact usable

theorem others_made : ∀ use ∈ base.listedUses entries,
    use.body ∈ nameParts ∨ makes use.body = true := by
  decide +kernel

theorem entries_usable : ∀ use ∈ base.listedUses entries, use.IsUsable := by
  intro use held
  rcases others_made use held with part | made
  · exact isUsable_of_makes (nameParts_made use.body part)
  · exact isUsable_of_makes made

theorem entries_few : 1 + (base.listedUses entries).length + base.externalRules.length + entries.length
    + (entries.flatMap (·.2.aliases)).length ≤ 65536 := by
  decide +kernel

/-! ## The language -/

theorem loadAs_ok {options : LoadOptions} {given : Grammar} {loaded : Language}
    (done : (Language.load options given).1 = .ok loaded) :
    (loadAs options given).1 = .ok (loaded.withScanner {}) := by
  rw [loadAs, Language.loadNamed]
  generalize Language.load options given = run at done
  obtain ⟨result, events⟩ := run
  obtain rfl : result = .ok loaded := done
  rfl

theorem language_ok {given : Grammar} (made : grammar = .ok given) {loaded : Language}
    (done : (Language.load {} given).1 = .ok loaded) :
    language.1 = .ok (loaded.withScanner {}) := by
  have ran := loadAs_ok done
  rw [language, load, made, withoutGrammar, loadAssembled]
  generalize loadAs {} given = run at ran
  obtain ⟨result, events⟩ := run
  obtain rfl : result = .ok (loaded.withScanner {}) := ran
  rfl

/-- The built-in language is that of its rules, with a scanner for raw strings. -/
theorem language_loads : ∃ loaded, (Language.load {} (base.withRules entries)).1 = .ok loaded
    ∧ language.1 = .ok (loaded.withScanner {}) := by
  obtain ⟨loaded, done⟩ := entries_listed.loads entries_usable entries_few
  exact ⟨loaded, done, language_ok grammar_eq done⟩

end Treegram.Builtin
