import Treegram.Builtin.Pieces

/-!
Proofs by tactics, and the patterns that take things apart.
-/

namespace Treegram.Builtin

open Rule

def tuple (opening : String) : Rule :=
  seq [lit opening, sepBy (ref "_rcases_pat_lo") (lit ","), lit "⟩"]

def tactics : Entries := [
  ("tactic_nested", ref "tactic_seq_bracketed"),
  ("tactic_match",
    seq [
      lit "match", maybe (ref "generalizing_param"), maybe (ref "motive"),
      sepBy1 (ref "match_discr") (lit ","), lit "with", ref "match_alts"]),
  ("tactic_intro_match", seq [lit "intro", ref "match_alts"]),
  ("tactic_open", seq [lit "open", ref "_open_decl", lit "in", ref "tactic_seq"]),
  ("tactic_set_option",
    seq [lit "set_option", ref "ident", optionValue, lit "in", ref "tactic_seq"]),
  ("tactic_exact", seq [lit "exact", ref "term"]),
  ("tactic_apply", seq [lit "apply", ref "term"]),
  ("tactic_rfl", lit "rfl"),
  ("tactic_rcases",
    seq [
      lit "rcases", sepBy (ref "elim_target") (lit ","),
      maybe (seq [lit "with", ref "_rcases_pat_lo"])]),
  ("tactic_obtain",
    seq [
      lit "obtain", maybe (ref "_rcases_pat_med"),
      choice [seq [typeIfAny, ref "defeq", sepBy1 (ref "term") (lit ",")], ref "type_spec"]]),
  ("tactic_rintro", seq [lit "rintro", many1 (ref "rintro_pat"), typeIfAny])]

def tacticParts : Entries := [
  ("tactic_seq_indented", statements (ref "tactic_p")),
  ("tactic_seq_bracketed", seq [lit "\x7b", statementsIfAny (ref "tactic_p"), lit "\x7d"]),
  ("tactic_seq", oneOf ["tactic_seq_indented", "tactic_seq_bracketed"]),
  ("generalizing_param",
    seq [lit "(", lit "generalizing", ref "defeq", choice [lit "true", lit "false"], lit ")"]),
  ("motive", seq [lit "(", lit "motive", ref "defeq", ref "term", lit ")"]),
  ("elim_target", seq [labelIfAny, ref "term"])]

/-- The patterns that can stand anywhere. -/
def simplePatterns : Entries := [
  ("rcases_pat_one", ref "ident"),
  ("rcases_pat_ignore", lit "_"),
  ("rcases_pat_clear", lit "-"),
  ("rcases_pat_tuple", tuple "⟨"),
  ("rcases_pat_explicit_tuple", tuple "@⟨")]

def groupedPattern : Entries := [
  ("rcases_pat_paren", seq [lit "(", ref "_rcases_pat_lo", lit ")"])]

/-- Behind `rintro` a pair of parentheses may hold several patterns. -/
def groupedPatterns : Entries := [
  ("rintro_pat_one", seq [lit "(", many1 (ref "rintro_pat"), typeIfAny, lit ")"])]

def patterns : Entries :=
  simplePatterns ++ groupedPattern ++ groupedPatterns ++ [
    ("rcases_pat", anyOf (simplePatterns ++ groupedPattern)),
    ("rintro_pat", anyOf (simplePatterns ++ groupedPatterns)),
    ("_rcases_pat_med", sepBy1 (ref "rcases_pat") (lit "|")),
    ("_rcases_pat_lo", seq [ref "_rcases_pat_med", typeIfAny])]

def tacticForms : Entries := tactics ++ [("tactic_p", anyOf tactics)] ++ tacticParts ++ patterns

end Treegram.Builtin
