import Treegram.Builtin.Pieces

/-!
Blocks of actions: bindings, reassignments, conditions and nested blocks.
-/

namespace Treegram.Builtin

open Rule

def letHead : List Rule := [lit "let", maybe (lit "mut")]

/-- What to do when a pattern does not match. -/
def elseBranch : List Rule := [ref "gt_col_bar", ref "do_seq"]

def ifBranch : List Rule := [lit "if", ref "do_if_cond", lit "then", ref "do_seq"]

def actions : Entries := [
  ("do_let", seq (letHead ++ [ref "let_decl"])),
  ("do_let_else", seq (letHead ++ [ref "term", ref "defeq", ref "term"] ++ elseBranch)),
  ("do_let_expr",
    seq ([lit "let_expr", ref "match_expr_pat", ref "defeq", ref "term"] ++ elseBranch)),
  ("do_let_meta_expr",
    seq ([lit "let_expr", ref "match_expr_pat", ref "left_arrow", ref "term"] ++ elseBranch)),
  ("do_let_rec", seq [lit "let", lit "rec", ref "let_rec_decls"]),
  ("do_let_arrow", seq (letHead ++ [choice [ref "do_id_decl", ref "do_pat_decl"]])),
  ("do_reassign", oneOf ["let_id_decl_no_binders", "let_pat_decl"]),
  ("do_reassign_arrow", oneOf ["do_id_decl", "do_pat_decl"]),
  ("do_have", seq [lit "have", ref "have_decl"]),
  ("do_if",
    seq <|
      ifBranch ++
      [many (seq ([ref "gt_col_else"] ++ ifBranch)), maybe (seq [ref "gt_col_else", ref "do_seq"])]),
  ("do_expr", ref "term"),
  ("do_nested", seq [pattern "do\\s", ref "do_seq"])]

def blocks : Entries := [
  ("do_seq_item", seq [ref "do_elem", maybe (lit ";")]),
  ("do_seq_bracketed", seq [lit "\x7b", many1 (ref "do_seq_item"), lit "\x7d"]),
  ("do_seq_indent", aligned (ref "do_seq_item")),
  ("do_seq", oneOf ["do_seq_bracketed", "do_seq_indent"])]

def actionParts : Entries := [
  ("do_id_decl", seq [ref "ident", typeIfAny, ref "left_arrow", ref "do_elem"]),
  ("do_pat_decl",
    precRight 0 (seq [ref "term", ref "left_arrow", ref "do_elem", maybe (seq elseBranch)])),
  ("do_if_let_pure", seq [ref "defeq", ref "term"]),
  ("do_if_let_bind", seq [ref "left_arrow", ref "term"]),
  ("do_if_let", seq [lit "let", ref "term", oneOf ["do_if_let_pure", "do_if_let_bind"]]),
  ("do_if_prop", seq [labelIfAny, ref "term"]),
  ("do_if_cond", oneOf ["do_if_let", "do_if_prop"])]

def blockForms : Entries := actions ++ [("do_elem", anyOf actions)] ++ blocks ++ actionParts

end Treegram.Builtin
