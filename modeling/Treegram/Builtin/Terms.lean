import Treegram.Builtin.Words

/-!
Terms, binders, alternatives and local definitions. A term is taken loosely, as a run of
literals, names, proofs and single characters; what an editor needs to tell apart is
described exactly.
-/

namespace Treegram.Builtin

open Rule

def anyBinder : Rule := choice [ref "binder_ident", ref "bracketed_binder"]

def terms : Entries := [
  ("term",
    precRight 0 <| many1 <| prec (-10) <| choice [
      ref "literal", ref "ident", ref "by", pattern "[^\\s]"]),
  ("type_spec", seq [lit ":", ref "term"]),
  ("by", seq [lit "by", ref "tactic_seq"])]

def bracketedBinders : Entries := [
  ("explicit_binder", seq [lit "(", many1 (ref "binder_ident"), typeIfAny, lit ")"]),
  ("strict_implicit_binder",
    seq [
      choice [lit "\x7b\x7b", lit "⦃"], many1 (ref "binder_ident"), typeIfAny,
      choice [lit "\x7d\x7d", lit "⦄"]]),
  ("implicit_binder", seq [lit "\x7b", many1 (ref "binder_ident"), typeIfAny, lit "\x7d"]),
  ("inst_binder", seq [lit "[", labelIfAny, ref "term", lit "]"])]

def binderForms : Entries :=
  bracketedBinders ++ [
    ("binder_ident", choice [prec 10 (ref "ident"), ref "hole"]),
    ("bracketed_binder", anyOf bracketedBinders)]

def alternatives : Entries := [
  ("match_alt",
    seq [lit "|", sepBy1 (sepBy1 (ref "term") (lit ",")) (lit "|"), ref "darrow", ref "term"]),
  ("match_alts",
    seq [
      ref "_match_alts_start", sepBy1 (ref "match_alt") (ref "_match_alt_start"), ref "_dedent"]),
  ("match_discr", seq [labelIfAny, ref "term"]),
  ("match_expr_pat",
    seq [maybe (seq [ref "ident", lit "@"]), ref "ident", many (ref "binder_ident")])]

def localDefinitions : Entries := [
  ("let_id_lhs", seq [ref "binder_ident", many anyBinder, typeIfAny]),
  ("let_id_decl", seq [ref "let_id_lhs", ref "defeq", ref "term"]),
  ("let_id_decl_no_binders", seq [ref "ident", typeIfAny, ref "defeq", ref "term"]),
  ("let_pat_decl", seq [ref "term", typeIfAny, ref "defeq", ref "term"]),
  ("let_eqns_decl", seq [ref "let_id_lhs", ref "match_alts"]),
  ("let_decl", oneOf ["let_id_decl", "let_pat_decl", "let_eqns_decl"]),
  ("let_rec_decl", seq [maybe (ref "documentation"), maybe (ref "attributes"), ref "let_decl"]),
  ("let_rec_decls", sepBy1 (ref "let_rec_decl") (lit "and")),
  ("have_decl",
    choice [
      ref "let_id_decl", ref "let_pat_decl", seq [ref "type_spec", ref "defeq", ref "term"]]),
  ("where_decls", seq [lit "where", alignedOrSplitBy (ref "let_rec_decl") (lit ";")]),
  ("struct_inst_field",
    seq [
      ref "ident",
      maybe <| seq [
        many anyBinder, typeIfAny, choice [seq [ref "defeq", ref "term"], ref "match_alts"]]])]

def termForms : Entries := terms ++ binderForms ++ alternatives ++ localDefinitions

end Treegram.Builtin
