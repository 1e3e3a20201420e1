import Treegram.Builtin.Declarations
import Treegram.Builtin.Notations

/-!
Files: the header, the imports, and the commands one after the other.
-/

namespace Treegram.Builtin

open Rule

def notationHead : List Rule := [maybe (ref "documentation"), maybe (ref "attributes"), attributeScope]

def notationOptions : List Rule := [maybe (ref "named_name"), maybe (ref "named_prio")]

def commands : Entries := [
  ("cmd_module_doc", seq [lit "/-!", ref "comment_body", lit "-/"]),
  ("cmd_declaration", seq [modifiers, anyOf declarations]),
  ("cmd_deriving", seq [lit "deriving", lit "instance", identList, lit "for", identList]),
  ("cmd_noncomputable_section", seq [lit "noncomputable", lit "section", maybe (ref "ident")]),
  ("cmd_section", seq [lit "section", maybe (ref "ident")]),
  ("cmd_namespace", seq [lit "namespace", ref "ident"]),
  ("cmd_end", seq [lit "end", maybe (ref "ident")]),
  ("cmd_variable", seq [lit "variable", many1 (ref "bracketed_binder")]),
  ("cmd_universe", seq [lit "universe", idents]),
  ("cmd_check", seq [lit "#check", ref "term"]),
  ("cmd_check_failure", seq [lit "#check_failure", ref "term"]),
  ("cmd_eval", seq [lit "#eval", ref "term"]),
  ("cmd_eval_bang", seq [lit "#eval!", ref "term"]),
  ("cmd_synth", seq [lit "#synth", ref "term"]),
  ("cmd_exit", lit "\x23exit"),
  ("cmd_print", seq [lit "#print", choice [ref "ident", ref "str_lit"]]),
  ("cmd_print_axioms", seq [lit "#print", lit "axioms", ref "ident"]),
  ("cmd_print_eqns", seq [lit "#print", choice [lit "equations", lit "eqns"], ref "ident"]),
  ("cmd_print_tac_tags", seq [lit "#print", lit "tactic", lit "tags"]),
  ("cmd_where", lit "#where"),
  ("cmd_version", lit "#version"),
  ("cmd_init_quot", lit "init_quot"),
  ("cmd_set_option", seq [lit "set_option", ref "ident", optionValue]),
  ("cmd_attribute",
    seq [
      lit "attribute", lit "[",
      sepBy1 (choice [seq [lit "-", ref "ident"], ref "attr_instance"]) (lit ","), lit "]",
      idents]),
  ("cmd_export", seq [lit "export", ref "ident", lit "(", idents, lit ")"]),
  ("cmd_open", seq [lit "open", ref "_open_decl"]),
  ("cmd_mutual", lit "mutual"),
  ("cmd_initialize",
    prec 100 <| seq [
      modifiers, choice [pattern "initialize\\s", pattern "builtin_initialize\\s"],
      maybe <| seq [
        ref "_push_col", ref "ident", ref "type_spec", ref "left_arrow", ref "_pop_col"],
      ref "do_seq"]),
  ("cmd_in", precRight 0 (seq [ref "command", pattern "\\sin\\s", ref "command"])),
  ("cmd_add_docstring", seq [ref "documentation", lit "add_decl_doc", ref "ident"]),
  ("cmd_register_tactic_tag",
    seq [maybe (ref "documentation"), lit "register_tactic_tag", ref "ident", ref "str_lit"]),
  ("cmd_tactic_extension",
    seq [maybe (ref "documentation"), lit "tactic_extension", ref "ident"]),
  ("cmd_recommended_spelling",
    seq [
      maybe (ref "documentation"), lit "recommended_spelling", ref "str_lit", lit "for",
      ref "str_lit", lit "in", lit "[", identList, lit "]"]),
  ("cmd_gen_injective_theorems", seq [lit "gen_injective_theorems%", ref "ident"]),
  ("cmd_include", seq [lit "include", idents]),
  ("cmd_omit", seq [lit "omit", many1 (choice [ref "ident", ref "inst_binder"])]),
  ("cmd_mixfix",
    seq <|
      notationHead ++ [ref "mixfix_kind", ref "precedence"] ++ notationOptions ++
      [ref "str_lit", ref "darrow", ref "term"]),
  ("cmd_notation",
    seq <|
      notationHead ++ [lit "notation", maybe (ref "precedence")] ++ notationOptions ++
      [many (ref "notation_item"), ref "darrow", ref "term"]),
  ("cmd_macro_rules",
    seq (notationHead ++ [lit "macro_rules", maybe (ref "kind"), ref "match_alts"])),
  ("cmd_syntax",
    seq <|
      notationHead ++ [pattern "syntax\\s", maybe (ref "precedence")] ++ notationOptions ++
      [many1 (ref "syntax_p"), lit ":", ref "ident"])]

def openings : Entries := [
  ("open_hiding", seq [ref "ident", lit "hiding", idents]),
  ("open_renaming",
    seq [
      ref "ident", lit "renaming",
      sepBy1 (seq [ref "ident", choice [lit "→", lit "->"], ref "ident"]) (lit ",")]),
  ("open_only", seq [ref "ident", lit "(", idents, lit ")"]),
  ("open_simple", idents),
  ("open_scoped", seq [lit "scoped", idents])]

def commandForms : Entries :=
  commands ++ [("command", anyOf commands)] ++ openings ++ [("_open_decl", anyOf openings)]

def imports : Entries := [
  ("import", seq [maybe (lit "private"), lit "import", maybe (lit "all"), ref "ident"])]

/-- What may stand before the commands. -/
def header : Rule := seq [maybe (lit "module"), maybe (lit "prelude"), many (ref "import")]

def files : Entries :=
  [("module", seq [header, many (ref "command"), ref "_eof"])] ++ imports ++ commandForms

end Treegram.Builtin
