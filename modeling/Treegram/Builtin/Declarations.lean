import Treegram.Builtin.Pieces

/-!
Declarations, what they are made of, and attributes.
-/

namespace Treegram.Builtin

open Rule

def defaultIfAny : Rule := maybe (seq [ref "defeq", ref "term"])

def declarations : Entries := [
  ("abbrev", seq [lit "abbrev", ref "decl_ident", looseSignature, ref "decl_val"]),
  ("definition",
    precRight 0 <| seq [
      lit "def", ref "decl_ident", looseSignature, ref "decl_val", maybe (ref "decl_deriving")]),
  ("theorem",
    seq [choice [lit "theorem", lit "lemma"], ref "decl_ident", signature, ref "decl_val"]),
  ("opaque", seq [lit "opaque", ref "decl_ident", signature, maybe (ref "decl_val_simple")]),
  ("instance",
    seq [
      attributeScope, lit "instance", maybe (ref "named_prio"), maybe (ref "decl_ident"),
      signature, ref "decl_val"]),
  ("axiom", seq [lit "axiom", ref "decl_ident", signature]),
  ("example", seq [lit "example", looseSignature, ref "decl_val"]),
  ("inductive",
    precRight 0 <| seq [
      lit "inductive", ref "decl_ident", looseSignature, maybe (lit "where"), many (ref "ctor"),
      maybe (ref "computed_fields"), maybe (ref "decl_deriving")]),
  ("class_inductive",
    precRight 0 <| seq [
      lit "class", lit "inductive", ref "decl_ident", looseSignature, maybe (lit "where"),
      many (ref "ctor"), maybe (ref "decl_deriving")]),
  ("structure",
    precRight 0 <| seq [
      choice [lit "structure", lit "class"], ref "decl_ident", many (ref "bracketed_binder"),
      typeIfAny, maybe (ref "extends"),
      maybe (seq [lit "where", maybe (ref "struct_ctor"), maybe (ref "struct_fields")]),
      maybe (ref "decl_deriving")])]

def declarationParts : Entries := [
  ("visibility", choice [pattern "private\\s", pattern "protected\\s"]),
  ("noncomputable", pattern "noncomputable\\s"),
  ("decl_ident",
    seq [ref "ident", maybe (seq [lit ".\x7b", sepBy1 (ref "_level") (lit ","), lit "\x7d"])]),
  ("decl_val_simple", seq [ref "defeq", ref "term", maybe (ref "where_decls")]),
  ("decl_val_eqns", seq [ref "match_alts", maybe (ref "where_decls")]),
  ("where_struct_inst",
    seq [lit "where", statementsIfAny (ref "struct_inst_field"), maybe (ref "where_decls")]),
  ("decl_val", oneOf ["decl_val_simple", "decl_val_eqns", "where_struct_inst"]),
  ("decl_deriving", seq [lit "deriving", sepBy1 (ref "ident") (lit ",")]),
  ("named_prio", seq [lit "(", lit "priority", ref "defeq", ref "num_lit", lit ")"]),
  ("ctor", seq [maybe (ref "documentation"), lit "|", modifiers, ref "ident", looseSignature]),
  ("computed_field", seq [modifiers, ref "ident", lit ":", ref "term", ref "match_alts"]),
  ("computed_fields", precRight 0 (seq [lit "with", alignedIfAny (ref "computed_field")]))]

def fieldBinders : Entries := [
  ("struct_explicit_binder",
    seq [modifiers, lit "(", many1 (ref "ident"), looseSignature, defaultIfAny, lit ")"]),
  ("struct_implicit_binder",
    seq [modifiers, lit "\x7b", many1 (ref "ident"), signature, lit "\x7d"]),
  ("struct_inst_binder", seq [modifiers, lit "[", many1 (ref "ident"), signature, lit "]"]),
  ("struct_simple_binder", seq [modifiers, ref "ident", looseSignature, defaultIfAny])]

def structureParts : Entries := [
  ("struct_ctor", seq [modifiers, ref "ident", lit "::"]),
  ("struct_parent", seq [maybe (seq [ref "ident", lit ":"]), ref "term"]),
  ("extends", seq [lit "extends", sepBy1 (ref "struct_parent") (lit ","), typeIfAny])]

def attributeForms : Entries := [
  ("attr_simple", precRight 0 (seq [ref "ident", many (choice [ref "ident", ref "num_lit"])])),
  ("attr_macro", seq [lit "macro", ref "ident"]),
  ("attr_export", seq [lit "export", ref "ident"])]

def attributeParts : Entries := [
  ("attr_instance", seq [attributeScope, ref "attr_p"]),
  ("attributes", seq [lit "@[", sepBy1 (ref "attr_instance") (lit ","), lit "]"])]

def declarationForms : Entries :=
  declarations ++ declarationParts ++ fieldBinders ++ [("struct_fields", aligned (anyOf fieldBinders))]
    ++ structureParts ++ attributeForms ++ [("attr_p", anyOf attributeForms)] ++ attributeParts

end Treegram.Builtin
