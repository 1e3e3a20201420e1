import Treegram.Builtin.Pieces

/-!
Words: literals, identifiers, the marks of definitions, universe levels and comments.
-/

namespace Treegram.Builtin

open Rule

/-- What may follow a backslash. -/
def quotable : String := "[\\\\\"'rnt]"

/-- A backslash and one of the escapes; `more` are escapes that only some literals have. -/
def escaped (more : List Rule) : Rule :=
  seq [
    lit "\\",
    choice ([pattern quotable, pattern "x[a-fA-F\\d]{2}", pattern "u[a-fA-F\\d]{4}"] ++ more)]

/-- Part of a name: letters and subscripts, without the Greek letters that bind variables. -/
def segment : String := "[[_\\pL]--[λΠΣ]][_!?\\pL[₀-₉][ₐ-ₜ][ᵢ-ᵪ]ⱼ']*"

/-- Part of a name in quotes, which may hold anything but the closing quote. -/
def quotedSegment : Rule := token (seq [lit "«", pattern "[^»]+", lit "»"])

def literals : Entries := [
  ("literal", oneOf ["name_lit", "num_lit", "char_lit", "str_lit", "raw_str_lit"]),
  ("name_lit", seq [lit "`", ref "ident"]),
  ("num_lit",
    choice [
      pattern "0[bB][01]+", pattern "0[oO][0-7]+", pattern "0[xX][0-9a-fA-F]+",
      pattern "-?(?:0|[1-9]\\d*)(?:\\.\\d+)?(?:[eE][+\\-]?\\d+)?"]),
  ("char_lit", token (seq [lit "'", choice [escaped [], pattern "[^\\n]"], lit "'"])),
  ("str_lit",
    token (seq [lit "\"", many (choice [escaped [lit "\n"], pattern "[^\\\\\"\\n]+"]), lit "\""])),
  ("raw_str_lit",
    seq [
      ref "_raw_str_start", aliased (ref "raw_str_content") "str_content" true,
      ref "_raw_str_end"])]

def identifiers : Entries := [
  ("ident",
    seq [
      choice [pattern segment, quotedSegment],
      many <| seq [
        immediateToken (lit "."), immediateToken (choice [pattern segment, quotedSegment])]]),
  ("hole", lit "_")]

def marks : Entries := [
  ("defeq", lit ":="),
  ("left_arrow", choice [lit "←", lit "<-"]),
  ("darrow", lit "=>")]

def levelForms : Entries := [
  ("level_paren", seq [lit "(", ref "_level", lit ")"]),
  ("level_max", lit "max"),
  ("level_imax", lit "imax"),
  ("level_hole", lit "_"),
  ("level_num", ref "num_lit"),
  ("level_ident", ref "ident"),
  ("level_add", lit "+")]

def levels : Entries := levelForms ++ [("_level", many1 (anyOf levelForms))]

def comments : Entries := [
  ("comment", seq [lit "/-", ref "comment_body", lit "-/"]),
  ("line_comment", pattern "--[^\\n]*\\n"),
  ("documentation", seq [lit "/--", ref "comment_body", lit "-/"])]

def words : Entries := literals ++ identifiers ++ marks ++ levels ++ comments

end Treegram.Builtin
