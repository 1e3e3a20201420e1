import Treegram.Builtin.Blocks
import Treegram.Builtin.Commands
import Treegram.Builtin.Tactics
import Treegram.Builtin.Terms
import Treegram.Grammar.Draft

/-!
The built-in grammar, put together from its parts. Its external tokens stand in the
order in which the scanner counts them.
-/

namespace Treegram.Builtin

/-- The name in symbol tables. -/
def grammarName : String := "lean"

/-- The name in messages. -/
def displayName : String := "Lean"

def externalNames : List String := [
  "_raw_str_start", "raw_str_content", "_raw_str_end", "comment_body", "_push_col", "_pop_col",
  "_match_alts_start", "_match_alt_start", "_eq_col_start", "gt_col_bar", "gt_col_else", "_dedent",
  "paren_open", "paren_close", "angle_open", "angle_close", "curly_open", "curly_close",
  "square_open", "square_close", "_eof", "__error_sentinel"]

def extras : List Rule := [.pattern "[\\s\\n]+", ref "comment", ref "line_comment"]

def grammar : Except DuplicateRule Grammar :=
  Grammar.assemble grammarName [
    .rules files,
    .rules declarationForms,
    .rules notations,
    .rules blockForms,
    .rules termForms,
    .rules tacticForms,
    .rules words,
    .externals (externalNames.map ref),
    .extras extras]

end Treegram.Builtin
