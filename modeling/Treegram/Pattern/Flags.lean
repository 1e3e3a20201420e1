import Treegram.Unicode.Property

/-!
Flags of a pattern. They hold from where they are set to the end of the group they
stand in.
-/

namespace Treegram.Pattern

structure Flags where
  foldCase : Bool := false
  multiLine : Bool := false
  dotMatchesNewline : Bool := false
  crlf : Bool := false
  unicode : Bool := true
  verbose : Bool := false

namespace Flags

/-- Which side of a repetition is preferred never matters, so `U` sets nothing. -/
def set? (flags : Flags) (letter : Char) (value : Bool) : Option Flags :=
  match letter with
  | 'i' => some { flags with foldCase := value }
  | 'm' => some { flags with multiLine := value }
  | 's' => some { flags with dotMatchesNewline := value }
  | 'R' => some { flags with crlf := value }
  | 'u' => some { flags with unicode := value }
  | 'x' => some { flags with verbose := value }
  | 'U' => some flags
  | _ => none

/-- Applies flag letters; those behind a hyphen are taken back. No letter stands twice, there is
one hyphen at most, and it is not the last. -/
def change? (flags : Flags) (letters : List Char) : Option Flags :=
  if !letters.Nodup ∨ letters.getLast? = some '-' then none
  else
    let (on, off) := letters.span (· != '-')
    let setAll (value : Bool) (flags : Flags) (letters : List Char) : Option Flags :=
      letters.foldlM (fun (flags : Flags) letter => flags.set? letter value) flags
    (setAll true flags on).bind fun flags => setAll false flags off.tail

end Flags

/-- Leaves out a comment, up to the end of its line, and what else a verbose pattern does not mean. -/
def skipBlanks (inComment : Bool) : List Char → List Char
  | [] => []
  | c :: rest =>
      if inComment then skipBlanks (c != '\n') rest
      else if c = '#' then skipBlanks true rest
      else if Unicode.isWhiteSpace c.toNat then skipBlanks false rest
      else c :: rest

/-- The next character that means something. -/
def Flags.skip (flags : Flags) (text : List Char) : List Char :=
  if flags.verbose then skipBlanks false text else text

end Treegram.Pattern
