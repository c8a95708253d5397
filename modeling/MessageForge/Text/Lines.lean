import MessageForge.Text.Basic

/-!
# Lines

A module is a list of lines joined by line feeds. Output of other programs is
cut at every line boundary of Unicode, and text files are read with all three
line ends turned into a line feed.
-/

namespace MessageForge.Text

def joinLines (lines : List Text) : Text :=
  join ['\n'] lines

/-- The characters that end a line in text of unknown provenance. -/
def isLineBoundary (c : Char) : Bool :=
  c = '\n' || c = '\r' || c.toNat = 0x0b || c.toNat = 0x0c ||
    (0x1c ≤ c.toNat && c.toNat ≤ 0x1e) || c.toNat = 0x85 ||
    c.toNat = 0x2028 || c.toNat = 0x2029

/-- A carriage return and a line feed after it are one boundary, and a
boundary at the very end starts no further line. -/
def linesFrom (current : Text) : Text → List Text
  | [] => if current.isEmpty then [] else [current.reverse]
  | '\r' :: '\n' :: rest => current.reverse :: linesFrom [] rest
  | c :: rest =>
      if isLineBoundary c then current.reverse :: linesFrom [] rest
      else linesFrom (c :: current) rest

def lines (text : Text) : List Text :=
  linesFrom [] text

/-- Both other line ends become a line feed. -/
def universalNewlines : Text → Text
  | [] => []
  | '\r' :: '\n' :: rest => '\n' :: universalNewlines rest
  | '\r' :: rest => '\n' :: universalNewlines rest
  | c :: rest => c :: universalNewlines rest

end MessageForge.Text
