import MessageForge.Text.Basic

/-!
# Blank characters

The characters that are trimmed from the ends of a category: those with the
white space property of Unicode and the four information separators.
-/

namespace MessageForge.Text

def isBlank (c : Char) : Bool :=
  let n := c.toNat
  (0x09 ≤ n && n ≤ 0x0d) || (0x1c ≤ n && n ≤ 0x20) || n = 0x85 || n = 0xa0 ||
    n = 0x1680 || (0x2000 ≤ n && n ≤ 0x200a) || n = 0x2028 || n = 0x2029 ||
    n = 0x202f || n = 0x205f || n = 0x3000

def trimLeft (text : Text) : Text :=
  text.dropWhile isBlank

def trim (text : Text) : Text :=
  (trimLeft (trimLeft text).reverse).reverse

end MessageForge.Text
