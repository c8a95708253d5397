import MessageForge.Text.Identifier
import MessageForge.Text.PrintableTable

/-!
# Printable characters

Quoted text shows printable characters as they are and escapes all others.
Surrogates are no characters and never printable.
-/

namespace MessageForge.Text

def isPrintableCode (n : Nat) : Bool :=
  if n < 128 then 0x20 ≤ n && n < 0x7f else withinBoundaries n printableBoundaries

def isPrintable (c : Char) : Bool :=
  isPrintableCode c.toNat

end MessageForge.Text
