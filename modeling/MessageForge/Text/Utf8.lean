import MessageForge.Text.Basic

/-!
# UTF-8

Files hold bytes. Text is written as UTF-8 and read back strictly; output of
other programs is read leniently, where each longest ill-formed piece shows as
one replacement character.
-/

namespace MessageForge

abbrev Bytes := List UInt8

namespace Utf8

def encodeChar (c : Char) : Bytes :=
  let n := c.toNat
  if n < 0x80 then [n.toUInt8]
  else if n < 0x800 then [(0xc0 + n / 64).toUInt8, (0x80 + n % 64).toUInt8]
  else if n < 0x10000 then
    [(0xe0 + n / 4096).toUInt8, (0x80 + n / 64 % 64).toUInt8, (0x80 + n % 64).toUInt8]
  else
    [(0xf0 + n / 262144).toUInt8, (0x80 + n / 4096 % 64).toUInt8,
      (0x80 + n / 64 % 64).toUInt8, (0x80 + n % 64).toUInt8]

def encode (text : Text) : Bytes :=
  text.flatMap encodeChar

/-- The range of the byte after a leading byte, which excludes overlong forms,
surrogates and code points above the last. -/
def secondRange (lead : Nat) : Nat × Nat :=
  if lead = 0xe0 then (0xa0, 0xbf)
  else if lead = 0xed then (0x80, 0x9f)
  else if lead = 0xf0 then (0x90, 0xbf)
  else if lead = 0xf4 then (0x80, 0x8f)
  else (0x80, 0xbf)

/-- The number of bytes that a leading byte announces behind itself. -/
def trailing (lead : Nat) : Option Nat :=
  if lead < 0x80 then some 0
  else if 0xc2 ≤ lead && lead ≤ 0xdf then some 1
  else if 0xe0 ≤ lead && lead ≤ 0xef then some 2
  else if 0xf0 ≤ lead && lead ≤ 0xf4 then some 3
  else none

/-- The longest run of well-formed trailing bytes, at most `wanted` of them. -/
def trailRun (low high : Nat) : (wanted : Nat) → Bytes → List Nat
  | 0, _ => []
  | _ + 1, [] => []
  | wanted + 1, b :: rest =>
      if low ≤ b.toNat && b.toNat ≤ high then b.toNat :: trailRun 0x80 0xbf wanted rest
      else []

/-- The character at the front, if it is well formed, and the number of bytes
that are read. -/
def front (lead : UInt8) (rest : Bytes) : Option Char × Nat :=
  match trailing lead.toNat with
  | none => (none, 1)
  | some 0 => (some (Char.ofNat lead.toNat), 1)
  | some wanted =>
      let (low, high) := secondRange lead.toNat
      let trail := trailRun low high wanted rest
      if trail.length = wanted then
        let start := lead.toNat % (if wanted = 1 then 32 else if wanted = 2 then 16 else 8)
        (some (Char.ofNat (trail.foldl (fun n b => 64 * n + b % 64) start)), wanted + 1)
      else (none, trail.length + 1)

def decodeFrom (fuel : Nat) (bytes : Bytes) : List (Option Char) :=
  match fuel, bytes with
  | fuel + 1, lead :: rest =>
      let (c, read) := front lead rest
      c :: decodeFrom fuel (rest.drop (read - 1))
  | _, _ => []

def decode? (bytes : Bytes) : Option Text :=
  (decodeFrom bytes.length bytes).mapM id

def decodeLossy (bytes : Bytes) : Text :=
  (decodeFrom bytes.length bytes).map (·.getD (Char.ofNat 0xfffd))

end Utf8

end MessageForge
