import SourcePress.Decimal.Shortest

/-!
# Binary floating-point formats

A number in an interchange format is a word of bits: a sign, a biased exponent and a fraction.
`BinaryFormat.text` writes it with the fewest digits that read back to the same number of that
format, always in positional notation.
-/

namespace SourcePress

/-- The widths of the two fields below the sign bit. -/
structure BinaryFormat where
  exponentBits : Nat
  fractionBits : Nat
deriving DecidableEq, Repr

namespace BinaryFormat

/-- The format of 32 bits. -/
def single : BinaryFormat := ⟨8, 23⟩

/-- The format of 64 bits. -/
def double : BinaryFormat := ⟨11, 52⟩

/-- The fraction field of a word. -/
def fraction (f : BinaryFormat) (bits : Nat) : Nat := bits % Nat.pow 2 f.fractionBits

/-- The exponent field of a word. -/
def biased (f : BinaryFormat) (bits : Nat) : Nat :=
  bits / Nat.pow 2 f.fractionBits % Nat.pow 2 f.exponentBits

/-- Is the sign bit set? -/
def isNegative (f : BinaryFormat) (bits : Nat) : Bool :=
  bits / Nat.pow 2 (f.fractionBits + f.exponentBits) % 2 = 1

/-- The exponent of the last place of the numbers with the least exponent field. -/
def leastExponent (f : BinaryFormat) : Int :=
  2 - Int.ofNat (Nat.pow 2 (f.exponentBits - 1)) - f.fractionBits

/-- The magnitude of a finite word.  A word with exponent field zero has no hidden bit, and the
numbers beneath a power of two are denser except at the lowest exponent. -/
def cell (f : BinaryFormat) (bits : Nat) : Decimal.Cell :=
  let fraction := f.fraction bits
  let biased := f.biased bits
  if biased = 0 then ⟨fraction, f.leastExponent, false⟩
  else
    { mantissa := Nat.pow 2 f.fractionBits + fraction
      exponent := f.leastExponent + (biased - 1 : Nat)
      denseBelow := fraction = 0 && 1 < biased }

/-- A word as text: the fewest digits that read back.  Zero keeps its sign, and what is no number
has none. -/
def text (f : BinaryFormat) (bits : Nat) : String :=
  let sign := if f.isNegative bits then "-" else ""
  if f.biased bits = Nat.pow 2 f.exponentBits - 1 then
    if f.fraction bits = 0 then sign ++ "inf" else "NaN"
  else if (f.cell bits).mantissa = 0 then sign ++ "0"
  else sign ++ (f.cell bits).shortest.positional

end BinaryFormat

end SourcePress
