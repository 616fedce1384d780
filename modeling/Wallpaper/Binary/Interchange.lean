import Wallpaper.Binary.Basic

/-! Written forms of binary numbers: the bits of the interchange encoding, and the exact decimal
expansion. -/
namespace Wallpaper.Binary

variable {f : Format}

/-- The number that a word encodes: a sign bit, the exponent bits, and the bits of the
significand below its first. -/
def ofBits (f : Format) (word : Nat) : Binary f :=
  let below := f.precision - 1
  let negative : Bool := word >>> (f.exponentBits + below) % 2 = 1
  let exponent := word >>> below % 1 <<< f.exponentBits
  let fraction := word % 1 <<< below
  if exponent + 1 = 1 <<< f.exponentBits then
    if fraction = 0 then infinity negative else nan
  else if exponent = 0 then ofRatio f negative fraction 1
  else ofRatio f negative ((1 <<< below + fraction) <<< (exponent - 1)) 1

/-- The word of a number; there is none for what is no number. The exponent of a finite number
counts the bits of its magnitude beyond the significant ones, and the first significant bit, if
it is there, carries into it. -/
def toBits? (x : Binary f) : Option Nat :=
  let below := f.precision - 1
  let sign (negative : Bool) := if negative then 1 <<< (f.exponentBits + below) else 0
  match x with
  | nan => none
  | infinity negative => some (sign negative + (1 <<< f.exponentBits - 1) <<< below)
  | finite negative size =>
    let beyond := size.units.log2 + 1 - f.precision
    some (sign negative + beyond <<< below + size.units >>> beyond)

def places (digits : List Char) : List Char :=
  match digits.reverse.dropWhile (· = '0') with
  | [] => ['0']
  | kept => kept.reverse

/-- All decimal places of a number, at least one. -/
def toDecimal : Binary f → String
  | nan => "NaN"
  | infinity negative => if negative then "-inf" else "inf"
  | finite negative size =>
    let count := f.one.log2
    let digits := Nat.toDigits 10 (size.units % f.one * Nat.pow 5 count)
    let padded := List.replicate (count - digits.length) '0' ++ digits
    (if negative then "-" else "") ++ toString (size.units / f.one) ++ "." ++
      String.ofList (places padded)

end Wallpaper.Binary
