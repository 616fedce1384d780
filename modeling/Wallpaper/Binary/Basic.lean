import Wallpaper.Binary.Rounding

/-! Binary floating-point numbers. A finite number is a sign and a magnitude in units of the
least positive number of its format; every operation is the exact result, rounded once. Zero has
both signs, and they compare equal; what is no number compares with nothing. -/
namespace Wallpaper

/-- A format by its count of significant bits and of exponent bits. -/
structure Binary.Format where
  precision : Nat
  exponentBits : Nat
  precision_pos : 0 < precision := by decide
deriving DecidableEq

namespace Binary.Format

def double : Format := { precision := 53, exponentBits := 11 }

def single : Format := { precision := 24, exponentBits := 8 }

def one (f : Format) : Nat := 1 <<< (1 <<< (f.exponentBits - 1) + f.precision - 3)

/-- The first magnitude beyond the finite ones, in units. -/
def limit (f : Format) : Nat := 1 <<< (1 <<< f.exponentBits + f.precision - 3)

end Binary.Format

structure Binary.Magnitude (f : Binary.Format) where
  units : Nat
  fits : Binary.Fits f.precision units
  lt_limit : units < f.limit
deriving DecidableEq

inductive Binary (f : Binary.Format) where
  /-- What is no number: the result of an operation that has none. -/
  | nan
  | infinity (negative : Bool)
  | finite (negative : Bool) (size : Binary.Magnitude f)
deriving DecidableEq

abbrev Double := Binary .double

abbrev Single := Binary .single

namespace Binary

variable {f : Format}

/-- The number nearest to a quotient of units; too large a quotient becomes infinite. -/
def ofRatio (f : Format) (negative : Bool) (num den : Nat) : Binary f :=
  let units := roundQuotient f.precision num den
  if lt : units < f.limit then
    finite negative ⟨units, fits_roundQuotient f.precision_pos num den, lt⟩
  else infinity negative

def ofNat (n : Nat) : Binary f := ofRatio f false (n * f.one) 1

/-- The number nearest to a decimal fraction, its digits divided by a power of ten. -/
def ofDecimal (negative : Bool) (digits places : Nat) : Binary f :=
  ofRatio f negative (digits * f.one) (Nat.pow 10 places)

instance : OfNat (Binary f) n := ⟨ofNat n⟩

def isNan : Binary f → Bool
  | nan => true
  | _ => false

/-! ### Arithmetic -/

def signed (negative : Bool) (n : Nat) : Int := if negative then -n else n

def neg : Binary f → Binary f
  | nan => nan
  | infinity negative => infinity (!negative)
  | finite negative size => finite (!negative) size

/-- A sum of zero is negative only if both terms are. -/
def add : Binary f → Binary f → Binary f
  | nan, _ => nan
  | _, nan => nan
  | infinity s, infinity t => if s = t then infinity s else nan
  | infinity s, finite _ _ => infinity s
  | finite _ _, infinity t => infinity t
  | finite s m, finite t n =>
    let sum := signed s m.units + signed t n.units
    ofRatio f (if sum = 0 then s && t else sum < 0) sum.natAbs 1

def sub (x y : Binary f) : Binary f := x.add y.neg

def mul : Binary f → Binary f → Binary f
  | nan, _ => nan
  | _, nan => nan
  | infinity s, infinity t => infinity (s != t)
  | infinity s, finite t n => if n.units = 0 then nan else infinity (s != t)
  | finite s m, infinity t => if m.units = 0 then nan else infinity (s != t)
  | finite s m, finite t n => ofRatio f (s != t) (m.units * n.units) f.one

def div : Binary f → Binary f → Binary f
  | nan, _ => nan
  | _, nan => nan
  | infinity _, infinity _ => nan
  | infinity s, finite t _ => infinity (s != t)
  | finite s _, infinity t => ofRatio f (s != t) 0 1
  | finite s m, finite t n =>
    if n.units = 0 then (if m.units = 0 then nan else infinity (s != t))
    else ofRatio f (s != t) (m.units * f.one) n.units

instance : Neg (Binary f) := ⟨neg⟩
instance : Add (Binary f) := ⟨add⟩
instance : Sub (Binary f) := ⟨sub⟩
instance : Mul (Binary f) := ⟨mul⟩
instance : Div (Binary f) := ⟨div⟩

/-! ### Comparison -/

/-- The place on the number line, in units; the infinities lie just beyond the finite numbers. -/
def place? : Binary f → Option Int
  | nan => none
  | infinity negative => some (signed negative f.limit)
  | finite negative size => some (signed negative size.units)

def lessThan (x y : Binary f) : Bool :=
  match x.place?, y.place? with
  | some a, some b => a < b
  | _, _ => false

/-- Equality as numbers. It is not the identity: the two zeros are equal, and what is no number
does not equal itself. -/
def equal (x y : Binary f) : Bool :=
  match x.place?, y.place? with
  | some a, some b => a = b
  | _, _ => false

/-! ### Other operations -/

/-- The nearest whole number, a half away from zero. The sign stays, also that of a zero. -/
def roundWhole : Binary f → Binary f
  | finite negative size =>
    ofRatio f negative ((2 * size.units + f.one) / (2 * f.one) * f.one) 1
  | x => x

def convert (g : Format) : Binary f → Binary g
  | nan => nan
  | infinity negative => infinity negative
  | finite negative size => ofRatio g negative (size.units * g.one) f.one

end Binary

end Wallpaper
