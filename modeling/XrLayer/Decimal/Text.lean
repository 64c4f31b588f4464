import XrLayer.Decimal.Layout
/-!
Texts of machine floats.

Both widths are read through their bit patterns (`Format.classify`), so each text is a
function of the exact value: the shortest digits that read back in the value's own
width, or a fixed number of places.
-/
namespace XrLayer.Decimal

def wideText? (x : Float) : Option String :=
  Notation.wide.render .binary64 x.toBits.toNat

/-- The JSON text of a 32-bit value, with the fewest digits that read back as that 32-bit
value; infinities and NaN have none. -/
def narrowText? (x : Float32) : Option String :=
  Notation.narrow.render .binary32 x.toBits.toNat

def messageText (x : Float) : String :=
  match wideText? x with
  | some s => s
  | none => if x.isNaN then "NaN" else if x < 0 then "-inf" else "inf"

/-- A 32-bit value in `places` decimal places: `-` for a set sign bit (also when the
rounded magnitude is zero), `inf` and `NaN` for the special values. -/
def fixedText (places : Nat) (x : Float32) : String :=
  match Format.binary32.classify x.toBits.toNat with
  | .finite neg b => (if neg then "-" else "") ++ fixed places b
  | .infinite neg => if neg then "-inf" else "inf"
  | .nan => "NaN"

end XrLayer.Decimal
