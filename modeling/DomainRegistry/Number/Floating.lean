import DomainRegistry.Text.Basic

/-!
Which texts are floating-point numbers: decimals with an exponent, and the names of numbers that are
not finite.
-/

namespace DomainRegistry.Floating

open Text

def dropSign : List Char → List Char
  | '+' :: rest => rest
  | '-' :: rest => rest
  | cs => cs

def isExponent : List Char → Bool
  | [] => true
  | c :: rest => (c == 'e' || c == 'E') && (decimal? (dropSign rest)).isSome

def isDecimal (cs : List Char) : Bool :=
  let whole := cs.takeWhile isDigitAscii
  match cs.drop whole.length with
  | '.' :: rest =>
    let fraction := rest.takeWhile isDigitAscii
    !(whole.isEmpty && fraction.isEmpty) && isExponent (rest.drop fraction.length)
  | rest => !whole.isEmpty && isExponent rest

def names : List String := ["inf", "infinity", "nan"]

/-- A decimal or, in any case, the name of a number, after a sign. -/
def isNumber (cs : List Char) : Bool :=
  let unsigned := dropSign cs
  isDecimal unsigned || names.any fun name => sameIgnoringCase name (String.ofList unsigned)

end DomainRegistry.Floating
