/-!
Numbers in texts that are given by a user.
-/
namespace ServiceGen.Text.Number

/-- The greatest number that is read, which has 64 binary digits. -/
def greatest : Nat := 0xffffffffffffffff

/-- The number that decimal digits stand for, behind those that were read. -/
def ofDigits (value : Nat) : List Char → Option Nat
  | [] => some value
  | c :: cs => if c.isDigit then ofDigits (10 * value + (c.toNat - '0'.toNat)) cs else none

/-- A natural number in decimal digits, with zeros and a plus sign in front as one likes. -/
def natural? (text : String) : Option Nat :=
  let digits := match text.toList with
    | '+' :: cs => cs
    | cs => cs
  if digits.isEmpty then none else (ofDigits 0 digits).filter (· ≤ greatest)

end ServiceGen.Text.Number
