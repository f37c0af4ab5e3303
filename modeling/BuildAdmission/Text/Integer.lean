namespace BuildAdmission

inductive IntegerFault where
  | empty
  | invalidDigit
  | tooLarge
  deriving DecidableEq, Repr

def IntegerFault.message : IntegerFault → String
  | empty => "cannot parse integer from empty string"
  | invalidDigit => "invalid digit found in string"
  | tooLarge => "number too large to fit in target type"

/-- Reads digits to the end. The first digit that is none or that leads to the bound is at fault. -/
def readDigitsBelow (bound : Nat) : Nat → List Char → Except IntegerFault Nat
  | n, [] => .ok n
  | n, c :: cs =>
    if c.isDigit then
      let m := 10 * n + (c.toNat - '0'.toNat)
      if m < bound then readDigitsBelow bound m cs else .error .tooLarge
    else .error .invalidDigit

/-- Reads a decimal number below the bound, after a plus sign or none. -/
def readNatBelow (bound : Nat) : List Char → Except IntegerFault Nat
  | [] => .error .empty
  | ['+'] => .error .invalidDigit
  | '+' :: cs => readDigitsBelow bound 0 cs
  | cs => readDigitsBelow bound 0 cs

end BuildAdmission
