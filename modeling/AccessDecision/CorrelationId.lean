set_option autoImplicit false

/-! # Correlation ids

A number of 128 bits by which a request is found again in the logs of both sides. It is written in
26 symbols of five bits, the first of which has only three. -/

namespace AccessDecision

structure CorrelationId where
  number : BitVec 128
  deriving DecidableEq

namespace CorrelationId

/-- The digits and the capital letters, less those that are easily taken for another. -/
def alphabet : List Char := "0123456789ABCDEFGHJKMNPQRSTVWXYZ".toList

/-- The last `count` symbols of a number. -/
def symbols : (count n : Nat) → List Char
  | 0, _ => []
  | count + 1, n => symbols count (n / 32) ++ [alphabet.getD (n % 32) '0']

def text (id : CorrelationId) : String := String.ofList (symbols 26 id.number.toNat)

end CorrelationId

end AccessDecision
