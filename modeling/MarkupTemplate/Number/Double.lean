/-!
64-bit binary floating point, told by rank. The finite magnitudes are counted from zero upward, so
a larger rank is a larger magnitude and a comparison is one of integers. Every operation here is
exact.
-/

namespace MarkupTemplate

/-- How many finite magnitudes there are; as a rank, the first that is out of range. -/
def infiniteRank : Nat := 2047 * Nat.pow 2 52

structure Finite where
  negative : Bool
  /-- How many magnitudes lie below this one. -/
  rank : Nat
  rank_lt : rank < infiniteRank
deriving DecidableEq, Repr

namespace Finite

/-- The gap to the next larger magnitude is `2 ^ gap` units of `2 ^ (-1074)`. -/
def gap (x : Finite) : Nat :=
  x.rank / Nat.pow 2 52 - 1

/-- The magnitude in units of its own gap. -/
def significand (x : Finite) : Nat :=
  if x.rank < Nat.pow 2 52 then x.rank else Nat.pow 2 52 + x.rank % Nat.pow 2 52

/-- The magnitude in units of `2 ^ (-1074)`. -/
def units (x : Finite) : Nat :=
  x.significand * Nat.pow 2 x.gap

def unitsPerOne : Nat := Nat.pow 2 1074

/-- Orders the finite numbers; the two zeros have one key. -/
def key (x : Finite) : Int :=
  if x.negative then -(x.rank : Int) else x.rank

def isZero (x : Finite) : Bool :=
  x.rank == 0

def whole? (x : Finite) : Option Nat :=
  if x.units % unitsPerOne = 0 then some (x.units / unitsPerOne) else none

end Finite

inductive Double
  | nan
  | infinite (negative : Bool)
  | finite (value : Finite)
deriving DecidableEq, Repr

namespace Double

/-- The number of a rank; every rank out of range stands for infinity. -/
def ofRank (negative : Bool) (rank : Nat) : Double :=
  if inRange : rank < infiniteRank then .finite ⟨negative, rank, inRange⟩ else .infinite negative

def zero : Double :=
  ofRank false 0

def finite? : Double → Option Finite
  | .finite value => some value
  | _ => none

def negate : Double → Double
  | .nan => .nan
  | .infinite negative => .infinite !negative
  | .finite value => .finite { value with negative := !value.negative }

def key? : Double → Option Int
  | .nan => none
  | .infinite true => some (-(infiniteRank : Int))
  | .infinite false => some infiniteRank
  | .finite value => some value.key

def compare? (left right : Double) : Option Ordering :=
  match left.key?, right.key? with
  | some leftKey, some rightKey => some (compare leftKey rightKey)
  | _, _ => none

/-- Numeric equality: the two zeros are equal, and NaN equals nothing. -/
def equal (left right : Double) : Bool :=
  left.compare? right == some .eq

end Double
end MarkupTemplate
