/-!
Powers of integers are repeated products, as in the core library, whatever other instances are in
scope.
-/

namespace StreamWidth

@[default_instance 20000]
scoped instance (priority := high) natPower : Pow Nat Nat :=
  @instPowNat Nat instNatPowNat

@[default_instance 20000]
scoped instance (priority := high) intPower : Pow Int Nat :=
  @instPowNat Int Int.instNatPow

end StreamWidth
