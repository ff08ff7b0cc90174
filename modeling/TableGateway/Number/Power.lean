/-!
# Powers

The powers of natural numbers and of integers are those of the core library, also where a theory of
algebraic structures gives them others.
-/

namespace TableGateway.Number

@[default_instance 20000]
instance (priority := 2000) powNat : Pow Nat Nat :=
  instPowNat

@[default_instance 20000]
instance (priority := 2000) powInt : Pow Int Nat :=
  instPowNat

end TableGateway.Number
