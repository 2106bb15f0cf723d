/-!
# Powers

The powers of two and of ten, which bound words and shift decimal points.
-/

namespace GatewayAcl.Power

def ofTwo (exponent : Nat) : Nat :=
  Nat.pow 2 exponent

def ofTen (exponent : Nat) : Nat :=
  Nat.pow 10 exponent

end GatewayAcl.Power
