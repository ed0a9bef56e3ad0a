import Coercion.VectorType.Build

/-!
Values as truth values. Zero and what is empty count as false, and so does no value at all; everything else counts as
true, except that a missing value of nullable storage has no truth value.
-/

namespace Coercion

namespace Value

/-- Whether a value counts as true. -/
def truth : Value → Except Failure Bool
  | .absent => .ok false
  | .notAvailable => .error (.refused .typeError)
  | .text s => .ok !s.isEmpty
  | .list xs | .tuple xs | .dict _ xs => .ok !xs.isEmpty
  | .array _ [x] => truth x
  | .array _ xs => .error (.ambiguousTruth xs.isEmpty)
  | .span s => .ok (s != 0)
  | .scalar _ v => truth v
  | .bytes bs => .ok !bs.isEmpty
  | .complex re im => .ok !(re.same .zero && im.same .zero)
  | v =>
    match v.quantity? with
    | some (.finite q) => .ok (q != 0)
    | _ => .ok true

end Value

end Coercion
