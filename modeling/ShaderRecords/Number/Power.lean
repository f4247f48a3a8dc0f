/-
ShaderRecords.Number.Power — which power `^` stands for.

More than one library may say what the power of a number is, and the latest one that is known is taken. Where
`Power` is open, `^` is the power of the core library whatever else is known, as long as the exponent is known
to be a natural number; a literal exponent is written with its type.
-/

namespace ShaderRecords.Power

/-- The power of the core library. -/
scoped instance (priority := 10000) ofNatPow {α : Type} [NatPow α] : Pow α Nat := instPowNat

end ShaderRecords.Power
