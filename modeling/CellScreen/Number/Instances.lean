/-! Powers and sums of whole numbers. They are those of the core library in all modules, also in
those that import other instances; bounds such as `2 ^ 31` then read alike everywhere. -/
namespace CellScreen.Number

@[default_instance 20000]
instance (priority := 20000) corePower {α : Type} [NatPow α] : Pow α Nat := instPowNat

instance (priority := 20000) coreZero : Zero Nat := Zero.ofOfNat0

end CellScreen.Number
