/-! Sets of characters as inversion lists: the ascending code points at which
membership changes, the first of them being the first member. -/
namespace CellScreen.Text

structure CharSet where
  changes : List Nat

namespace CharSet

def contains (set : CharSet) (c : Char) : Bool :=
  (set.changes.takeWhile (· ≤ c.toNat)).length % 2 == 1

end CharSet
end CellScreen.Text
