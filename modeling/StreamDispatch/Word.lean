/-!
Bounds of machine words, in which sizes, offsets and ids are counted.
-/
namespace StreamDispatch.Word

/-- Words of eight bytes are the numbers below this. -/
def bound : Nat := 18446744073709551616

/-- The largest capacity that a buffer can be asked for. -/
def maxCapacity : Nat := bound / 2 - 1

/-- Words of four bytes are the numbers below this. -/
def shortBound : Nat := 4294967296

example : bound = shortBound * shortBound := by decide

end StreamDispatch.Word
