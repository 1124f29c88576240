/-!
# Integers of 64 bits

The range of integers that a signed word of 64 bits holds, which is the range of integers in the
store.
-/

namespace SchoolCatalog.Number

/-- The least integer of 64 bits. -/
def leastWord : Int := -9223372036854775808

/-- The greatest integer of 64 bits. -/
def greatestWord : Int := 9223372036854775807

/-- Whether an integer fits in 64 bits. -/
def fitsWord (i : Int) : Bool := leastWord ≤ i && i ≤ greatestWord

end SchoolCatalog.Number
