/-! White space in the sense of the White_Space property of Unicode: the table, the test for one
character, and trimming at both ends. -/
namespace Telemetry.Text

/-- First and last code point of every range of white space, in rising order. -/
def blankRanges : List (Nat × Nat) :=
  [(0x09, 0x0d), (0x20, 0x20), (0x85, 0x85), (0xa0, 0xa0), (0x1680, 0x1680), (0x2000, 0x200a),
    (0x2028, 0x2029), (0x202f, 0x202f), (0x205f, 0x205f), (0x3000, 0x3000)]

def isBlank (c : Char) : Bool :=
  blankRanges.any fun (first, last) => first ≤ c.toNat && c.toNat ≤ last

def trim (s : List Char) : List Char :=
  ((s.dropWhile isBlank).reverse.dropWhile isBlank).reverse

def allBlank (s : String) : Bool :=
  s.toList.all isBlank

end Telemetry.Text
