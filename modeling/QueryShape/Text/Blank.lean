/-!
# Blank characters and trimming

Blank characters are those with the White_Space property.  Trimming drops
blanks at the start and at the end of a text and leaves every inner blank.
-/

namespace QueryShape

/-- The White_Space property: 25 characters in ten runs. -/
def isBlank (c : Char) : Bool :=
  let n := c.toNat
  (0x09 ≤ n && n ≤ 0x0D) || n == 0x20 || n == 0x85 || n == 0xA0 || n == 0x1680 ||
    (0x2000 ≤ n && n ≤ 0x200A) || n == 0x2028 || n == 0x2029 || n == 0x202F ||
    n == 0x205F || n == 0x3000

def trimStart (cs : List Char) : List Char :=
  cs.dropWhile isBlank

def trimEnd (cs : List Char) : List Char :=
  (trimStart cs.reverse).reverse

def trim (cs : List Char) : List Char :=
  trimEnd (trimStart cs)

theorem trimStart_cons_of_not_isBlank {c : Char} {cs : List Char}
    (h : isBlank c = false) : trimStart (c :: cs) = c :: cs := by
  simp [trimStart, List.dropWhile, h]

end QueryShape
