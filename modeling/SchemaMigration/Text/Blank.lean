/-!
# Blank characters and trimming

`isBlank` : the twenty-five characters of the White_Space property.
`trim`    : a text without the blanks at its two ends.
-/

namespace SchemaMigration.Text

set_option autoImplicit false

/-- Whether `c` has the White_Space property. -/
def isBlank (c : Char) : Bool :=
  let n := c.toNat
  (0x9 ≤ n && n ≤ 0xD) || n == 0x20 || n == 0x85 || n == 0xA0 || n == 0x1680 || (0x2000 ≤ n && n ≤ 0x200A) ||
    n == 0x2028 || n == 0x2029 || n == 0x202F || n == 0x205F || n == 0x3000

def trimStart (s : List Char) : List Char := s.dropWhile isBlank

def trimEnd (s : List Char) : List Char := (s.reverse.dropWhile isBlank).reverse

def trim (s : List Char) : List Char := trimEnd (trimStart s)

def allBlank (s : List Char) : Bool := s.all isBlank

def trimString (s : String) : String := String.ofList (trim s.toList)

/-! ## What trimming keeps -/

theorem trimStart_of_not_blank {c : Char} (h : isBlank c = false) (s : List Char) : trimStart (c :: s) = c :: s := by
  simp [trimStart, List.dropWhile, h]

theorem trimStart_of_blank {c : Char} (h : isBlank c = true) (s : List Char) : trimStart (c :: s) = trimStart s := by
  simp [trimStart, List.dropWhile, h]

end SchemaMigration.Text
