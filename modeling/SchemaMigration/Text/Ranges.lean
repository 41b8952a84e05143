/-!
# Sets of characters given by ranges

`Ranges` : a set of characters as closed intervals of code points.
`Ranges.has` : membership of a character.
-/

namespace SchemaMigration.Text

set_option autoImplicit false

/-- A set of characters as closed intervals of code points. -/
abbrev Ranges := List (Nat × Nat)

def Ranges.has (r : Ranges) (c : Char) : Bool :=
  r.any fun p => p.1 ≤ c.toNat && c.toNat ≤ p.2

end SchemaMigration.Text
