/-!
# Names for holders of the lock

`holderName` : sixteen bytes as a name, in the form of a random identifier of version four.
-/

namespace SchemaMigration

set_option autoImplicit false

/-- The bytes with the marks of the version and the variant. -/
def markedBytes (bytes : List UInt8) : List UInt8 :=
  bytes.mapIdx fun i b => if i == 6 then b % 16 + 64 else if i == 8 then b % 64 + 128 else b

def hexDigits (bytes : List UInt8) : String :=
  String.ofList (bytes.flatMap fun b => [Nat.digitChar (b.toNat / 16), Nat.digitChar (b.toNat % 16)])

/-- Lists of the given lengths cut off one after another. -/
def cut {α : Type} : List Nat → List α → List (List α)
  | [], _ => []
  | n :: ns, xs => xs.take n :: cut ns (xs.drop n)

/-- The name that sixteen bytes spell, in five groups. -/
def holderName (bytes : List UInt8) : String :=
  "-".intercalate ((cut [4, 2, 2, 2, 6] (markedBytes bytes)).map hexDigits)

end SchemaMigration
