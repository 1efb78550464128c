import Stencil.Digest.Sha1

/-!
Name-based identifiers: the first sixteen bytes of the digest of a namespace and a name, stamped
with version five and the usual variant.
-/

namespace Stencil.Digest

/-- The bytes of an identifier, sixteen of them. -/
abbrev Uuid := List UInt8

/-- The namespace of domain names. -/
def Uuid.domainNames : Uuid :=
  bigEndian 16 0x6BA7B8109DAD11D180B400C04FD430C8

/-- The identifier of a name within a namespace. -/
def Uuid.ofName (space : Uuid) (name : String) : Uuid :=
  ((sha1 (space ++ name.toUTF8.toList)).take 16).mapIdx fun i byte =>
    if i = 6 then (byte &&& 0x0F) ||| 0x50
    else if i = 8 then (byte &&& 0x3F) ||| 0x80
    else byte

/-- Hexadecimal digits in groups of 8, 4, 4, 4 and 12, with dashes between them. -/
def Uuid.text (id : Uuid) : String :=
  let digits := id.flatMap fun byte =>
    [Nat.digitChar (byte.toNat / 16), Nat.digitChar (byte.toNat % 16)]
  let group (start count : Nat) := String.ofList ((digits.drop start).take count)
  "-".intercalate [group 0 8, group 8 4, group 12 4, group 16 4, group 20 12]

end Stencil.Digest
