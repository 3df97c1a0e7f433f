import Jose.Bytes

/-!
Random octets, seen as an endless sequence of which a build takes what it needs.
-/

namespace Jose

abbrev Noise := Nat → UInt8

def Noise.take (count : Nat) (noise : Noise) : Bytes := (List.range count).map noise

end Jose
