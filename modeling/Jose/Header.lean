import Jose.Algorithm
import Jose.Json.Write

/-!
The protected headers of signed and encrypted tokens. A header is written as an object whose members
have a fixed order; what is not set is left out.
-/

namespace Jose

def unsignedName : String := "none"

/-- The media type in `typ` and, for a nested token, in `cty`. -/
def tokenType : String := "JWT"

def optionalMember (name : String) : Option String → Members Json
  | none => []
  | some value => [(name, .text value)]

structure JwsHeader where
  alg : String
  typ : String
  kid : Option String
  deriving DecidableEq, Repr

namespace JwsHeader

def signed (algorithm : SignatureAlgorithm) : JwsHeader := ⟨algorithm.name, tokenType, none⟩

def unsigned : JwsHeader := ⟨unsignedName, tokenType, none⟩

def withKeyId (keyId : Option String) (header : JwsHeader) : JwsHeader :=
  { header with kid := keyId }

def isUnsigned (header : JwsHeader) : Bool := header.alg == unsignedName

def toJson (header : JwsHeader) : Json :=
  .object ([("alg", .text header.alg), ("typ", .text header.typ)] ++
    optionalMember "kid" header.kid)

def set (_ : Origin) (name : String) (item : Document) (header : JwsHeader) :
    Except Problem JwsHeader :=
  match name with
  | "alg" => item.toText.map fun alg => { header with alg }
  | "typ" => item.toText.map fun typ => { header with typ }
  | "kid" => (item.toOption Document.toText).map fun kid => { header with kid }
  | _ => .ok header

def record : Record JwsHeader where
  title := "struct JwsHeader"
  fields := ["alg", "typ", "kid"]
  required := ["alg", "typ"]
  positional := ["alg", "typ", "kid"]
  blank := ⟨"", "", none⟩
  set := set

end JwsHeader

structure JweHeader where
  alg : KeyAlgorithm
  enc : ContentAlgorithm
  cty : Option String
  kid : Option String
  deriving DecidableEq, Repr

namespace JweHeader

def make (alg : KeyAlgorithm) (enc : ContentAlgorithm) : JweHeader := ⟨alg, enc, none, none⟩

/-- Says whether the plaintext is a compact token itself. -/
def nested (isNested : Bool) (header : JweHeader) : JweHeader :=
  { header with cty := if isNested then some tokenType else none }

def withKeyId (keyId : Option String) (header : JweHeader) : JweHeader :=
  { header with kid := keyId }

def toJson (header : JweHeader) : Json :=
  .object ([("alg", .text header.alg.name), ("enc", .text header.enc.name)] ++
    optionalMember "cty" header.cty ++ optionalMember "kid" header.kid)

def set (origin : Origin) (name : String) (item : Document) (header : JweHeader) :
    Except Problem JweHeader :=
  match name with
  | "alg" => (item.toVariant origin KeyAlgorithm.known).map fun alg => { header with alg }
  | "enc" => (item.toVariant origin ContentAlgorithm.known).map fun enc => { header with enc }
  | "cty" => (item.toOption Document.toText).map fun cty => { header with cty }
  | "kid" => (item.toOption Document.toText).map fun kid => { header with kid }
  | _ => .ok header

def record : Record JweHeader where
  title := "struct JweHeader"
  fields := ["alg", "enc", "cty", "kid"]
  required := ["alg", "enc"]
  positional := ["alg", "enc", "cty", "kid"]
  blank := make .rsaOaep256 .standard
  set := set

end JweHeader

end Jose
