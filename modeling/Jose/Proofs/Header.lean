import Jose.Header
import Jose.Json.Record
import Jose.Proofs.Json.Written

/-!
Headers are read back from their text, whatever their members hold.
-/

namespace Jose

/-- Reading a record from the text of a value is reading it from the value's document. -/
theorem Record.ofBytes_encode (record : Record α) {value : Json} (whole : value.IsWhole) :
    record.ofBytes value.encode = record.read .text (.ofJson value) := by
  rw [Record.ofBytes, Scanned.ofBytes_encode whole, Scanned.readWith]
  simp only [bind, Except.bind]
  split
  · next problem refused => exact refused.symm
  · next answer read => simp [read]

namespace JwsHeader

theorem toJson_isWhole (header : JwsHeader) : header.toJson.IsWhole := by
  cases header with
  | mk alg typ kid => cases kid <;> simp [toJson, optionalMember, Json.IsWhole, Json.HoldWhole]

theorem ofBytes_toJson (header : JwsHeader) : record.ofBytes header.toJson.encode = .ok header := by
  rw [Record.ofBytes_encode record header.toJson_isWhole]
  cases header with
  | mk alg typ kid => cases kid <;> rfl

end JwsHeader

namespace JweHeader

theorem toJson_isWhole (header : JweHeader) : header.toJson.IsWhole := by
  cases header with
  | mk alg enc cty kid =>
      cases cty <;> cases kid <;>
        simp [toJson, optionalMember, Json.IsWhole, Json.HoldWhole]

theorem ofBytes_toJson (header : JweHeader) : record.ofBytes header.toJson.encode = .ok header := by
  rw [Record.ofBytes_encode record header.toJson_isWhole]
  cases header with
  | mk alg enc cty kid =>
      cases alg
      cases enc <;> cases cty <;> cases kid <;> rfl

end JweHeader

end Jose
