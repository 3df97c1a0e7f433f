import Jose.Session
import Jose.Proofs.Claims
import Jose.Proofs.Nested
import Jose.Proofs.Unsigned
import Jose.Proofs.Config
import Jose.Proofs.Session.Effect
import Jose.Proofs.Builder
import Jose.Proofs.Session.Replacement
import Jose.Proofs.Alike
import Jose.Proofs.Session.Isolation
import Jose.Proofs.Claims.Collected
import Jose.Proofs.Claims.Expiry
import Jose.Proofs.Origin
import Jose.Proofs.Apart
import Jose.Proofs.Signed
import Jose.Proofs.Selection
import Jose.Proofs.Plaintext
import Jose.Proofs.Encrypted
import Jose.Proofs.Key.Failure
import Jose.Proofs.Key.Safe
import Jose.Proofs.Claims.Finished
import Jose.Proofs.Key.Document
import Jose.Proofs.Log
import Jose.Proofs.Session.Log
import Jose.Proofs.Delivery
import Jose.Proofs.Key.Material
import Jose.Proofs.Key.Faithful
import Jose.Proofs.Config.Faithful
import Jose.Proofs.Claims.Lifespan
import Jose.Proofs.Key.Folder
import Jose.Proofs.Key.Label
