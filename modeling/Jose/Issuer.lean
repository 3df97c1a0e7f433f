import Jose.Builder

/-!
Where builds start. An issuer holds a valid configuration; replacing it concerns later builds only,
and a configuration that is refused leaves the issuer as it was.
-/

namespace Jose

structure Issuer where
  config : Config
  deriving DecidableEq, Repr

namespace Issuer

def make (config : Config) : Except BuildError Issuer := do
  config.validate
  return ⟨config⟩

def setConfig (config : Config) (_ : Issuer) : Build Issuer := do
  Build.ofExcept config.validate
  Build.report .replacedConfig
  return ⟨config⟩

def updateConfig (edit : Config → Config) (issuer : Issuer) : Build Issuer :=
  issuer.setConfig (edit issuer.config)

def claims (issuer : Issuer) : ClaimsBuilder := .make issuer.config

end Issuer

end Jose
