import Jose.Build
import Jose.Key.Files

/-!
Where key material comes from: anything that answers a location with octets. Memory and files are
the two kinds at hand; a source may also fail or crash in its own ways.
-/

namespace Jose

structure KeySource where
  /-- The files that a location is looked for in; each is reported before it is opened. -/
  paths : String → List String
  answer : String → Outcome Bytes

namespace KeySource

def read (source : KeySource) (location : String) : Build Bytes :=
  ⟨.read location :: (source.paths location).map fun path => .event (.readingFile location path),
    source.answer location⟩

def ofMemory (entries : Members Bytes) : KeySource where
  paths := fun _ => []
  answer location :=
    match entries.get? location with
    | some bytes => .done bytes
    | none => .failed (.keyLoad location "no key stored at this location")

def pathOf (base : Option String) (location : String) : String :=
  match base with
  | some folder => Files.join folder location
  | none => location

def ofFiles (base : Option String) (files : Files) : KeySource where
  paths location := [pathOf base location]
  answer location :=
    match files.read (pathOf base location) with
    | .ok bytes => .done bytes
    | .error problem => .failed (.keyLoad location problem.message)

def overridden (answers : Members (Outcome Bytes)) (source : KeySource) : KeySource where
  paths location := if answers.has location then [] else source.paths location
  answer location := (answers.get? location).getD (source.answer location)

end KeySource

end Jose
