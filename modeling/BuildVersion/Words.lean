import BuildVersion.Fault
import BuildVersion.Files.Path

namespace BuildVersion

/-- What the libraries that the program stands on say of their failures, each text by what it is
about. Nothing is assumed of these texts, and three dots stand in for those that are not given. -/
structure Words where
  /-- Of a document that breaks the rules of TOML. -/
  document : String → String := fun _ => "..."
  /-- Of a template that cannot be filled in. -/
  template : String → TemplateFault → String := fun _ _ => "..."
  /-- Of a path at which no file can be read. -/
  file : Files.Path → FileFault → String := fun _ _ => "..."
  /-- Of the bytes of an archive that cannot be read. -/
  archive : List UInt8 → String := fun _ => "..."

end BuildVersion
