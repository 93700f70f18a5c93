import BuildVersion.Config.Endpoints
import BuildVersion.Config.Tool

namespace BuildVersion

structure Config where
  tool : Tool := {}
  endpoints : Endpoints := {}
  trunkBranch : String := "master"
  deriving DecidableEq, Repr

def Config.withEnvironment (config : Config) (env : Environment) : Config :=
  { config with tool := config.tool.withEnvironment env }

end BuildVersion
