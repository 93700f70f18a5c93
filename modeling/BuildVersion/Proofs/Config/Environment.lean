import BuildVersion.Config.Load
import BuildVersion.Proofs.Outcome

namespace BuildVersion

theorem Environment.getD_congr {env env' : Environment} {name : String} (h : env name = env' name)
    (default : String) : env.getD name default = env'.getD name default := by
  rw [Environment.getD, Environment.getD, h]

namespace Tool

variable {tool tool' : Tool}

theorem httpsUrl_congr (horg : tool.org = tool'.org) (hrepo : tool.repo = tool'.repo) :
    tool.httpsUrl = tool'.httpsUrl := by
  unfold httpsUrl
  rw [horg, hrepo]

theorem sshUrl_congr (horg : tool.org = tool'.org) (hrepo : tool.repo = tool'.repo) :
    tool.sshUrl = tool'.sshUrl := by
  unfold sshUrl
  rw [horg, hrepo]

end Tool

namespace Config

theorem load_eq_map (files : Files.Tree) (path : Files.Path) (env : Environment)
    (words : Words) :
    load files path env words =
      (load files path .empty words).map fun config => config.withEnvironment env := by
  simp only [load, Outcome.map_bind, Outcome.map_map]
  rfl

end Config

end BuildVersion
