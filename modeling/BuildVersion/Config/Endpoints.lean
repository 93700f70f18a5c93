import BuildVersion.Fetch.Client

namespace BuildVersion

structure Endpoints where
  releaseBase : String := "https://dl.k8s.io/release"
  ciBase : String := "https://dl.k8s.io/ci"
  /-- A template that knows the name of a branch. -/
  kubecrossUrl : String :=
    "https://raw.githubusercontent.com/kubernetes/kubernetes/\x7bbranch\x7d" ++
      "/build/build-image/cross/VERSION"
  timeout : Binary64 := Fetch.defaultTimeout
  deriving DecidableEq, Repr

end BuildVersion
