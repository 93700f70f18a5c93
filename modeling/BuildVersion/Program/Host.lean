import BuildVersion.Config.Tool
import BuildVersion.Fetch.Client
import BuildVersion.Files.Tree
import BuildVersion.Words

namespace BuildVersion

structure Host where
  files : Files.Tree := {}
  environment : Environment := .empty
  transport : Fetch.Transport
  /-- The home directory of an account; the empty name is that of the user. -/
  home : String → Option String
  words : Words := {}

/-- A path with the home directory in place of a tilde and an account's name at its start. -/
def Host.expand {ε : Type} (host : Host) (path : Files.Path) : Outcome ε Files.Path :=
  match path.anchor, path.components with
  | .relative, first :: rest =>
    match first.toList with
    | '~' :: account =>
      match host.home (String.ofList account) with
      | none => .aborted .unknownAccount
      | some home =>
        let home := Files.Path.ofString home
        .ok ⟨home.anchor, home.components ++ rest⟩
    | _ => .ok path
  | _, _ => .ok path

end BuildVersion
