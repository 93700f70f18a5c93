import BuildVersion.Text.Split

namespace BuildVersion.Version.Marker

def stable : String := "stable.txt"

def latest : String := "latest.txt"

def releaseMark : List Char := "release-".toList

def fileFor (branch trunk : String) : String :=
  if branch = trunk then latest
  else s!"latest-{String.ofList (Text.removeLeading releaseMark branch.toList)}.txt"

/-- A base address and a file name with exactly one slash between them. -/
def url (base file : String) : String :=
  String.ofList ((base.toList.reverse.dropWhile (· = '/')).reverse ++
    '/' :: file.toList.dropWhile (· = '/'))

end BuildVersion.Version.Marker
