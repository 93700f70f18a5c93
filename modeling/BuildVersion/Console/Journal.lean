import BuildVersion.Console.Notice
import BuildVersion.Text.Split

namespace BuildVersion.Console

structure Journal where
  records : List Record := []
  deriving DecidableEq, Repr

namespace Journal

def push (j : Journal) (notice : Notice) : Journal :=
  ⟨j.records ++ [notice.record]⟩

def append (j : Journal) (notices : List Notice) : Journal :=
  ⟨j.records ++ notices.map Notice.record⟩

def messages (j : Journal) : List String :=
  j.records.map Record.message

/-- All messages, one below the other. -/
def text (j : Journal) : String :=
  "\n".intercalate j.messages

def has (j : Journal) (style : Style) : Bool :=
  j.records.any fun r => r.style = style

/-- The records whose message contains `pattern`. -/
def find (j : Journal) (pattern : String) : List Record :=
  j.records.filter fun r => Text.contains pattern r.message

end Journal

end BuildVersion.Console
