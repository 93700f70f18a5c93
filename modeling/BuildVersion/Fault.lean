namespace BuildVersion

/-- What a template can ask for that its arguments do not offer, and how its text can be broken. -/
inductive TemplateFault
  | missingName (name : String)
  | missingPosition
  /-- A table is asked for an entry by a number. -/
  | missingNumber
  | malformed
  | notIndexable
  | unsupported
  | noAttribute
  | tooWide
  /-- A number is taken for a character and counts none. -/
  | noCharacter
  deriving DecidableEq, Repr

/-- What the file system answers in place of a file. -/
inductive FileFault
  | notFound
  | isDirectory
  | notDirectory
  | denied
  | nameTooLong
  | linkLoop
  | zeroCharacter
  deriving DecidableEq, Repr

inductive Fault
  /-- A numeral is longer than `Numeral.maxDigits`. -/
  | overlongNumeral
  | numberTooLarge
  | template (cause : TemplateFault)
  | file (cause : FileFault)
  | unmatchedTag
  /-- What a tag asks to be done is no value that can be read. -/
  | malformedAction
  /-- A colour is given by components that are no numbers. -/
  | malformedColour
  /-- A link inside an archive leads to no entry. -/
  | danglingLink
  /-- Links inside an archive lead to each other, or there are too many of them on the way. -/
  | linkCycle
  /-- A size that an archive declares is no number, or it is negative. -/
  | malformedSize
  /-- More bytes are asked for at once than any memory holds. -/
  | outOfMemory
  /-- A table inside an archive stops early. -/
  | brokenTable
  /-- A document nests deeper than its reader descends. -/
  | tooDeep
  /-- A home directory is asked for of an unknown account. -/
  | unknownAccount
  /-- A transport fails in a way that is none of its own. -/
  | transport
  /-- An operation meets a value of a kind that it does not take. -/
  | wrongKind
  /-- A version is looked for in a value that is no text. -/
  | noText
  deriving DecidableEq, Repr

end BuildVersion
