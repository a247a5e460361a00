/-!
Text files. A path is followed name by name from a folder; what it leads to may not be a file, or may
not be there at all. -/

namespace VrfClient

/-- Why no text can be read at a path. -/
inductive FileFault where
  | missing
  /-- The path leads to a folder. -/
  | folder
  /-- The path goes on behind a file. -/
  | notFolder
  | nameTooLong
  /-- A path cannot hold the character zero. -/
  | zeroCharacter
deriving DecidableEq

end VrfClient
