/-!
# Failures of the host

What the machine answers when it cannot do what it was asked, by number and in words.
-/

namespace PeerTelemetry

/-- **A failure** the operating system reports. -/
structure OsError where
  code : Nat
  text : String
  deriving DecidableEq, Repr

namespace OsError

/-- The wording of a failure. -/
def message (e : OsError) : String := s!"{e.text} (os error {e.code})"

def noSuchFile : OsError := ⟨2, "No such file or directory"⟩
def tryAgain : OsError := ⟨11, "Resource temporarily unavailable"⟩
def permissionDenied : OsError := ⟨13, "Permission denied"⟩
def notADirectory : OsError := ⟨20, "Not a directory"⟩
def isADirectory : OsError := ⟨21, "Is a directory"⟩
def invalidArgument : OsError := ⟨22, "Invalid argument"⟩
def nameTooLong : OsError := ⟨36, "File name too long"⟩
def notSupported : OsError := ⟨95, "Operation not supported"⟩
def addressInUse : OsError := ⟨98, "Address already in use"⟩
def addressNotAvailable : OsError := ⟨99, "Cannot assign requested address"⟩
def networkUnreachable : OsError := ⟨101, "Network is unreachable"⟩

/-- The failures that are known by name. -/
def known : List OsError :=
  [noSuchFile, tryAgain, permissionDenied, notADirectory, isADirectory, invalidArgument,
    nameTooLong, notSupported, addressInUse, addressNotAvailable, networkUnreachable]

/-- The failure with a number, in the words given only if it is not known by name. -/
def ofCode (code : Nat) (text : String) : OsError :=
  (known.find? (·.code = code)).getD ⟨code, text⟩

end OsError

/-- **Why the text of a file could not be had.** -/
inductive FileError
  | os (cause : OsError)
  /-- The path holds a character that no path may hold. -/
  | badPath
  | notUtf8
  deriving DecidableEq, Repr

/-- The wording of the failure. -/
def FileError.message : FileError → String
  | os cause => cause.message
  | badPath => "file name contained an unexpected NUL byte"
  | notUtf8 => "stream did not contain valid UTF-8"

end PeerTelemetry
