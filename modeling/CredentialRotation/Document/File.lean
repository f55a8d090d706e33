import CredentialRotation.Failure
import CredentialRotation.Text.Utf8

/-!
# Files

A configuration is read from a file that has to be there and to hold
text.
-/

namespace CredentialRotation

/-- The octets of a file, `none` if there is no such file. -/
abbrev File := Option Bytes

/-- The text of a file. -/
def File.text (file : File) : Except IoKind String :=
  match file with
  | none => .error .notFound
  | some bs =>
    match bs.text? with
    | none => .error .invalidData
    | some s => .ok s

end CredentialRotation
