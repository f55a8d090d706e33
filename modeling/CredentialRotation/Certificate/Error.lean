/-!
# Faults of a certificate

What can be wrong with a client certificate, from the container it comes
in to the connection it is used for. Where the fault lies in the
container's or the certificate's own encoding there are no words for it.
-/

namespace CredentialRotation

/-- Why a client certificate cannot be used. -/
inductive CertificateError
  | undecodable
  | wrongPassword
  | missingKey
  | missingCertificate
  | invalidCertificate
  | unusable
deriving DecidableEq, Repr

/-- The words for a fault. -/
def CertificateError.message : CertificateError → Option String
  | .wrongPassword => some "PKCS#12 integrity check failed, wrong password?"
  | .missingKey => some "PKCS#12 container holds no private key"
  | .missingCertificate => some "PKCS#12 container holds no certificate"
  | _ => none

end CredentialRotation
