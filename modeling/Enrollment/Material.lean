import Enrollment.Argument
import Enrollment.Files.Tree

/-!
# Certificates and keys in files

What a configuration names by path: a file of certificates, of which there has to be at least
one, and a file with a private key.
-/

namespace Enrollment

/-- The failure of a file that does not hold what its path was configured for. -/
def invalidFile (path : Path) (reason : String) : Failure :=
  .ofCause .configuration (.invalidConfig path.text reason)

/-- Reads the certificates of a file. -/
def loadCertificates (t : FileTree) (path : Path) : Except Failure (List Certificate) :=
  match readFile t path with
  | .error (.file fault) => .error (invalidFile path fault.message)
  | .error fault => .error (.fault fault)
  | .ok bytes =>
    match (Reading.ofStream bytes).toExcept with
    | .ok [] => .error (invalidFile path "no certificates found")
    | .ok certificates => .ok certificates
    | .error (.client e) => .error (invalidFile path e.message)
    | .error failure => .error failure

/-- The failure of a file with a key that cannot be read. That a curve is not known is no error of
the configuration. -/
def keyFailure (path : Path) : PrivateKey.ReadFault → Failure
  | .malformed => invalidFile path cryptographicText
  | .encrypted => invalidFile path "Password was not given but private key is encrypted"
  | .unsupported => .fault (.cryptographic .unsupported)

/-- Reads the private key of a file. A password is for encrypted keys only, which are not
decrypted here. -/
def loadPrivateKey (t : FileTree) (path : Path) (password : Option Octets := none) :
    Except Failure PrivateKey :=
  match readFile t path with
  | .error fault => .error (invalidFile path fault.message)
  | .ok bytes =>
    match PrivateKey.ofPem bytes, password with
    | .error .encrypted, some _ => .error (invalidFile path cryptographicText)
    | .error fault, _ => .error (keyFailure path fault)
    | .ok _, some _ =>
      .error (invalidFile path "Password was given but private key is not encrypted.")
    | .ok k, none => .ok k

end Enrollment
