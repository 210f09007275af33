import SqlOperator.Text.Split

/-!
# Certificate files

A certificate secret is mounted as files into workloads. Two layouts name the
files differently; the converted key has one name in both.
-/

namespace SqlOperator

/-- The directory where workloads mount the certificate secret unless told otherwise. -/
def defaultMountPath : String := "/var/run/secrets/nais.io/sqlcertificate"

/-- The names of the files of a certificate secret. -/
inductive FileLayout where
  | current
  | legacy
  deriving DecidableEq, Inhabited, Repr

namespace FileLayout

/-- The layout for a switch that asks for the older names. -/
def ofFlag (legacy : Bool) : FileLayout := if legacy then .legacy else .current

/-- The client certificate, which both layouts name alike. -/
def cert (_ : FileLayout) : String := "cert.pem"

/-- The private key as it was issued. -/
def privateKey : FileLayout → String
  | .current => "key.pem"
  | .legacy => "private-key.pem"

/-- The certificate of the server's authority. -/
def rootCert : FileLayout → String
  | .current => "root-cert.pem"
  | .legacy => "server-ca-cert.pem"

/-- The private key in PKCS #8 form. -/
def convertedKey : String := "key.pk8"

end FileLayout

/-- The paths of the mounted files. -/
structure FilePaths where
  cert : String
  privateKey : String
  convertedKey : String
  rootCert : String
  deriving DecidableEq, Inhabited

namespace FilePaths

/-- A text without the slashes at its end. -/
def trimSlashes (text : String) : String :=
  String.ofList (text.toList.reverse.dropWhile (· = '/')).reverse

/-- A file in a directory, with one slash between them. -/
def inDirectory (directory file : String) : String := trimSlashes directory ++ "/" ++ file

/-- The paths under a mount path. -/
def ofMount (mountPath : String) (layout : FileLayout) : FilePaths where
  cert := inDirectory mountPath layout.cert
  privateKey := inDirectory mountPath layout.privateKey
  convertedKey := inDirectory mountPath FileLayout.convertedKey
  rootCert := inDirectory mountPath layout.rootCert

end FilePaths

end SqlOperator
