import SqlOperator.Credentials.Files
import SqlOperator.Upsert

/-!
# Reconciling certificates

An issued certificate becomes a secret with the certificate, its private key and
the certificate of the server's authority, and with the key in PKCS #8 form if
it can be converted.
-/

namespace SqlOperator.Certificate

/-- The parts of an issued certificate, as PEM texts. -/
structure Issued where
  cert : String
  privateKey : String
  serverCaCert : String
  deriving DecidableEq, Inhabited

/-- The parts, if all of them have been issued. -/
def issued? (c : Certificate) : Option Issued := do
  let status ← c.status
  some ⟨← status.cert, ← status.privateKey, ← status.serverCaCert⟩

/-- Which parts are missing. -/
def notReady (c : Certificate) : Obstacle :=
  let has (part : CertificateStatus → Option String) := (c.status.bind part).isSome
  .certificateNotReady (has (·.cert)) (has (·.privateKey)) (has (·.serverCaCert))

/-- The content of the secret. -/
def secretData (layout : FileLayout) (issued : Issued) (converted : Option Bytes) :
    SecretData :=
  let data : SecretData := .ofList
    [(layout.cert, .ofText issued.cert), (layout.privateKey, .ofText issued.privateKey),
      (layout.rootCert, .ofText issued.serverCaCert)]
  match converted with
  | some der => data.insert FileLayout.convertedKey der
  | none => data

/-- Shape the secret of a certificate. -/
def shapeSecret (c : Certificate) (data : SecretData) : Mutation .secret :=
  fun secret presence => do
    let claimed ← (secret.metadata.claim presence (Kind.ownerReference .certificate c)).mapError
      Failure.ofOwnership
    return { secret with metadata := claimed.inheritFrom c.metadata, data, stringData := none }

/-- The converted private key; that it cannot be converted is only logged. -/
def convertKey (privateKey : String) : Task (Option Bytes) :=
  match PrivateKey.toPkcs8 privateKey with
  | .ok der => return some der
  | .error error => do
    Task.note (.keyNotConverted error)
    return none

/-- Bring the secret of a certificate in line with it, once all of its parts have been
issued. -/
def reconcile (layout : FileLayout) (now : Timestamp) (key : ObjectKey) : Task Operation := do
  let c ← Task.require (← Task.ask (.get .certificate key)) (.sourceMissing .certificate)
  let name ← Task.require (c.metadata.annotation? Annotation.secretName) .noSecretName
  let issued ← Task.require c.issued? c.notReady
  let converted ← convertKey issued.privateKey
  let target : ObjectKey := ⟨key.namespace, name⟩
  Task.note (.reconcilingCertificate target)
  upsert now .secret target (c.shapeSecret (secretData layout issued converted))

end SqlOperator.Certificate
