import SqlOperator.Sql.ResourceRef

/-!
# Client certificates

A certificate resource asks for a client certificate of an instance. Its status
holds the certificate, the private key and the certificate of the server's
authority, each as PEM text, once they have been issued.
-/

namespace SqlOperator

/-- What is asked for: a certificate of this name for this instance. -/
structure CertificateSpec where
  commonName : String
  instanceRef : ResourceRef
  deriving DecidableEq, Inhabited

namespace CertificateSpec

/-- Both fields have to be there. -/
def ofJson? (value : Json) : Option CertificateSpec := do
  let r ← Json.Record.ofJson? ["commonName", "instanceRef"] 2 value
  some {
    commonName := ← r.required? "commonName" Json.asText?
    instanceRef := ← r.required? "instanceRef" ResourceRef.ofJson? }

def toJson (s : CertificateSpec) : Json :=
  .obj [("commonName", .str s.commonName), ("instanceRef", s.instanceRef.toJson)]

end CertificateSpec

/-- What has been issued so far, as PEM texts. -/
structure CertificateStatus where
  cert : Option String := none
  privateKey : Option String := none
  serverCaCert : Option String := none
  deriving DecidableEq, Inhabited

namespace CertificateStatus

/-- Each part may be absent or null. -/
def ofJson? (value : Json) : Option CertificateStatus := do
  let r ← Json.Record.ofJson? ["cert", "privateKey", "serverCaCert"] 0 value
  some {
    cert := ← r.optional? "cert" Json.asText?
    privateKey := ← r.optional? "privateKey" Json.asText?
    serverCaCert := ← r.optional? "serverCaCert" Json.asText? }

def toJson (s : CertificateStatus) : Json :=
  .obj <|
    Json.member "cert" (s.cert.map .str) ++
    Json.member "privateKey" (s.privateKey.map .str) ++
    Json.member "serverCaCert" (s.serverCaCert.map .str)

end CertificateStatus

/-- A certificate resource. -/
structure Certificate where
  metadata : Metadata
  spec : CertificateSpec
  status : Option CertificateStatus := none
  deriving DecidableEq, Inhabited

namespace Certificate

/-- Only the status may be absent. The kind that an object says it has is not looked at.
-/
def ofJson? (value : Json) : Option Certificate := do
  let r ← Json.Record.ofJson? ["metadata", "spec", "status"] 3 value
  some {
    metadata := ← r.required? "metadata" Metadata.ofJson?
    spec := ← r.required? "spec" CertificateSpec.ofJson?
    status := ← r.optional? "status" CertificateStatus.ofJson? }

/-- The kind is written, although it is not read. -/
def toJson (c : Certificate) : Json :=
  .obj <|
    [("apiVersion", .str "sql.cnrm.cloud.google.com/v1beta1"), ("kind", .str "SQLSSLCert"),
      ("metadata", c.metadata.toJson), ("spec", c.spec.toJson)] ++
    Json.member "status" (c.status.map CertificateStatus.toJson)

end Certificate

end SqlOperator
