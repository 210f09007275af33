import SqlOperator.Proofs.Json.Records
import SqlOperator.Sql.Certificate
import SqlOperator.Sql.Instance
import SqlOperator.Sql.User

/-!
# Encodings of SQL resources

A resource that is encoded and decoded again has the same spec and the same status. Nothing else
that is put into its objects changes what is decoded, so the accessors of a resource see none of
it, and a schema may grow without notice.

## Implementation notes

The metadata of an object is decoded as its own encoding is, with nothing put into it: the
statements say what becomes of a resource in terms of what becomes of its metadata.

Every record has its `rules`, which say what may become of the fields that are read, and its
`fields`, which are the members that are written. `blind` follows the rules and `restores` the
fields.
-/

namespace SqlOperator

open Json (Blind Gains EachGains Restores blind_eq written restores_text nonempty?
  nonemptyMember_eq)

/-- A resource comes back if its metadata does and the rest of it comes back. -/
theorem ofJson?_written {α : Type} {others : List (String × Json)}
    {fields : List (String × Option Json)} {names : List String} {least : Nat} {metadata : Json}
    {build : Metadata → Json.Record → Option α} {put : Metadata → α}
    (hnames : fields.map Prod.fst = names) (hnodup : names.Nodup)
    (hothers : ∀ m ∈ others, m.1 ∉ names)
    (hmetadata : fields.lookup "metadata" = some (some metadata))
    (h : ∀ r : Json.Record, (∀ name, r.get? name = (fields.lookup name).join) →
      ∀ m, build m r = some (put m)) :
    (Json.Record.ofJson? names least (.obj (others ++ written fields))).bind
        (fun r => (r.required? "metadata" Metadata.ofJson?).bind fun m => build m r) =
      (Metadata.ofJson? metadata).map put := by
  refine Json.Record.read_written others least hnames hnodup hothers fun r hget => ?_
  have hfield : r.get? "metadata" = some metadata := by
    rw [hget, hmetadata]
    rfl
  rw [Json.Record.required?, hfield, Option.bind_some]
  cases Metadata.ofJson? metadata with
  | none => rfl
  | some m => exact h r hget m

/-! ### References -/

namespace ResourceRef

/-- What may become of the fields that are read. Any other member may be put between them. -/
def rules : Json.Rules := [("name", Eq), ("namespace", Eq), ("external", Eq)]

/-- The members that are written, in order, and those that are left out. -/
def fields (x : ResourceRef) : List (String × Option Json) :=
  [("name", nonempty? x.name), ("namespace", nonempty? x.namespace),
    ("external", x.external.map .str)]

theorem toJson_eq (x : ResourceRef) : x.toJson = .obj (written x.fields) := by
  simp [toJson, nonemptyMember_eq, written, fields]

theorem blind : Blind (Gains rules) ofJson? := by
  refine Json.Record.blind (fun r s h => ?_) 0
  rw [h.withDefault? (rfl : rules.lookup "name" = _) (blind_eq Json.asText?),
    h.withDefault? (rfl : rules.lookup "namespace" = _) (blind_eq Json.asText?),
    h.optional? (rfl : rules.lookup "external" = _) (blind_eq Json.asText?)]

theorem restores : Restores toJson ofJson? := by
  refine Json.Record.restores 0 toJson_eq (fun _ => rfl) (by decide) fun x r hget => ?_
  rw [Json.Record.text_restores (hget "name"), Json.Record.text_restores (hget "namespace"),
    Json.Record.optional?_restores (hget "external") restores_text]
  rfl

end ResourceRef

namespace SecretKeyRef

def rules : Json.Rules := [("name", Eq), ("key", Eq)]

def fields (x : SecretKeyRef) : List (String × Option Json) :=
  [("name", some (.str x.name)), ("key", some (.str x.key))]

theorem toJson_eq (x : SecretKeyRef) : x.toJson = .obj (written x.fields) := rfl

theorem blind : Blind (Gains rules) ofJson? := by
  refine Json.Record.blind (fun r s h => ?_) 0
  rw [h.withDefault? (rfl : rules.lookup "name" = _) (blind_eq Json.asText?),
    h.withDefault? (rfl : rules.lookup "key" = _) (blind_eq Json.asText?)]

theorem restores : Restores toJson ofJson? := by
  refine Json.Record.restores 0 toJson_eq (fun _ => rfl) (by decide) fun x r hget => ?_
  rw [Json.Record.withDefault?_restores (.inl (hget "name")) restores_text,
    Json.Record.withDefault?_restores (.inl (hget "key")) restores_text]
  rfl

end SecretKeyRef

/-! ### Certificates -/

namespace CertificateSpec

def rules : Json.Rules := [("commonName", Eq), ("instanceRef", Gains ResourceRef.rules)]

def fields (x : CertificateSpec) : List (String × Option Json) :=
  [("commonName", some (.str x.commonName)), ("instanceRef", some x.instanceRef.toJson)]

theorem toJson_eq (x : CertificateSpec) : x.toJson = .obj (written x.fields) := rfl

theorem blind : Blind (Gains rules) ofJson? := by
  refine Json.Record.blind (fun r s h => ?_) 2
  rw [h.required? (rfl : rules.lookup "commonName" = _) (blind_eq Json.asText?),
    h.required? (rfl : rules.lookup "instanceRef" = _) ResourceRef.blind]

theorem restores : Restores toJson ofJson? := by
  refine Json.Record.restores 2 toJson_eq (fun _ => rfl) (by decide) fun x r hget => ?_
  rw [Json.Record.required?_restores (hget "commonName") restores_text,
    Json.Record.required?_restores (hget "instanceRef") ResourceRef.restores]
  rfl

end CertificateSpec

namespace CertificateStatus

def rules : Json.Rules := [("cert", Eq), ("privateKey", Eq), ("serverCaCert", Eq)]

def fields (x : CertificateStatus) : List (String × Option Json) :=
  [("cert", x.cert.map .str), ("privateKey", x.privateKey.map .str),
    ("serverCaCert", x.serverCaCert.map .str)]

theorem toJson_eq (x : CertificateStatus) : x.toJson = .obj (written x.fields) := by
  simp [toJson, written, fields]

theorem blind : Blind (Gains rules) ofJson? := by
  refine Json.Record.blind (fun r s h => ?_) 0
  rw [h.optional? (rfl : rules.lookup "cert" = _) (blind_eq Json.asText?),
    h.optional? (rfl : rules.lookup "privateKey" = _) (blind_eq Json.asText?),
    h.optional? (rfl : rules.lookup "serverCaCert" = _) (blind_eq Json.asText?)]

theorem restores : Restores toJson ofJson? := by
  refine Json.Record.restores 0 toJson_eq (fun _ => rfl) (by decide) fun x r hget => ?_
  rw [Json.Record.optional?_restores (hget "cert") restores_text,
    Json.Record.optional?_restores (hget "privateKey") restores_text,
    Json.Record.optional?_restores (hget "serverCaCert") restores_text]
  rfl

end CertificateStatus

namespace Certificate

def rules : Json.Rules :=
  [("metadata", Eq), ("spec", Gains CertificateSpec.rules),
    ("status", Gains CertificateStatus.rules)]

def fields (x : Certificate) : List (String × Option Json) :=
  [("metadata", some x.metadata.toJson), ("spec", some x.spec.toJson),
    ("status", x.status.map CertificateStatus.toJson)]

theorem toJson_eq (x : Certificate) : x.toJson =
    .obj ([("apiVersion", .str "sql.cnrm.cloud.google.com/v1beta1"),
      ("kind", .str "SQLSSLCert")] ++ written x.fields) := by
  simp [toJson, written, fields, Json.member]

theorem blind : Blind (Gains rules) ofJson? := by
  refine Json.Record.blind (fun r s h => ?_) 3
  rw [h.required? (rfl : rules.lookup "metadata" = _) (blind_eq Metadata.ofJson?),
    h.required? (rfl : rules.lookup "spec" = _) CertificateSpec.blind,
    h.optional? (rfl : rules.lookup "status" = _) CertificateStatus.blind]

/-- A certificate comes back if its metadata does. -/
theorem ofJson?_toJson (x : Certificate) :
    ofJson? x.toJson = (Metadata.ofJson? x.metadata.toJson).map ({ x with metadata := · }) := by
  rw [toJson_eq]
  unfold ofJson?
  refine ofJson?_written rfl (by decide) (by simp) (rfl : x.fields.lookup "metadata" = _)
    fun r hget metadata => ?_
  rw [Json.Record.required?_restores (hget "spec") CertificateSpec.restores,
    Json.Record.optional?_restores (hget "status") CertificateStatus.restores]
  rfl

end Certificate

/-! ### Instances -/

namespace IpConfiguration

def rules : Json.Rules := [("privateNetworkRef", Gains ResourceRef.rules)]

theorem blind : Blind (Gains rules) ofJson? :=
  Json.Record.blind_single "privateNetworkRef" mk ResourceRef.blind

theorem restores : Restores toJson ofJson? :=
  Json.Record.restores_single "privateNetworkRef" mk (fun _ => rfl) ResourceRef.restores

end IpConfiguration

namespace InstanceSettings

def rules : Json.Rules := [("ipConfiguration", Gains IpConfiguration.rules)]

theorem blind : Blind (Gains rules) ofJson? :=
  Json.Record.blind_single "ipConfiguration" mk IpConfiguration.blind

theorem restores : Restores toJson ofJson? :=
  Json.Record.restores_single "ipConfiguration" mk (fun _ => rfl) IpConfiguration.restores

end InstanceSettings

namespace InstanceSpec

def rules : Json.Rules := [("resourceID", Eq), ("settings", Gains InstanceSettings.rules)]

def fields (x : InstanceSpec) : List (String × Option Json) :=
  [("resourceID", x.resourceId.map .str), ("settings", some x.settings.toJson)]

theorem toJson_eq (x : InstanceSpec) : x.toJson = .obj (written x.fields) := by
  simp [toJson, written, fields, Json.member]

theorem blind : Blind (Gains rules) ofJson? := by
  refine Json.Record.blind (fun r s h => ?_) 0
  rw [h.optional? (rfl : rules.lookup "resourceID" = _) (blind_eq Json.asText?),
    h.withDefault? (rfl : rules.lookup "settings" = _) InstanceSettings.blind]

theorem restores : Restores toJson ofJson? := by
  refine Json.Record.restores 0 toJson_eq (fun _ => rfl) (by decide) fun x r hget => ?_
  rw [Json.Record.optional?_restores (hget "resourceID") restores_text,
    Json.Record.withDefault?_restores (.inl (hget "settings")) InstanceSettings.restores]
  rfl

end InstanceSpec

namespace InstanceAddress

def rules : Json.Rules := [("ipAddress", Eq), ("type", Eq)]

def fields (x : InstanceAddress) : List (String × Option Json) :=
  [("ipAddress", x.address.map .str), ("type", x.type.map .str)]

theorem toJson_eq (x : InstanceAddress) : x.toJson = .obj (written x.fields) := by
  simp [toJson, written, fields]

theorem blind : Blind (Gains rules) ofJson? := by
  refine Json.Record.blind (fun r s h => ?_) 0
  rw [h.optional? (rfl : rules.lookup "ipAddress" = _) (blind_eq Json.asText?),
    h.optional? (rfl : rules.lookup "type" = _) (blind_eq Json.asText?)]

theorem restores : Restores toJson ofJson? := by
  refine Json.Record.restores 0 toJson_eq (fun _ => rfl) (by decide) fun x r hget => ?_
  rw [Json.Record.optional?_restores (hget "ipAddress") restores_text,
    Json.Record.optional?_restores (hget "type") restores_text]
  rfl

end InstanceAddress

namespace InstanceStatus

def rules : Json.Rules :=
  [("ipAddress", EachGains (Gains InstanceAddress.rules)), ("privateIpAddress", Eq)]

def fields (x : InstanceStatus) : List (String × Option Json) :=
  [("ipAddress", if x.addresses.isEmpty then none
      else some (.arr (x.addresses.map InstanceAddress.toJson))),
    ("privateIpAddress", x.privateAddress.map .str)]

theorem toJson_eq (x : InstanceStatus) : x.toJson = .obj (written x.fields) := by
  unfold toJson fields written
  split
  · simp [Json.member]
  · simp [Json.member]

theorem blind : Blind (Gains rules) ofJson? := by
  refine Json.Record.blind (fun r s h => ?_) 0
  rw [h.withDefault? (rfl : rules.lookup "ipAddress" = _) InstanceAddress.blind.each,
    h.optional? (rfl : rules.lookup "privateIpAddress" = _) (blind_eq Json.asText?)]

theorem restores : Restores toJson ofJson? := by
  refine Json.Record.restores 0 toJson_eq (fun _ => rfl) (by decide) fun x r hget => ?_
  have haddresses : r.withDefault? "ipAddress" [] (Json.asList? InstanceAddress.ofJson?) =
      some x.addresses := by
    refine Json.Record.withDefault?_restores ?_ InstanceAddress.restores.each
    have hfield : r.get? "ipAddress" = if x.addresses.isEmpty then none
        else some (.arr (x.addresses.map InstanceAddress.toJson)) := hget "ipAddress"
    rw [hfield]
    split
    · rename_i hempty
      exact .inr ⟨rfl, List.isEmpty_iff.mp hempty⟩
    · exact .inl rfl
  rw [haddresses, Json.Record.optional?_restores (hget "privateIpAddress") restores_text]
  rfl

end InstanceStatus

namespace Instance

def rules : Json.Rules :=
  [("metadata", Eq), ("spec", Gains InstanceSpec.rules), ("status", Gains InstanceStatus.rules)]

def fields (x : Instance) : List (String × Option Json) :=
  [("metadata", some x.metadata.toJson), ("spec", some x.spec.toJson),
    ("status", x.status.map InstanceStatus.toJson)]

theorem toJson_eq (x : Instance) : x.toJson =
    .obj ([("apiVersion", .str "sql.cnrm.cloud.google.com/v1beta1"),
      ("kind", .str "SQLInstance")] ++ written x.fields) := by
  simp [toJson, written, fields, Json.member]

theorem blind : Blind (Gains rules) ofJson? := by
  refine Json.Record.blind (fun r s h => ?_) 3
  rw [h.required? (rfl : rules.lookup "metadata" = _) (blind_eq Metadata.ofJson?),
    h.required? (rfl : rules.lookup "spec" = _) InstanceSpec.blind,
    h.optional? (rfl : rules.lookup "status" = _) InstanceStatus.blind]

/-- An instance comes back if its metadata does. -/
theorem ofJson?_toJson (x : Instance) :
    ofJson? x.toJson = (Metadata.ofJson? x.metadata.toJson).map ({ x with metadata := · }) := by
  rw [toJson_eq]
  unfold ofJson?
  refine ofJson?_written rfl (by decide) (by simp) (rfl : x.fields.lookup "metadata" = _)
    fun r hget metadata => ?_
  rw [Json.Record.required?_restores (hget "spec") InstanceSpec.restores,
    Json.Record.optional?_restores (hget "status") InstanceStatus.restores]
  rfl

end Instance

/-! ### Users -/

namespace PasswordSource

def rules : Json.Rules := [("secretKeyRef", Gains SecretKeyRef.rules)]

theorem blind : Blind (Gains rules) ofJson? :=
  Json.Record.blind_single "secretKeyRef" mk SecretKeyRef.blind

theorem restores : Restores toJson ofJson? :=
  Json.Record.restores_single "secretKeyRef" mk (fun _ => rfl) SecretKeyRef.restores

end PasswordSource

namespace UserPassword

def rules : Json.Rules := [("valueFrom", Gains PasswordSource.rules)]

theorem blind : Blind (Gains rules) ofJson? :=
  Json.Record.blind_single "valueFrom" mk PasswordSource.blind

theorem restores : Restores toJson ofJson? :=
  Json.Record.restores_single "valueFrom" mk (fun _ => rfl) PasswordSource.restores

end UserPassword

namespace UserSpec

def rules : Json.Rules :=
  [("instanceRef", Gains ResourceRef.rules), ("password", Gains UserPassword.rules),
    ("resourceID", Eq)]

def fields (x : UserSpec) : List (String × Option Json) :=
  [("instanceRef", some x.instanceRef.toJson), ("password", x.password.map UserPassword.toJson),
    ("resourceID", x.resourceId.map .str)]

theorem toJson_eq (x : UserSpec) : x.toJson = .obj (written x.fields) := by
  simp [toJson, written, fields, Json.member]

theorem blind : Blind (Gains rules) ofJson? := by
  refine Json.Record.blind (fun r s h => ?_) 1
  rw [h.required? (rfl : rules.lookup "instanceRef" = _) ResourceRef.blind,
    h.optional? (rfl : rules.lookup "password" = _) UserPassword.blind,
    h.optional? (rfl : rules.lookup "resourceID" = _) (blind_eq Json.asText?)]

theorem restores : Restores toJson ofJson? := by
  refine Json.Record.restores 1 toJson_eq (fun _ => rfl) (by decide) fun x r hget => ?_
  rw [Json.Record.required?_restores (hget "instanceRef") ResourceRef.restores,
    Json.Record.optional?_restores (hget "password") UserPassword.restores,
    Json.Record.optional?_restores (hget "resourceID") restores_text]
  rfl

end UserSpec

namespace User

def rules : Json.Rules := [("metadata", Eq), ("spec", Gains UserSpec.rules)]

def fields (x : User) : List (String × Option Json) :=
  [("metadata", some x.metadata.toJson), ("spec", some x.spec.toJson)]

theorem toJson_eq (x : User) : x.toJson =
    .obj ([("apiVersion", .str "sql.cnrm.cloud.google.com/v1beta1"),
      ("kind", .str "SQLUser")] ++ written x.fields) := rfl

theorem blind : Blind (Gains rules) ofJson? := by
  refine Json.Record.blind (fun r s h => ?_) 2
  rw [h.required? (rfl : rules.lookup "metadata" = _) (blind_eq Metadata.ofJson?),
    h.required? (rfl : rules.lookup "spec" = _) UserSpec.blind]

/-- A user comes back if its metadata does. -/
theorem ofJson?_toJson (x : User) :
    ofJson? x.toJson = (Metadata.ofJson? x.metadata.toJson).map ({ x with metadata := · }) := by
  rw [toJson_eq]
  unfold ofJson?
  refine ofJson?_written rfl (by decide) (by simp) (rfl : x.fields.lookup "metadata" = _)
    fun r hget metadata => ?_
  rw [Json.Record.required?_restores (hget "spec") UserSpec.restores]
  rfl

end User

/-! ### Resources -/

/-- Resources come back from their encodings with the same spec and status, whatever is put into
the encodings, and their accessors say the same. -/
theorem resources_come_back :
    (∀ x : Certificate,
      Certificate.ofJson? x.toJson =
        (Metadata.ofJson? x.metadata.toJson).map ({ x with metadata := · }) ∧
      ∀ j, Gains Certificate.rules x.toJson j →
        Certificate.ofJson? j = Certificate.ofJson? x.toJson) ∧
    (∀ x : Instance,
      Instance.ofJson? x.toJson =
        (Metadata.ofJson? x.metadata.toJson).map ({ x with metadata := · }) ∧
      ∀ j, Gains Instance.rules x.toJson j →
        Instance.ofJson? j = Instance.ofJson? x.toJson ∧
        ∀ y ∈ Instance.ofJson? j, y.privateNetworkRef? = x.privateNetworkRef? ∧
          y.privateAddress? = x.privateAddress?) ∧
    (∀ x : User,
      User.ofJson? x.toJson =
        (Metadata.ofJson? x.metadata.toJson).map ({ x with metadata := · }) ∧
      ∀ j, Gains User.rules x.toJson j →
        User.ofJson? j = User.ofJson? x.toJson ∧
        ∀ y ∈ User.ofJson? j, y.passwordSecretRef? = x.passwordSecretRef?) := by
  refine ⟨fun x => ?_, fun x => ?_, fun x => ?_⟩
  · exact ⟨x.ofJson?_toJson, fun j hgains => Certificate.blind.read hgains⟩
  · refine ⟨x.ofJson?_toJson, fun j hgains => ?_⟩
    have hread := Instance.blind.read hgains
    refine ⟨hread, fun y hy => ?_⟩
    rw [hread, x.ofJson?_toJson] at hy
    obtain ⟨metadata, -, rfl⟩ := Option.map_eq_some_iff.mp hy
    exact ⟨rfl, rfl⟩
  · refine ⟨x.ofJson?_toJson, fun j hgains => ?_⟩
    have hread := User.blind.read hgains
    refine ⟨hread, fun y hy => ?_⟩
    rw [hread, x.ofJson?_toJson] at hy
    obtain ⟨metadata, -, rfl⟩ := Option.map_eq_some_iff.mp hy
    rfl

namespace Sample

/-- An instance with a private address and an address of an empty kind. -/
def networked : Instance where
  metadata := { name := some "db", «namespace» := some "prod", labels := some .empty }
  spec :=
    { settings := { ipConfiguration := some { privateNetworkRef := some { name := "net" } } } }
  status := some { addresses := [{ address := some "10.0.0.1", type := some "" }, {}] }

/-- Its encoding after the schema has grown. -/
def grown : Json :=
  .obj [("apiVersion", .str "sql.cnrm.cloud.google.com/v1beta1"), ("kind", .str "SQLInstance"),
    ("kind", .null), ("metadata", networked.metadata.toJson),
    ("spec", .obj [("databaseVersion", .str "POSTGRES_16"),
      ("settings", .obj [
        ("ipConfiguration", .obj [
          ("privateNetworkRef", .obj [("name", .str "net"), ("kind", .invalid)]),
          ("requireSsl", .bool true)]),
        ("tier", .arr [.int 1])])]),
    ("status", .obj [
      ("ipAddress", .arr [
        .obj [("ipAddress", .str "10.0.0.1"), ("timeToRetire", .null), ("type", .str "")],
        .obj [("name", .str "spare")]]),
      ("conditions", .arr [])]),
    ("", .null)]

theorem gains_grown : Gains Instance.rules networked.toJson grown := by
  have href : Gains ResourceRef.rules (.obj [("name", .str "net")])
      (.obj [("name", .str "net"), ("kind", .invalid)]) :=
    .obj (.known rfl rfl (.new rfl _ .nil))
  have hsettings : Gains InstanceSettings.rules
      (.obj [("ipConfiguration", .obj [("privateNetworkRef", .obj [("name", .str "net")])])])
      (.obj [("ipConfiguration", .obj [
          ("privateNetworkRef", .obj [("name", .str "net"), ("kind", .invalid)]),
          ("requireSsl", .bool true)]),
        ("tier", .arr [.int 1])]) :=
    .obj (.known rfl (.obj (.known rfl href (.new rfl _ .nil))) (.new rfl _ .nil))
  have haddresses : EachGains (Gains InstanceAddress.rules)
      (.arr [.obj [("ipAddress", .str "10.0.0.1"), ("type", .str "")], .obj []])
      (.arr [.obj [("ipAddress", .str "10.0.0.1"), ("timeToRetire", .null), ("type", .str "")],
        .obj [("name", .str "spare")]]) :=
    .arr (.cons (.obj (.known rfl rfl (.new rfl _ (.known rfl rfl .nil))))
      (.cons (.obj (.new rfl _ .nil)) .nil))
  exact .obj (.unknown rfl _ (.unknown rfl _ (.new rfl _ (.known rfl rfl
    (.known rfl (.obj (.new rfl _ (.known rfl hsettings .nil)))
      (.known rfl (.obj (.known rfl haddresses (.new rfl _ .nil))) (.new rfl _ .nil)))))))

end Sample

theorem resources_come_back_of_grown :
    Gains Instance.rules Sample.networked.toJson Sample.grown ∧
      Instance.ofJson? Sample.grown = some Sample.networked := by
  obtain ⟨-, hinstances, -⟩ := resources_come_back
  obtain ⟨hback, hgains⟩ := hinstances Sample.networked
  have hmetadata : Metadata.ofJson? Sample.networked.metadata.toJson =
      some Sample.networked.metadata := by
    decide
  refine ⟨Sample.gains_grown, ?_⟩
  rw [(hgains Sample.grown Sample.gains_grown).1, hback, hmetadata]
  rfl

end SqlOperator
