import SqlOperator.Keys.Pem
import SqlOperator.Keys.Rsa

/-!
# Conversion of private keys

An issued private key comes as PEM text. Drivers that cannot read PEM take the
same key in PKCS #8 form as plain bytes.
-/

namespace SqlOperator

/-- Why a text holds no key that can be converted. -/
inductive ConversionError where
  | noPrivateKey
  | invalidPkcs1
  | invalidPkcs8
  deriving DecidableEq, Inhabited

/-- What the log says of a key that stays unconverted. -/
def ConversionError.message : ConversionError → String
  | .noPrivateKey => "no private key PEM block found"
  | .invalidPkcs1 => "invalid PKCS#1 RSA key"
  | .invalidPkcs8 => "invalid PKCS#8 key"

namespace PrivateKey

/-- The label of keys in PKCS #1 form. -/
def pkcs1Label : String := "RSA PRIVATE KEY"

/-- The label of keys in PKCS #8 form. -/
def pkcs8Label : String := "PRIVATE KEY"

/-- The RSA key in a bundle; a PKCS #1 block goes before a PKCS #8 block. -/
def read (bundle : List Char) : Except ConversionError RsaKey :=
  match Pem.block? pkcs1Label bundle with
  | some block =>
    match (Pem.decode? pkcs1Label block).bind RsaKey.ofPkcs1? with
    | some key => .ok key
    | none => .error .invalidPkcs1
  | none =>
    match Pem.block? pkcs8Label bundle with
    | some block =>
      match (Pem.decode? pkcs8Label block).bind RsaKey.ofPkcs8? with
      | some key => .ok key
      | none => .error .invalidPkcs8
    | none => .error .noPrivateKey

/-- The PKCS #8 bytes of the RSA key in a PEM bundle. -/
def toPkcs8 (pem : String) : Except ConversionError Bytes :=
  match read pem.toList with
  | .ok key =>
    match key.toPkcs8? with
    | some der => .ok der
    | none => .error .invalidPkcs8
  | .error e => .error e

end PrivateKey

end SqlOperator
