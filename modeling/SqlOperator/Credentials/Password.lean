import SqlOperator.Cluster.Secret

/-!
# Passwords

A new password is 32 random bytes in URL-safe base64 without padding, hence 43
characters that no part of a URL has to escape. A password that a secret holds
already is kept.
-/

namespace SqlOperator

/-- The random bytes that a password is made of. -/
structure PasswordSeed where
  bytes : Bytes
  length_eq : bytes.length = 32
  deriving DecidableEq

/-- The password of random bytes. -/
def PasswordSeed.password (seed : PasswordSeed) : String :=
  String.ofList (Text.Base64.encode .urlSafe false seed.bytes)

/-- The name of the entry for the password that is the same in all secrets. -/
def sharedPasswordKey : String := "PGPASSWORD"

/-- The password that a secret has handed out: of its own entry and the shared
one the first that is a text, unless that text is empty. -/
def Secret.password? (s : Secret) (passwordKey : String) : Option String :=
  (s.data.bind fun data =>
    [passwordKey, sharedPasswordKey].findSome? data.text?).filter fun text => !text.isEmpty

end SqlOperator
