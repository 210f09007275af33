import SqlOperator.Credentials.Files
import SqlOperator.Credentials.Password
import SqlOperator.Net.Url

/-!
# Connections

All that a workload needs to connect to a database as a user, as a URL, as a URL
for JDBC drivers, and as environment variables: seven of them under a prefix of
the workload's choice and nine that database clients know.
-/

namespace SqlOperator

/-- The port that databases listen on. -/
def databasePort : UInt16 := 5432

/-- Connections are encrypted and the authority of the server is checked. -/
def sslMode : String := "verify-ca"

/-- A connection to a database as a user, and the prefix of the variables that tell of
it. -/
structure Connection where
  envPrefix : String
  host : String
  port : UInt16 := databasePort
  database : String
  username : String
  password : String
  paths : FilePaths
  deriving DecidableEq, Inhabited

namespace Connection

/-- The URL with user name and password in front of the host. -/
def url (c : Connection) : Except UrlError Url := do
  let url ← Url.ofServer c.host c.port
  let url ← url.setUsername c.username
  let url ← url.setPassword c.password
  return (url.setPath c.database).appendParameters
    [("sslcert", c.paths.cert), ("sslkey", c.paths.privateKey), ("sslmode", sslMode),
      ("sslrootcert", c.paths.rootCert)]

/-- The URL that JDBC drivers read, without their marker in front. User name and
password are parameters, and the key is the converted one. -/
def driverUrl (c : Connection) : Except UrlError Url := do
  let url ← Url.ofServer c.host c.port
  return (url.setPath c.database).appendParameters
    [("password", c.password), ("sslcert", c.paths.cert), ("sslkey", c.paths.convertedKey),
      ("sslmode", sslMode), ("sslrootcert", c.paths.rootCert), ("user", c.username)]

/-- The URL for JDBC drivers with their marker in front. -/
def jdbcUrl (c : Connection) : Except UrlError String :=
  c.driverUrl.map fun url => "jdbc:" ++ url.render

/-- The name of a variable under the prefix. -/
def variableName (envPrefix suffix : String) : String := envPrefix ++ "_" ++ suffix

/-- The variables for given URLs, in order. -/
def entries (c : Connection) (url jdbcUrl : String) : List (String × String) :=
  [(variableName c.envPrefix "PASSWORD", c.password),
    (variableName c.envPrefix "HOST", c.host),
    (variableName c.envPrefix "PORT", toString c.port.toNat),
    (variableName c.envPrefix "DATABASE", c.database),
    (variableName c.envPrefix "USERNAME", c.username),
    (variableName c.envPrefix "URL", url),
    (variableName c.envPrefix "JDBC_URL", jdbcUrl),
    ("PGSSLMODE", sslMode),
    ("PGSSLROOTCERT", c.paths.rootCert),
    ("PGSSLCERT", c.paths.cert),
    ("PGSSLKEY", c.paths.privateKey),
    ("PGHOSTADDR", c.host),
    ("PGPORT", toString c.port.toNat),
    (sharedPasswordKey, c.password),
    ("PGDATABASE", c.database),
    ("PGUSER", c.username)]

/-- The environment of a workload. -/
def environment (c : Connection) : Except UrlError TextMap := do
  let url ← c.url
  let jdbcUrl ← c.jdbcUrl
  return .ofList (c.entries url.render jdbcUrl)

end Connection

end SqlOperator
