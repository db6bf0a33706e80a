import Federation.Address.Internet
import Federation.Address.Percent
import Federation.Address.Domain

/-!
# Addresses with a host

An `Address` is an absolute URI that names a host, in the normal form in which two spellings of one
address become the same text.

**Schemes.**  Some schemes are special (`Address.Scheme.isSpecial`): their hosts are domain names or
numeric addresses, a backslash in them is a slash, they have a default port that is left out, and
their path is never empty.  The `file` scheme has no user and no port.  In any other scheme the host
is kept as written.

**Text.**  `Address.text` writes the normal form.
-/

namespace Federation

/-- A host. -/
inductive Host where
  /-- A name in ASCII. -/
  | name (text : String)
  /-- A numeric address of four bytes. -/
  | dots (address : Nat)
  /-- A numeric address of eight groups. -/
  | colons (groups : List Nat)
deriving DecidableEq

/-- The host as it stands in an address. -/
def Host.text : Host → String
  | .name text => text
  | .dots address => Internet.dotText address
  | .colons groups => "[" ++ Internet.colonText groups ++ "]"

/-- An absolute URI with a host. -/
structure Address where
  /-- The scheme in lower case. -/
  scheme : String
  /-- The user name, percent-encoded. -/
  username : String
  /-- The password, percent-encoded. -/
  password : String
  /-- The host. -/
  host : Host
  /-- The port, unless it is the scheme's own. -/
  port : Option Nat
  /-- The path from its first slash on, percent-encoded and without dot segments. -/
  path : String
  /-- The query and the fragment with their marks, as written. -/
  suffix : String
deriving DecidableEq

namespace Address

/-- The port a scheme implies. -/
def defaultPort? (scheme : String) : Option Nat :=
  if scheme = "http" ∨ scheme = "ws" then some 80
  else if scheme = "https" ∨ scheme = "wss" then some 443
  else if scheme = "ftp" then some 21
  else none

/-- The families of schemes that are read by different rules. -/
inductive Family where
  /-- Schemes of the web. -/
  | special
  /-- The scheme of local files. -/
  | file
  /-- Any other scheme. -/
  | other
deriving DecidableEq

/-- The family of a scheme. -/
def Family.of (scheme : String) : Family :=
  if (defaultPort? scheme).isSome then .special
  else if scheme = "file" then .file
  else .other

/-- Whether a backslash is a slash, and hosts are names. -/
def Family.isSpecial : Family → Bool
  | .other => false
  | _ => true

/-- The user name and password with their marks. -/
def userinfoText (a : Address) : String :=
  if a.username.isEmpty && a.password.isEmpty then ""
  else if a.password.isEmpty then a.username ++ "@"
  else a.username ++ ":" ++ a.password ++ "@"

/-- The port with its mark. -/
def portText (a : Address) : String :=
  match a.port with
  | none => ""
  | some port => ":" ++ toString port

/-- Everything before the query and the fragment. -/
def text (a : Address) : String :=
  a.scheme ++ "://" ++ a.userinfoText ++ a.host.text ++ a.portText ++ a.path

/-- Why a text is no absolute URI. -/
inductive Defect where
  | noScheme
  | emptyHost
  | invalidPort
  | invalidDots
  | invalidColons
  | invalidName
  | invalidNameCharacter
deriving DecidableEq

/-- The defect in words. -/
def Defect.message : Defect → String
  | .noScheme => "relative URL without a base"
  | .emptyHost => "empty host"
  | .invalidPort => "invalid port number"
  | .invalidDots => "invalid IPv4 address"
  | .invalidColons => "invalid IPv6 address"
  | .invalidName => "invalid international domain name"
  | .invalidNameCharacter => "invalid domain character"

end Address

end Federation
