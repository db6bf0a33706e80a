/-!
# Entity types

A statement describes an entity in one or more roles.  An `EntityType` is the name under which the
metadata and the policy for a role are found.  Names that are not registered are as good as those
that are.
-/

namespace Federation

/-- A role an entity can have. -/
structure EntityType where
  /-- The name in statements. -/
  name : String
deriving DecidableEq

namespace EntityType

def openidRelyingParty : EntityType := ⟨"openid_relying_party"⟩

def openidProvider : EntityType := ⟨"openid_provider"⟩

def oauthAuthorizationServer : EntityType := ⟨"oauth_authorization_server"⟩

def oauthClient : EntityType := ⟨"oauth_client"⟩

def federationEntity : EntityType := ⟨"federation_entity"⟩

/-- The registered types. -/
def registered : List EntityType :=
  [openidRelyingParty, openidProvider, oauthAuthorizationServer, oauthClient, federationEntity]

/-- Whether a type is registered. -/
def isRegistered (type : EntityType) : Bool :=
  registered.contains type

instance : ToString EntityType := ⟨name⟩

end EntityType

end Federation
