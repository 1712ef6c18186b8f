import PamOlive.Connectors.Sync

/-
  Provisioning a user from the claims of an OpenID Connect login.

  A login is read first: its mappings, and whether its verified email gives it the default group.
  The identity is then created or updated and both reconciliations run, in one transaction.
-/

---- Claims And Configuration

namespace PamOlive.Connectors

open Foundations

structure OidcConfiguration where
  usernameClaim : Text := "preferred_username"
  emailClaim : Text := "email"
  displayNameClaim : Text := "name"
  groupsClaim : Text := "groups"
  allowedEmails : Json := .str []
  allowedEmailDomains : Json := .str []
  defaultUserGroup : Option Uuid := none

abbrev Claims := List (Text × Json)

/- `claims.get(name)`. -/
def claimOf (claims : Claims) (name : Text) : Json := (Json.lookup name claims).getD .null

/- `claims.get(name) or default`. -/
def claimOr (claims : Claims) (name : Text) (fallback : Json) : Json :=
  if (claimOf claims name).truthy then claimOf claims name
  else fallback

/- `str(value)`. -/
def strOf (library : TextLibrary) : Json → Text
| .str text => text
| value => library.str value

/- The values that `for` runs over. -/
def iterated : Json → Except Failure (List Json)
| .str text => .ok (text.map (fun point => .str [point]))
| .arr items => .ok items
| .obj fields => .ok (fields.map (fun field => .str field.1))
| _ => .error .typeError

def claimedGroups
    (configuration : OidcConfiguration) (claims : Claims) : Except Failure (List Json) :=
  match claimOr claims configuration.groupsClaim (.arr []) with
  | .str text => .ok [.str text]
  | value => iterated value

section

variable (library : TextLibrary)

def csvItems (value : Json) : Except Failure (List Text) :=
  if value.truthy = false then .ok []
  else
    match value with
    | .str text =>
      .ok ((text.map (fun point => if point = 10 then 44 else point)).splitOn 44)
    | other => do
      let items ← iterated other
      return items.map (strOf library)

def normalizedCsv (value : Json) : Except Failure (List Text) := do
  let items ← csvItems library value
  return (items.filter (fun item => !item.strip.isEmpty)).map (normalized library)

def emailAllowedByConfiguration (configuration : OidcConfiguration) : Json → Except Failure Bool
| .str text => do
    let email := normalized library text
    if email.contains 64 = false then return false
    else
      let domain := (email.reverse.takeWhile (fun point => point != 64)).reverse
      let emails ← normalizedCsv library configuration.allowedEmails
      let domains ← normalizedCsv library configuration.allowedEmailDomains
      return emails.contains email || (domains.map
        (fun item => item.dropWhile (fun point => point == 64))).contains domain
| _ => .error .typeError

end

---- Reading A Login

/- What one login finds outside the tables. -/
structure OidcCall where
  library : TextLibrary
  order : ReadOrder ManagedMembership
  source : IdentitySource
  configuration : Except Failure OidcConfiguration
  fresh : FreshKeys

/- What a login asks for. The default group is there only if the email of the login gives it. -/
structure OidcLogin where
  subject : Text
  username : Text
  email : Text
  displayName : Text
  matched : List DirectoryGroupMapping
  defaultGroup : Option Uuid

def matchedMappings (library : TextLibrary) (sourceId : Uuid) (groups : List Json)
    (directory : Directory) : List DirectoryGroupMapping :=
  let groupNames := groups.map (fun group => normalized library (strOf library group))
  (enabledMappings sourceId directory).filter
    (fun mapping => groupNames.contains (normalized library mapping.externalGroup))

def defaultGroupOf (configuration : OidcConfiguration) (directory : Directory) : Option Uuid :=
  configuration.defaultUserGroup.filter (fun groupId => directory.enabledGroups.contains groupId)

def fallbackGroup (library : TextLibrary) (configuration : OidcConfiguration) (claims : Claims)
    (email : Json) (directory : Directory) : Except Failure (Option Uuid) :=
  match claimOf claims "email_verified", defaultGroupOf configuration directory with
  | .bool true, some groupId => do
    let allowed ← emailAllowedByConfiguration library configuration email
    return if allowed then some groupId else none
  | _, _ => .ok none

def providerUnavailable : Failure := .permissionDenied "Le fournisseur OIDC n’est pas disponible."

section

variable (call : OidcCall)

/- `_provision_oidc_identity`, until it writes. -/
def readLogin (claims : Claims) (directory : Directory) : Except Failure OidcLogin := do
  require (call.source.kind = .oidc ∧ call.source.enabled = true) providerUnavailable
  let subject := claimOf claims "sub"
  require (subject.truthy = true) (.permissionDenied "Le jeton OIDC ne contient pas de sujet.")
  let configuration ← call.configuration
  let username := claimOf claims configuration.usernameClaim
  let email := claimOr claims configuration.emailClaim (.str [])
  let displayName := claimOr claims configuration.displayNameClaim (.str [])
  require (username.truthy = true) (.permissionDenied (Text.ofString
    "Le fournisseur OIDC n’a pas fourni d’identifiant utilisateur."))
  let groups ← claimedGroups configuration claims
  let defaultGroup ← fallbackGroup call.library configuration claims email directory
  return {
    subject := strOf call.library subject
    username := strOf call.library username
    email := strOf call.library email
    displayName := strOf call.library displayName
    matched := matchedMappings call.library call.source.id groups directory
    defaultGroup := defaultGroup }

---- Provisioning

def identityForLogin (login : OidcLogin) (directory : Directory) :
    Except Failure (ExternalIdentity × Directory) :=
  match identityOf call.source.id login.subject directory with
  | none => do
    require
      (login.matched.any DirectoryGroupMapping.autoCreateUsers = true ∨ login.defaultGroup ≠ none)
      (.permissionDenied (Text.ofString
        "Aucun groupe, e-mail ou domaine OIDC n’autorise la création de ce compte."))
    require (usernameTaken login.username directory = false) (.permissionDenied (Text.ofString
      "Un compte local porte déjà cet identifiant ; une liaison manuelle est requise."))
    require (login.email = [] ∨ emailTaken login.email directory = false)
      (.permissionDenied (Text.ofString
        "Un compte local utilise déjà cette adresse ; une liaison manuelle est requise."))
    createIdentity call.fresh call.source.id login.subject login.username login.email
      login.displayName directory
  | some identity => do
    require (identity.enabled = true ∧
      (directory.accounts.get identity.userId).any Account.isActive = true)
      (.permissionDenied "Ce compte externe est désactivé.")
    return (seenIdentity login.username login.email identity.enabled identity,
      saveIdentity identity login.username login.email identity.enabled directory)

/- `_provision_oidc_identity`: the user, and whether the login is authorized. -/
def provisionOidcIdentity (claims : Claims) (directory : Directory) :
    Except Failure ((UserId × Bool) × Directory) := do
  let login ← readLogin call claims directory
  let (identity, written) ← identityForLogin call login directory
  let (_, linked) ← reconcileExternalMemberships call.order identity login.matched written
  let after ← reconcileOidcDefaultMembership identity login.defaultGroup linked
  return ((identity.userId, !login.matched.isEmpty || login.defaultGroup.isSome), after)

/- `provision_oidc_identity`. The writes stay when the login is not authorized. -/
def provisionOidcUser (claims : Claims) (directory : Directory) :
    Except Failure UserId × Directory :=
  andThen (commit (provisionOidcIdentity call claims)) (fun result =>
      reading (fun _ => do
          require (result.2 = true) (.permissionDenied (Text.ofString
            "Aucun groupe OIDC n’autorise actuellement ce compte."))
          return result.1))
    directory

end

end PamOlive.Connectors
