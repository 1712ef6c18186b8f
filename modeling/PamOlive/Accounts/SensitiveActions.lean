import PamOlive.Vault.Leases

/-
  Recent MFA before sensitive actions.

  A view behind `require_recent_mfa` runs only for a user who verified a confirmed TOTP device
  within the window of the platform; others are sent to the setup or verification page.
-/

---- Requests

namespace PamOlive.Accounts

open Foundations Vault

/- What is read of a browser session: when MFA was verified, and until when codes are refreshed. -/
structure BrowserSession where
  mfaVerifiedAt : Option Int
  secretGrants : List (Uuid × Int)

section

variable (session : BrowserSession) (credentialId : Uuid)

/- `int(request.session.get(f"target_secret_grant:{pk}", 0))`. -/
def BrowserSession.secretGrant : Int :=
  (session.secretGrants.lookup credentialId).getD 0

def BrowserSession.setSecretGrant (expiresAt : Int) : BrowserSession :=
  { session with
    secretGrants := (credentialId, expiresAt) ::
      session.secretGrants.filter (fun grant => grant.1 != credentialId) }

end

structure WebRequest where
  user : UserId
  isServiceAccount : Bool
  fullPath : Text
  isHtmx : Bool
  clientIp : Option IpText

def mfaEnrolled (user : UserId) (db : Database) : Bool :=
  db.mfaDevices.any
    (fun device => decide (device.userId = user ∧ device.kind = .totp) && device.confirmed)

def userHasRecentMfa (now : Int) (request : WebRequest) (session : BrowserSession)
    (db : Database) : Bool :=
  !request.isServiceAccount && mfaEnrolled request.user db &&
    mfaTimestampIsRecent now session.mfaVerifiedAt (sensitiveWindow db)

/- Where a request is sent instead: to setup, back with status 403, or to verification. -/
inductive StepUp where
  | setupRequired
  | mfaRequired (detail : Text)
  | verify (warning nextPath actionLabel : Text)
deriving DecidableEq

def sensitiveMfaRequired (bypassMfa : Bool) (now : Int) (actionLabel : Text) (request : WebRequest)
    (session : BrowserSession) (db : Database) : Option StepUp :=
  if bypassMfa then none
  else if mfaEnrolled request.user db = false then some .setupRequired
  else if userHasRecentMfa now request session db then none
  else if request.isHtmx || (Text.ofString "/api/").isPrefixOf request.fullPath then
    some (.mfaRequired ("Une vérification MFA récente est requise avant " ++ actionLabel ++ "."))
  else
    some (.verify ("Confirmez votre MFA avant " ++ actionLabel ++
      ". La validation reste valable " ++ Text.decimal (sensitiveWindow db) ++ " minutes.")
      request.fullPath actionLabel)

end PamOlive.Accounts
