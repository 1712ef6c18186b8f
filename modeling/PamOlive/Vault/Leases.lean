import PamOlive.Common.Justification
import PamOlive.Policies.Services
import Mathlib.Data.List.Sort

/-
  Authorizing policies and secret leases.

  `authorizingPolicyFor` returns the first policy whose credential scope, approval and MFA
  conditions hold. A lease is issued outside any transaction, and consumed in one, which is rolled
  back if decryption fails.
-/

---- Approvals And MFA

namespace PamOlive.Vault

open Foundations Policies

/- Descending, with missing values first. -/
def laterDecision : Option Int → Option Int → Bool
| none, _ => true
| some _, none => false
| some first, some second => decide (second ≤ first)

/- The order `-decided_at, -updated_at`. -/
def decidedBefore (first second : AccessRequest) : Bool :=
  if first.decidedAt = second.decidedAt then decide (second.updatedAt ≤ first.updatedAt)
  else laterDecision first.decidedAt second.decidedAt

def approvedUntil (request : AccessRequest) : Int :=
  request.decidedAt.getD request.updatedAt + minutes request.requestedDurationMinutes

def activeApproval (now : Int) (user : UserId) (targetId policyId : Uuid)
    (db : Database) : Option AccessRequest :=
  ((db.accessRequests.filter (fun request =>
      decide (request.requesterId = user ∧ request.targetId = targetId ∧
        request.policyId = policyId ∧ request.status = .approved))).insertionSort
    (fun first second => decidedBefore first second = true)).find?
    (fun request => decide (approvedUntil request > now))

/- The window of `PlatformSecurityPolicy`, 5 by default. -/
def sensitiveWindow (db : Database) : Nat := db.sensitiveWindowMinutes.getD 5

def mfaTimestampIsRecent (now : Int) (verifiedAt : Option Int) (windowMinutes : Nat) : Bool :=
  match verifiedAt with
  | none => false
  | some verified => decide (now / 1000000 - verified ≤ windowMinutes * 60)

def hasConfirmedDevice (user : UserId) (db : Database) : Bool :=
  db.mfaDevices.any (fun device => decide (device.userId = user) && device.confirmed)

def candidatePolicies (site : Site) (now : Int) (user : UserId) (targetId : Uuid) (action : Action)
    (sourceIp : Option IpText) (db : Database) : List AccessPolicy :=
  (policiesAllowing site user action sourceIp now db).filter
    (fun policy => coversTarget policy targetId)

def mfaSatisfied (now : Int) (user : UserId) (mfaVerifiedAt : Option Int) (policy : AccessPolicy)
    (db : Database) : Bool :=
  !policy.requiresMfa ||
    (hasConfirmedDevice user db && mfaTimestampIsRecent now mfaVerifiedAt (sensitiveWindow db))

/- The conditions besides MFA. -/
def scopeSatisfied (now : Int) (user : UserId) (credential : Credential) (target : Target)
    (policy : AccessPolicy) (db : Database) : Bool :=
  policyAllowsCredential policy credential target &&
    (!policy.requiresApproval || (activeApproval now user target.id policy.id db).isSome)

def noAuthorization : Failure :=
  .permissionDenied "Aucune autorisation active ne permet cette opération."

def authorizingPolicyFor
    (site : Site) (now : Int) (user : UserId) (credential : Credential) (target : Target)
    (action : Action) (sourceIp : Option IpText) (mfaVerifiedAt : Option Int) (db : Database) :
    Except Failure (AccessPolicy × Option AccessRequest) := do
  let policy ← found ((candidatePolicies site now user target.id action sourceIp db).find?
    (fun policy =>
      scopeSatisfied now user credential target policy db &&
      mfaSatisfied now user mfaVerifiedAt policy db))
    noAuthorization
  return (policy, activeApproval now user target.id policy.id db)

def activeKeyId : Text := "keyring-v1"

/- `VaultCipher().decrypt(token, key_id=...)`. -/
def decrypt (site : Site) (token keyId : Text) : Except Failure Text := do
  require (keyId = [] ∨ keyId = activeKeyId) .vaultError
  match site.services.keyring.decrypt token with
  | .ok secret => return secret
  | .error _ => .error .vaultError

---- Issuing A Lease

/- The arguments of `issue_secret_lease`, with fresh values. -/
structure LeaseCall where
  user : UserId
  credentialId : Uuid
  justification : Text
  purpose : LeasePurpose
  lifetimeSeconds : Nat
  sourceIp : Option IpText
  mfaVerifiedAt : Option Int
  leaseId : Uuid
  token : Text

def leaseAction : LeasePurpose → Action
| .session => .startSession
| _ => .viewSecret

/- The checks before a policy is looked for. -/
def leaseChecks (call : LeaseCall) (db : Database) :
    Except Failure (Text × Credential × Target) := do
  let justification ← normalizeJustification call.justification
  let credential ← found (db.credentials.get call.credentialId) .doesNotExist
  let target ← found (db.targets.get credential.targetId) .doesNotExist
  require (credential.checkoutEnabled = true ∧ target.enabled = true)
    (.permissionDenied "Cet identifiant n’est pas disponible à la consultation.")
  require (15 ≤ call.lifetimeSeconds ∧ call.lifetimeSeconds ≤ 300) (.validationError (Text.ofString
    "La durée d’un bail doit être comprise entre 15 et 300 secondes."))
  return (justification, credential, target)

section

variable (site : Site) (moment : Moment) (call : LeaseCall)

def leaseRow (credential : Credential)
    (policy : AccessPolicy) (accessRequest : Option AccessRequest)
    (justification : Text) : SecretLease where
  id := call.leaseId
  credentialId := credential.id
  userId := call.user
  policyId := policy.id
  accessRequestId := accessRequest.map AccessRequest.id
  purpose := call.purpose
  tokenHash := site.services.sha256 call.token
  expiresAt := moment.now + seconds call.lifetimeSeconds
  maxUses := 1
  useCount := 0
  consumedAt := none
  revokedAt := none
  sourceIp := call.sourceIp
  justification := justification

def newLease (db : Database) : Except Failure SecretLease := do
  let (justification, credential, target) ← leaseChecks call db
  let (policy, accessRequest) ←
    authorizingPolicyFor site moment.now call.user credential target (leaseAction call.purpose)
      call.sourceIp call.mfaVerifiedAt db
  return leaseRow site moment call credential policy accessRequest justification

end

def leaseResourceType : Text := "vault.secretlease"

def leaseMetadata (lease : SecretLease) : Json :=
  .obj [("credential_id", .str (Uuid.str lease.credentialId)), ("purpose", .str lease.purpose.text),
    ("justification", .str lease.justification)]

/- `issue_secret_lease`. The row stays when the event cannot be recorded. -/
def issueSecretLease (site : Site) (moment : Moment) (call : LeaseCall)
    (db : Database) : Except Failure SecretLease × Database :=
  match newLease site moment call db with
  | .error failure => (.error failure, db)
  | .ok lease =>
    match db.leases.insert lease with
    | none => (.error .integrityError, db)
    | some leases =>
      let db := { db with leases := leases }
      match db.recordEvent site moment (some call.user) "credential.secret_lease.issued"
        leaseResourceType (Uuid.str lease.id)
        (leaseMetadata lease) call.sourceIp with
      | .error failure => (.error failure, db)
      | .ok after => (.ok lease, after)

---- Consuming A Lease

/- The two rows that consuming a lease writes. -/
def checkedOut (now : Int) (tokenHash : Text) (credentialId : Uuid) (db : Database) : Database :=
  { db with
    leases := db.leases.modify tokenHash (fun row =>
        { row with useCount := row.useCount + 1, consumedAt := some now })
      (fun _ => rfl)
    credentials := db.credentials.modify credentialId (fun row =>
        { row with lastCheckedOutAt := some now })
      (fun _ => rfl) }

/- `consume_secret_lease`, in its transaction. -/
def consumeSecretLease (site : Site) (moment : Moment) (token : Text) (expectedUser : Option UserId)
    (expectedPurpose : Option LeasePurpose) (db : Database) :
    Except Failure ((SecretLease × Text) × Database) := do
  let tokenHash := site.services.sha256 token
  let lease ← found (db.leases.get tokenHash) (.permissionDenied "Bail de secret invalide.")
  require (lease.revokedAt = none ∧ moment.now < lease.expiresAt ∧ lease.useCount < lease.maxUses)
    (.permissionDenied "Ce bail de secret a expiré ou a déjà été consommé.")
  require (expectedUser.all (fun user => decide (user = lease.userId)) = true)
    (.permissionDenied "Ce bail appartient à un autre utilisateur.")
  require (expectedPurpose.all (fun purpose => decide (purpose = lease.purpose)) = true)
    (.permissionDenied "Ce bail ne permet pas cette opération.")
  let credential ← found (db.credentials.get lease.credentialId) .doesNotExist
  let after ←
    (checkedOut moment.now tokenHash credential.id db).recordEvent site moment (some lease.userId)
      "credential.secret_lease.consumed"
      leaseResourceType (Uuid.str lease.id)
      (leaseMetadata lease) lease.sourceIp
  let secret ← decrypt site credential.encryptedSecret credential.secretEncryptionKeyId
  return ((lease, secret), after)

def revokedLease (now : Int) (lease : SecretLease) : SecretLease :=
  { lease with revokedAt := some now }

theorem revokedLease_tokenHash (now : Int) (lease : SecretLease) :
    (revokedLease now lease).tokenHash = lease.tokenHash :=
  rfl

/-
  `revoke_secret_lease`. The object may be stale; one column is written, and stays when the event
  cannot be recorded.
-/
def revokeSecretLease (site : Site) (moment : Moment) (held : SecretLease) (actor : UserId)
    (db : Database) : Except Failure SecretLease × Database :=
  if held.revokedAt ≠ none then (.ok held, db)
  else
    match db.leases.get held.tokenHash with
    | none =>
      (.error (.runtimeError "Save with update_fields did not affect any rows."), db)
    | some _ =>
      let db :=
        { db with
          leases := db.leases.modify held.tokenHash (revokedLease moment.now)
            (revokedLease_tokenHash moment.now) }
      match db.recordEvent site moment (some actor) "credential.secret_lease.revoked"
        leaseResourceType (Uuid.str held.id) .null none with
      | .error failure => (.error failure, db)
      | .ok after => (.ok (revokedLease moment.now held), after)

end PamOlive.Vault
