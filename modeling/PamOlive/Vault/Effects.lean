import PamOlive.Vault.Leases

/-
  What the lease functions return, and when.
-/

---- Authorizing Policies

namespace PamOlive.Vault

open Foundations Policies Table List Database

variable {site : Site} {moment : Moment} {db after : Database}
variable {credential : Credential} {now : Int} {user : UserId} {target : Target} {action : Action}
variable {sourceIp : Option IpText} {mfaVerifiedAt : Option Int} {policy : AccessPolicy}
variable {accessRequest : Option AccessRequest}

theorem authorizingPolicyFor_eq_ok_iff : authorizingPolicyFor site now user credential target
    action sourceIp mfaVerifiedAt db = .ok (policy, accessRequest) ↔
    (candidatePolicies site now user target.id action sourceIp db).find? (fun policy =>
        scopeSatisfied now user credential target policy db &&
        mfaSatisfied now user mfaVerifiedAt policy db) = some policy ∧
      accessRequest = activeApproval now user target.id policy.id db := by
  unfold authorizingPolicyFor
  simp only [found_bind_eq_ok_iff, pure_eq_ok_iff, Prod.mk.injEq]
  constructor
  · rintro ⟨policy', hFind, rfl, rfl⟩
    exact ⟨hFind, rfl⟩
  · rintro ⟨hFind, rfl⟩
    exact ⟨policy, hFind, rfl, rfl⟩

theorem mem_of_authorizingPolicyFor (hPolicy : authorizingPolicyFor site now user credential target
    action sourceIp mfaVerifiedAt db = .ok (policy, accessRequest)) :
    policy ∈ db.policies.rows := by
  rcases authorizingPolicyFor_eq_ok_iff.mp hPolicy with ⟨hFind, _⟩
  have hMem := mem_of_find?_eq_some hFind
  unfold candidatePolicies policiesAllowing policiesForUser at hMem
  simp only [mem_filter] at hMem
  exact hMem.1.1.1

theorem authorizingPolicyFor_eq_error {failure : Failure}
    (hFailed : authorizingPolicyFor site now user credential target
      action sourceIp mfaVerifiedAt db = .error failure) :
    failure = noAuthorization := by
  rcases found_bind_eq_error_iff.mp hFailed with ⟨_, hFailure⟩ | ⟨policy, _, hReturned⟩
  · exact hFailure.symm
  · exact absurd hReturned (by simp [pure, Except.pure])

theorem mfaSatisfied_none : mfaSatisfied now user none policy db = !policy.requiresMfa := by
  unfold mfaSatisfied mfaTimestampIsRecent
  simp

theorem authorizingPolicyFor_none_iff : (∃ result,
    authorizingPolicyFor site now user credential target action sourceIp none db = .ok result) ↔
    ∃ policy ∈ candidatePolicies site now user target.id action sourceIp db,
      scopeSatisfied now user credential target policy db = true ∧ policy.requiresMfa = false := by
  constructor
  · rintro ⟨⟨policy, accessRequest⟩, hPolicy⟩
    rcases authorizingPolicyFor_eq_ok_iff.mp hPolicy with ⟨hFind, _⟩
    have hHolds := find?_some hFind
    simp only [mfaSatisfied_none, Bool.and_eq_true, Bool.not_eq_true'] at hHolds
    exact ⟨policy, mem_of_find?_eq_some hFind, hHolds⟩
  · rintro ⟨policy, hMem, hScope, hMfa⟩
    have hSome : ((candidatePolicies site now user target.id action sourceIp db).find?
      (fun policy =>
        scopeSatisfied now user credential target policy db &&
        mfaSatisfied now user none policy db)).isSome = true := by
      apply find?_isSome.mpr
      refine ⟨policy, hMem, ?_⟩
      rw [mfaSatisfied_none, hScope, hMfa]
      rfl
    rcases Option.isSome_iff_exists.mp hSome with ⟨first, hFind⟩
    exact ⟨_, authorizingPolicyFor_eq_ok_iff.mpr ⟨hFind, rfl⟩⟩

---- Leases

variable {lease : SecretLease} {call : LeaseCall}

theorem newLease_eq_ok_iff : newLease site moment call db = .ok lease ↔
    ∃ justification credential target policy accessRequest,
      normalizeJustification call.justification = .ok justification ∧
        db.credentials.get call.credentialId = some credential ∧
        db.targets.get credential.targetId = some target ∧
        (credential.checkoutEnabled = true ∧ target.enabled = true) ∧
        (15 ≤ call.lifetimeSeconds ∧ call.lifetimeSeconds ≤ 300) ∧
        authorizingPolicyFor site moment.now call.user credential target (leaseAction call.purpose)
          call.sourceIp call.mfaVerifiedAt db = .ok (policy, accessRequest) ∧
        lease = leaseRow site moment call credential policy accessRequest justification := by
  unfold newLease leaseChecks
  simp only [bind_assoc, pure_bind, bind_eq_ok_iff, found_eq_ok_iff, exists_unit_iff,
    require_eq_ok_iff, pure_eq_ok_iff, Prod.exists, exists_and_left, @eq_comm _ lease]

theorem leaseRow_of_newLease (hCredential : db.credentials.get call.credentialId = some credential)
    (hNew : newLease site moment call db = .ok lease) :
    ∃ policy accessRequest justification, 15 ≤ call.lifetimeSeconds ∧
      lease = leaseRow site moment call credential policy accessRequest justification := by
  rcases newLease_eq_ok_iff.mp hNew with
    ⟨justification, held, _, policy, accessRequest, _, hHeld, _, _, hLifetime, _, hLease⟩
  cases Option.mem_unique hHeld hCredential
  exact ⟨policy, accessRequest, justification, hLifetime.1, hLease⟩

theorem issueSecretLease_eq_ok_iff : issueSecretLease site moment call db = (.ok lease, after) ↔
    newLease site moment call db = .ok lease ∧ ∃ leases, db.leases.insert lease = some leases ∧
      { db with leases := leases }.recordEvent site moment (some call.user)
        "credential.secret_lease.issued"
        leaseResourceType (Uuid.str lease.id)
        (leaseMetadata lease) call.sourceIp = .ok after := by
  unfold issueSecretLease
  cases newLease site moment call db with
  | error failure => simp
  | ok permitted =>
    dsimp only
    constructor
    · intro hIssue
      split at hIssue
      · simp at hIssue
      rename_i leases hInsert
      split at hIssue
      · simp at hIssue
      · rename_i hRecord
        simp only [Prod.mk.injEq, Except.ok.injEq] at hIssue
        rcases hIssue with ⟨rfl, rfl⟩
        exact ⟨rfl, leases, hInsert, hRecord⟩
    · rintro ⟨hSame, leases, hInsert, hRecord⟩
      cases hSame
      simp only [hInsert, hRecord]

---- Secrets

variable {token secret : Text} {expectedPurpose : Option LeasePurpose}

theorem decrypt_eq_ok_iff {keyId : Text} : decrypt site token keyId = .ok secret ↔
    (keyId = [] ∨ keyId = activeKeyId) ∧ site.services.keyring.decrypt token = .ok secret := by
  unfold decrypt
  rw [require_bind_eq_ok_iff]
  cases site.services.keyring.decrypt token with
  | error failure => simp
  | ok decrypted => simp [pure, Except.pure]

variable {expectedUser : Option UserId}

theorem consumeSecretLease_eq_ok_iff : consumeSecretLease site moment token expectedUser
    expectedPurpose db = .ok ((lease, secret), after) ↔
    ∃ credential, db.leases.get (site.services.sha256 token) = some lease ∧
      (lease.revokedAt = none ∧ moment.now < lease.expiresAt ∧ lease.useCount < lease.maxUses) ∧
      expectedUser.all (fun user => decide (user = lease.userId)) = true ∧
      expectedPurpose.all (fun purpose => decide (purpose = lease.purpose)) = true ∧
      db.credentials.get lease.credentialId = some credential ∧
      (checkedOut moment.now (site.services.sha256 token) credential.id
        db).recordEvent site moment (some lease.userId) "credential.secret_lease.consumed"
          leaseResourceType (Uuid.str lease.id)
          (leaseMetadata lease) lease.sourceIp =
        .ok after ∧
      decrypt site credential.encryptedSecret credential.secretEncryptionKeyId = .ok secret := by
  unfold consumeSecretLease
  simp only [bind_eq_ok_iff, found_eq_ok_iff, exists_unit_iff, require_eq_ok_iff, return_eq_ok_iff,
    Prod.mk.injEq]
  constructor
  · rintro ⟨_, hLease, hUsable, hUser, hPurpose, credential, hCredential, _, hRecord, _, hDecrypt,
      ⟨rfl, rfl⟩, rfl⟩
    exact ⟨credential, hLease, hUsable, hUser, hPurpose, hCredential, hRecord, hDecrypt⟩
  · rintro ⟨credential, hLease, hUsable, hUser, hPurpose, hCredential, hRecord, hDecrypt⟩
    exact ⟨lease, hLease, hUsable, hUser, hPurpose, credential, hCredential, after, hRecord, secret,
      hDecrypt, ⟨rfl, rfl⟩, rfl⟩

---- A Lease Consumed At Once

/- The token of a lease is not taken, and the keyring signs both events. -/
def LeaseRecorded (site : Site) (moment : Moment) (lease : SecretLease) (db : Database) : Prop :=
  ∃ leases issued, db.leases.insert lease = some leases ∧
    { db with leases := leases }.recordEvent site moment (some lease.userId)
      "credential.secret_lease.issued"
      leaseResourceType (Uuid.str lease.id)
      (leaseMetadata lease) lease.sourceIp = .ok issued ∧
    ∃ final, (checkedOut moment.now lease.tokenHash lease.credentialId issued).recordEvent site
      moment (some lease.userId)
      "credential.secret_lease.consumed"
      leaseResourceType (Uuid.str lease.id)
      (leaseMetadata lease) lease.sourceIp = .ok final

theorem leaseRecorded_of_canSign (hSign : site.CanSign) (moment : Moment)
    (hFresh : db.leases.get lease.tokenHash = none) : LeaseRecorded site moment lease db := by
  have hInsert : ∃ leases, db.leases.insert lease = some leases := exists_insert_iff.mpr hFresh
  rcases hInsert with ⟨leases, hInsert⟩
  rcases recordEvent_of_canSign hSign moment (some lease.userId) "credential.secret_lease.issued"
    leaseResourceType (Uuid.str lease.id)
    (leaseMetadata lease) lease.sourceIp
    { db with leases := leases } with
    ⟨audit, hIssued⟩
  rcases recordEvent_of_canSign hSign moment (some lease.userId) "credential.secret_lease.consumed"
    leaseResourceType (Uuid.str lease.id)
    (leaseMetadata lease) lease.sourceIp
    (checkedOut moment.now lease.tokenHash lease.credentialId
      { db with leases := leases, audit := audit }) with
    ⟨_, hConsumed⟩
  exact ⟨leases, _, hInsert, hIssued, _, hConsumed⟩

/- A lease that is consumed when it is issued returns the secret of its credential. -/
theorem leaseSecret_iff (hCredential : db.credentials.get call.credentialId = some credential)
    (hPurpose : expectedPurpose.all (fun purpose => decide (purpose = call.purpose)) = true) :
    (∃ lease issued consumed final, issueSecretLease site moment call db = (.ok lease, issued) ∧
      consumeSecretLease site moment call.token (some call.user) expectedPurpose issued =
        .ok ((consumed, secret), final)) ↔
      (∃ lease, newLease site moment call db = .ok lease ∧ LeaseRecorded site moment lease db) ∧
        decrypt site credential.encryptedSecret credential.secretEncryptionKeyId = .ok secret := by
  have hId : credential.id = call.credentialId := (get_eq_some_iff.mp hCredential).2
  constructor
  · rintro ⟨lease, issued, consumed, final, hIssue, hConsume⟩
    rcases issueSecretLease_eq_ok_iff.mp hIssue with ⟨hNew, leases, hInsert, hRecord⟩
    rcases consumeSecretLease_eq_ok_iff.mp hConsume with
      ⟨used, hUsed, _, _, _, hRead, hRecord', hDecrypt⟩
    rcases leaseRow_of_newLease hCredential hNew with ⟨policy, accessRequest, justification, _, rfl⟩
    rcases recordEvent_eq_ok hRecord with ⟨audit, rfl⟩
    have hSame := Option.some.inj (hUsed.symm.trans (get_insert_self hInsert))
    subst hSame
    have hSame : used = credential := by
      dsimp only [leaseRow] at hRead
      rw [hId, hCredential] at hRead
      exact (Option.some.inj hRead).symm
    subst hSame
    exact ⟨⟨_, hNew, leases, _, hInsert, hRecord, final, hRecord'⟩, hDecrypt⟩
  · rintro ⟨⟨lease, hNew, leases, issued, hInsert, hRecord, final, hRecord'⟩, hDecrypt⟩
    rcases leaseRow_of_newLease hCredential hNew with
      ⟨policy, accessRequest, justification, hLifetime, rfl⟩
    have hIssue := issueSecretLease_eq_ok_iff.mpr ⟨hNew, leases, hInsert, hRecord⟩
    refine ⟨_, issued, _, final, hIssue,
      consumeSecretLease_eq_ok_iff.mpr ⟨credential, ?_, ?_, ?_, hPurpose, ?_, hRecord', hDecrypt⟩⟩
    · rcases recordEvent_eq_ok hRecord with ⟨audit, rfl⟩
      exact get_insert_self hInsert
    · refine ⟨rfl, ?_, Nat.zero_lt_one⟩
      dsimp only [leaseRow, seconds]
      omega
    · simp [leaseRow]
    · rcases recordEvent_eq_ok hRecord with ⟨audit, rfl⟩
      dsimp only [leaseRow]
      rw [hId]
      exact hCredential

structure LeaseFrame (db after : Database) : Prop where
  targets : after.targets = db.targets
  policies : after.policies = db.policies
  hostKeys : after.hostKeys = db.hostKeys
  sessions : after.sessions = db.sessions
  tickets : after.tickets = db.tickets

theorem LeaseFrame.refl (db : Database) : LeaseFrame db db := ⟨rfl, rfl, rfl, rfl, rfl⟩

theorem LeaseFrame.trans (first second third : Database) (hFirst : LeaseFrame first second)
    (hSecond : LeaseFrame second third) :
    LeaseFrame first third where
  targets := hSecond.targets.trans hFirst.targets
  policies := hSecond.policies.trans hFirst.policies
  hostKeys := hSecond.hostKeys.trans hFirst.hostKeys
  sessions := hSecond.sessions.trans hFirst.sessions
  tickets := hSecond.tickets.trans hFirst.tickets

theorem issueSecretLease_frame (call : LeaseCall) (db : Database) :
    LeaseFrame db (issueSecretLease site moment call db).2 := by
  unfold issueSecretLease
  split
  · exact LeaseFrame.refl db
  split
  · exact LeaseFrame.refl db
  · dsimp only
    split
    · exact ⟨rfl, rfl, rfl, rfl, rfl⟩
    · rename_i hRecord
      rcases recordEvent_eq_ok hRecord with ⟨audit, rfl⟩
      exact ⟨rfl, rfl, rfl, rfl, rfl⟩

theorem consumeSecretLease_frame {result : SecretLease × Text} (hConsume :
      consumeSecretLease site moment token expectedUser expectedPurpose db = .ok (result, after)) :
    LeaseFrame db after := by
  rcases consumeSecretLease_eq_ok_iff.mp hConsume with ⟨_, _, _, _, _, _, hRecord, _⟩
  rcases recordEvent_eq_ok hRecord with ⟨audit, rfl⟩
  exact ⟨rfl, rfl, rfl, rfl, rfl⟩

end PamOlive.Vault
