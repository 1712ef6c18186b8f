import PamOlive.Database.Statements
import PamOlive.Vault.LeaseUse

/-
  Whether an operation that fails leaves something behind.

  Eight of the operations that record an event run in one transaction: when they raise nothing has
  changed, and when they change something one event was recorded. Issuing and revoking a lease are
  not in a transaction, and keep what was written before a failure.
-/

---- Operations

namespace PamOlive.Statements

open Foundations Vault Sessions Approvals Operations Sessions Table Script

def Appends (db after : Database) : Prop := ∃ event, after.audit.events = db.audit.events ++ [event]

/- Nothing happened, or one event tells what did. -/
structure AllOrNothing (result : Except Failure Unit × Database) (db : Database) : Prop where
  raises : ∀ failure, result.1 = .error failure → result.2 = db
  returns : result.1 = .ok () → result.2 ≠ db → Appends db result.2

inductive Operation where
  | issueSecretLease (call : LeaseCall)
  | consumeSecretLease (token : Text) (expectedUser : Option UserId)
    (expectedPurpose : Option LeasePurpose)
  | revokeSecretLease (held : SecretLease) (actor : UserId)
  | session (call : SessionCall)
  | decideAccessRequest (call : DecideCall)
  | queueRotation (call : QueueCall)

/- Whether a call returned, and what it left. -/
def outcome {α : Type} (result : Except Failure α × Database) : Except Failure Unit × Database :=
  (result.1.map (fun _ => ()), result.2)

/- A function that is decorated with `transaction.atomic`. -/
def atomic {α : Type} (faults : Point → Option Failure) (procedure : Procedure α)
    (db : Database) : Except Failure Unit × Database :=
  outcome (commit (procedure.transaction faults) db)

def Operation.perform (site : Site) (moment : Moment) (faults : Point → Option Failure) :
    Operation → Database → Except Failure Unit × Database
| .issueSecretLease call, db =>
  outcome ((Statements.issueSecretLease site moment call).run faults db)
| .consumeSecretLease token expectedUser expectedPurpose, db =>
    atomic faults (Statements.consumeSecretLease site moment token expectedUser expectedPurpose) db
| .revokeSecretLease held actor, db =>
  outcome ((Statements.revokeSecretLease site moment held actor).run faults db)
| .session (.issueSessionTicket call), db =>
  atomic faults (issueSessionTicket site moment call) db
| .session (.startWebSession call), db =>
  atomic faults (startWebSession site moment call) db
| .session (.consumeSessionTicket sessionId token user sourceIp), db =>
  atomic faults (consumeSessionTicket site moment sessionId token user sourceIp) db
| .session (.closeSession sessionId actor reason failed), db =>
  atomic faults (closeSession site moment sessionId actor reason failed) db
| .session (.requestSessionTermination sessionId seenStatus actor), db =>
  atomic faults (requestSessionTermination site moment sessionId seenStatus actor) db
| .decideAccessRequest call, db =>
  atomic faults (Statements.decideAccessRequest site moment call) db
| .queueRotation call, db => atomic faults (Statements.queueRotation site moment call) db

---- Transactions

variable {site : Site} {moment : Moment} {faults : Point → Option Failure} {db middle : Database}
variable {actor : Option UserId} {action resourceType resourceId token : Text} {metadata : Json}
variable {sourceIp : Option IpText} {call : OpenCall}

section Transactions

variable {α : Type} {after : Database}

theorem allOrNothing_atomic {procedure : Procedure α} {returned : Except Failure (α × Database)}
    (hTransaction : procedure.transaction noFaults db = returned)
    (hReturns : ∀ value after, returned = .ok (value, after) → after = db ∨ Appends db after) :
    AllOrNothing (atomic faults procedure db) db ↔ True := by
  subst hTransaction
  refine iff_of_true ?_ trivial
  unfold atomic commit outcome
  cases hRun : procedure.transaction faults db with
  | error failure =>
    refine ⟨fun _ _ => rfl, ?_⟩
    intro _ hChanged
    exact absurd rfl hChanged
  | ok result =>
    rcases result with ⟨value, after⟩
    constructor
    · intro failure hRaised
      exact nomatch hRaised
    · intro _ hChanged
      exact (hReturns value after (transaction_eq_of_faults hRun)).resolve_left hChanged

theorem Appends.of_recordEvent (hRecord : middle.recordEvent site moment actor action
      resourceType resourceId metadata sourceIp = .ok after)
    (hAudit : middle.audit = db.audit) : Appends db after := by
  unfold Database.recordEvent Audit.recordEvent at hRecord
  dsimp only at hRecord
  rw [hAudit] at hRecord
  split at hRecord
  · rename_i event audit hOk
    rcases bind_eq_ok_iff.mp hOk with ⟨signature, _, hOk⟩
    rcases return_eq_ok_iff.mp hOk with ⟨_, rfl⟩
    injection hRecord with hAfter
    rw [← hAfter]
    exact ⟨_, rfl⟩
  · exact nomatch hRecord

theorem Appends.of_ensured (hAppends : Appends (ensured db) after) : Appends db after := hAppends

theorem appends_of_issueSessionTicket {result : PrivilegedSession × SessionTicket}
    (hIssue : Sessions.issueSessionTicket site moment call db = .ok (result, after)) :
    Appends db after := by
  unfold Sessions.issueSessionTicket at hIssue
  simp only [bind_eq_ok_iff, return_eq_ok_iff] at hIssue
  rcases hIssue with ⟨_, _, _, _, _, _, _, _, _, _, _, _, _, _, recorded, hRecord, _, rfl⟩
  exact .of_recordEvent hRecord rfl

variable {result : PrivilegedSession} {sessionId : Uuid}

theorem appends_of_startWebSession
    (hStart : Sessions.startWebSession site moment call db = .ok (result, after)) :
    Appends db after := by
  unfold Sessions.startWebSession at hStart
  simp only [bind_eq_ok_iff, return_eq_ok_iff] at hStart
  rcases hStart with ⟨_, _, _, _, _, _, _, _, _, _, _, _, recorded, hRecord, _, rfl⟩
  exact .of_recordEvent hRecord rfl

theorem appends_of_consumeSessionTicket {user : UserId}
    (hConsume : Sessions.consumeSessionTicket site moment sessionId
      token user sourceIp db = .ok (result, after)) :
    Appends db after := by
  unfold Sessions.consumeSessionTicket at hConsume
  simp only [bind_eq_ok_iff, return_eq_ok_iff] at hConsume
  rcases hConsume with ⟨_, _, _, _, _, _, _, _, _, _, _, _, _, _, recorded, hRecord, _, rfl⟩
  exact .of_recordEvent hRecord rfl

theorem appends_of_closeSession {reason : Text} {failed : Bool} (hClose :
    Sessions.closeSession site moment sessionId actor reason failed db = .ok (result, after)) :
    after = db ∨ Appends db after := by
  rcases bind_eq_ok_iff.mp hClose with ⟨locked, _, hClose⟩
  split at hClose
  · exact .inl (return_eq_ok_iff.mp hClose).2.symm
  · rcases require_bind_eq_ok_iff.mp hClose with ⟨_, hClose⟩
    rcases bind_eq_ok_iff.mp hClose with ⟨recorded, hRecord, hClose⟩
    rcases return_eq_ok_iff.mp hClose with ⟨_, rfl⟩
    exact .inr (.of_recordEvent hRecord rfl)

theorem appends_of_requestSessionTermination
    {seenStatus : SessionStatus} {actor : UserId} {result : PrivilegedSession × Bool}
    (hRequest : Sessions.requestSessionTermination site moment
      sessionId seenStatus actor db = .ok (result, after)) :
    after = db ∨ Appends db after := by
  rcases bind_eq_ok_iff.mp hRequest with ⟨locked, _, hRequest⟩
  split at hRequest
  · exact .inl (return_eq_ok_iff.mp hRequest).2.symm
  · rcases bind_eq_ok_iff.mp hRequest with ⟨recorded, hRecord, hRequest⟩
    rcases return_eq_ok_iff.mp hRequest with ⟨_, rfl⟩
    exact .inr (.of_recordEvent hRecord rfl)

theorem appends_of_consumeSecretLease
    {expectedUser : Option UserId} {expectedPurpose : Option LeasePurpose}
    {result : SecretLease × Text}
    (hConsume : Vault.consumeSecretLease site moment token
      expectedUser expectedPurpose db = .ok (result, after)) :
    Appends db after := by
  unfold Vault.consumeSecretLease at hConsume
  simp only [bind_eq_ok_iff, return_eq_ok_iff] at hConsume
  rcases hConsume with ⟨_, _, _, _, _, _, _, _, _, _, recorded, hRecord, _, _, _, rfl⟩
  exact .of_recordEvent hRecord rfl

theorem appends_of_decideAccessRequest {call : DecideCall} {result : AccessRequest}
    (hDecide : Approvals.decideAccessRequest site moment call db = .ok (result, after)) :
    Appends db after := by
  unfold Approvals.decideAccessRequest at hDecide
  simp only [bind_eq_ok_iff, return_eq_ok_iff] at hDecide
  rcases hDecide with ⟨_, _, _, _, _, _, _, _, _, _, _, _, _, _, recorded, hRecord, _, rfl⟩
  refine .of_recordEvent hRecord ?_
  unfold settle
  split <;> rfl

theorem appends_of_queueRotation {call : QueueCall} {result : RotationJob × Bool}
    (hQueue : Operations.queueRotation site moment call db = .ok (result, after)) :
    after = db ∨ Appends db after := by
  rcases bind_eq_ok_iff.mp hQueue with ⟨credential, _, hQueue⟩
  split at hQueue
  · exact .inl (return_eq_ok_iff.mp hQueue).2.symm
  · simp only [bind_eq_ok_iff, return_eq_ok_iff] at hQueue
    rcases hQueue with ⟨_, _, recorded, hRecord, _, rfl⟩
    exact .inr (.of_recordEvent hRecord rfl)

end Transactions

---- Leases

/- The event of an operation can be recorded. -/
structure Records (faults : Point → Option Failure) (site : Site) (moment : Moment)
    (actor : Option UserId) (action resourceType resourceId : Text) (metadata : Json)
    (sourceIp : Option IpText) (db : Database) : Prop where
  event : faults .auditEvent = none
  chain : faults .auditChainState = none
  signs : db.CanRecord site moment actor action resourceType resourceId metadata sourceIp

section

variable (site : Site) (moment : Moment) (faults : Point → Option Failure)

/- The row of a permitted lease can be created. -/
structure Creates (call : LeaseCall) (db : Database) (lease : SecretLease) : Prop where
  permitted : newLease site moment call db = .ok lease
  writes : faults .secretLease = none
  isNew : db.leases.get lease.tokenHash = none

/- Issuing a lease fails before it writes, or does not fail. The first write is the policy row. -/
inductive IssueGuarded (call : LeaseCall) (db : Database) : Prop
  | refused {failure : Failure} (hChecks : leaseChecks call db = .error failure)
  | withoutPolicy (hNone : db.sensitiveWindowMinutes = none)
    (hFault : faults .platformSecurityPolicy ≠ none)
  | notCreated (hPolicy : db.sensitiveWindowMinutes ≠ none)
    (hNot : ∀ lease, ¬ Creates site moment faults call db lease)
  | recorded {lease : SecretLease} (hCreates : Creates site moment faults call db lease) (hRecords :
    Records faults site moment (some call.user) "credential.secret_lease.issued"
      leaseResourceType (Uuid.str lease.id) (leaseMetadata lease) call.sourceIp db)

/- Revoking a lease writes nothing, or does not fail. -/
inductive RevokeGuarded (held : SecretLease) (actor : UserId) (db : Database) : Prop
  | revoked (hRevoked : held.revokedAt ≠ none)
  | notWritten (hFault : faults .secretLease ≠ none)
  | unchanged
    (hSame : ∀ row, db.leases.get held.tokenHash = some row → row.revokedAt = some moment.now)
  | recorded (hRecords : Records faults site moment (some actor) "credential.secret_lease.revoked"
      leaseResourceType (Uuid.str held.id) .null none db)

/- What an operation needs besides its own transaction. -/
def Operation.Guarded (db : Database) : Operation → Prop
| .issueSecretLease call => IssueGuarded site moment faults call db
| .revokeSecretLease held actor => RevokeGuarded site moment faults held actor db
| _ => True

end

section Leases

theorem allOrNothing_of_same {result : Except Failure Unit × Database} (hSame : result.2 = db) :
    AllOrNothing result db := by
  refine ⟨fun _ _ => hSame, ?_⟩
  intro _ hChanged
  exact absurd hSame hChanged

theorem run_recordEvent_eq (hEvent : faults .auditEvent = none)
    (hChain : faults .auditChainState = none) :
    (recordEvent site moment actor action resourceType resourceId metadata sourceIp).run faults db =
      (recordEvent site moment actor action resourceType resourceId metadata sourceIp).run noFaults
          db := by
  unfold recordEvent forUpdate
  rw [run_demand_bind, run_demand_bind, run, run]
  dsimp only
  split
  · rfl
  · simp only [references, demand, run, writeAll, hEvent, hChain, noFaults]

theorem run_recordEvent_of_fault
    (hFault : faults .auditEvent ≠ none ∨ faults .auditChainState ≠ none) :
    ∃ failure, (recordEvent site moment actor action resourceType
      resourceId metadata sourceIp).run faults db = (.error failure, db) := by
  unfold recordEvent forUpdate
  rw [run_demand_bind, run]
  dsimp only
  split
  · exact ⟨.keyringError, rfl⟩
  · simp only [references, demand, run, writeAll]
    cases hEvent : faults .auditEvent with
    | some failure => exact ⟨failure, rfl⟩
    | none =>
      cases hChain : faults .auditChainState with
      | some failure => exact ⟨failure, rfl⟩
      | none => simp [hEvent, hChain] at hFault

theorem run_recordEvent_of_not_records
    (hNot : ¬ Records faults site moment actor action resourceType resourceId metadata sourceIp db)
    (hAudit : middle.audit = db.audit) :
    ∃ failure, (recordEvent site moment actor action resourceType
      resourceId metadata sourceIp).run faults middle = (.error failure, middle) := by
  by_cases hEvent : faults .auditEvent = none
  · by_cases hChain : faults .auditChainState = none
    · rw [run_recordEvent_eq hEvent hChain, run_recordEvent]
      cases hRecord :
        middle.recordEvent site moment actor action resourceType resourceId metadata sourceIp with
      | error failure => exact ⟨failure, rfl⟩
      | ok after => exact absurd ⟨hEvent, hChain, .of_recordEvent hRecord hAudit.symm⟩ hNot
    · exact run_recordEvent_of_fault (.inr hChain)
  · exact run_recordEvent_of_fault (.inl hEvent)

theorem allOrNothing_recordEvent {α : Type} {value : α} (hAudit : middle.audit = db.audit) :
    AllOrNothing (outcome ((do
        recordEvent site moment actor action resourceType resourceId metadata sourceIp
        return value : Procedure α).run faults middle)) db ↔
      middle = db ∨
        Records faults site moment actor action resourceType resourceId metadata sourceIp db := by
  rw [run_bind]
  unfold andThen
  by_cases hRecords :
    Records faults site moment actor action resourceType resourceId metadata sourceIp db
  · rcases hRecords.signs.recordEvent hAudit with ⟨after, hRecord⟩
    rw [run_recordEvent_eq hRecords.event hRecords.chain, run_recordEvent, hRecord]
    refine ⟨fun _ => .inr hRecords, fun _ => ⟨?_, ?_⟩⟩
    · intro failure hRaised
      exact nomatch hRaised
    · intro _ _
      exact .of_recordEvent hRecord hAudit
  · rcases run_recordEvent_of_not_records hRecords hAudit with ⟨failure, hRun⟩
    rw [hRun]
    constructor
    · intro hAll
      exact .inl (hAll.raises failure rfl)
    · intro hOr
      exact allOrNothing_of_same (hOr.resolve_right hRecords)

---- Revoking A Lease

variable {held : SecretLease} {row : SecretLease}

theorem revoked_eq_self_iff (hRow : db.leases.get held.tokenHash = some row) : { db with
    leases := db.leases.modify held.tokenHash (revokedLease moment.now)
      (revokedLease_tokenHash moment.now) } = db ↔
    row.revokedAt = some moment.now := by
  have hTable : db.leases.modify held.tokenHash (revokedLease moment.now)
    (revokedLease_tokenHash moment.now) = db.leases ↔ revokedLease moment.now row = row :=
    modify_eq_self_iff hRow
  constructor
  · intro hSame
    have hLease := hTable.mp (congrArg Database.leases hSame)
    rw [← hLease]
    rfl
  · intro hRevoked
    rw [hTable.mpr]
    rcases row
    subst hRevoked
    rfl

theorem run_saveRevoked_of_not
    (hNot : faults .secretLease ≠ none ∨ db.leases.get held.tokenHash = none) :
    ∃ failure, (saveRevoked moment held).run faults db = (.error failure, db) := by
  by_cases hFault : faults .secretLease = none
  · have hRow := hNot.resolve_left (not_not.mpr hFault)
    refine ⟨.runtimeError "Save with update_fields did not affect any rows.",
      run_write_of_error hFault ?_⟩
    rw [hRow]
  · exact run_write_of_fault hFault

theorem allOrNothing_revokeSecretLease (held : SecretLease) (actor : UserId) :
    AllOrNothing (outcome ((revokeSecretLease site moment held actor).run faults db)) db ↔
      RevokeGuarded site moment faults held actor db := by
  unfold revokeSecretLease
  split
  · rename_i hHeld
    exact ⟨fun _ => .revoked hHeld, fun _ => allOrNothing_of_same rfl⟩
  rename_i hHeld
  by_cases hNot : faults .secretLease ≠ none ∨ db.leases.get held.tokenHash = none
  · rcases run_saveRevoked_of_not hNot with ⟨failure, hRun⟩
    rw [run_bind_of_error hRun]
    refine ⟨fun _ => ?_, fun _ => allOrNothing_of_same rfl⟩
    rcases hNot with hFault | hMissing
    · exact .notWritten hFault
    · refine .unchanged ?_
      intro row hRow
      exact nomatch hMissing.symm.trans hRow
  · push Not at hNot
    rcases hNot with ⟨hFault, hThere⟩
    rcases Option.ne_none_iff_exists'.mp hThere with ⟨row, hRow⟩
    unfold saveRevoked
    rw [run_bind_of_ok (run_write_of_ok hFault (by rw [hRow]))]
    refine (allOrNothing_recordEvent ?_).trans ?_
    · rfl
    rw [revoked_eq_self_iff hRow]
    constructor
    · rintro (hRevoked | hRecords)
      · refine .unchanged ?_
        intro other hOther
        cases Option.mem_unique hRow hOther
        exact hRevoked
      · exact .recorded hRecords
    · intro hGuarded
      cases hGuarded with
      | revoked hRevoked => exact absurd hRevoked hHeld
      | notWritten hWrites => exact absurd hFault hWrites
      | unchanged hSame => exact .inl (hSame row hRow)
      | recorded hRecords => exact .inr hRecords

---- Issuing A Lease

theorem ensured_eq_self_iff : ensured db = db ↔ db.sensitiveWindowMinutes ≠ none := by
  constructor
  · intro hSame
    rw [← hSame]
    exact Option.some_ne_none _
  · intro hSome
    rcases Option.ne_none_iff_exists'.mp hSome with ⟨minutes, hMinutes⟩
    rcases db
    subst hMinutes
    rfl

variable {lease : SecretLease}

theorem run_insertLease_of_not
    (hNot : faults .secretLease ≠ none ∨ db.leases.get lease.tokenHash ≠ none) :
    ∃ failure, (insertLease lease).run faults db = (.error failure, db) := by
  by_cases hFault : faults .secretLease = none
  · have hTaken := hNot.resolve_left (not_not.mpr hFault)
    have hInsert : db.leases.insert lease = none := by
      cases hResult : db.leases.insert lease with
      | none => rfl
      | some leases => exact absurd (exists_insert_iff.mp ⟨leases, hResult⟩) hTaken
    refine ⟨.integrityError, run_write_of_error hFault ?_⟩
    rw [hInsert]
    rfl
  · exact run_write_of_fault hFault

variable {leases : Table SecretLease.tokenHash}

theorem authorizingPolicyFor_ensured
    (call : LeaseCall) (credential : Credential) (target : Target) :
    authorizingPolicyFor site moment.now call.user credential target (leaseAction call.purpose)
      call.sourceIp call.mfaVerifiedAt (ensured db) =
      authorizingPolicyFor site moment.now call.user credential target (leaseAction call.purpose)
        call.sourceIp call.mfaVerifiedAt db :=
  rfl

section Creating

variable {call : LeaseCall} {justification : Text} {credential : Credential} {target : Target}

theorem run_createLease_of_not
    (hChecks : leaseChecks call db = .ok (justification, credential, target))
    (hNot : ∀ lease, ¬ Creates site moment faults call db lease) :
    ∃ failure, (createLease site moment call justification credential
      target).run faults (ensured db) = (.error failure, ensured db) := by
  unfold createLease
  rw [run_bind_of_ok run_read, authorizingPolicyFor_ensured]
  cases hAuthorized :
    authorizingPolicyFor site moment.now call.user credential target (leaseAction call.purpose)
      call.sourceIp call.mfaVerifiedAt db with
  | error failure => exact ⟨failure, run_bind_of_error (run_check _)⟩
  | ok authorized =>
    rcases authorized with ⟨policy, accessRequest⟩
    rw [run_bind_of_ok (run_check _)]
    have hNew : newLease site moment call db =
      .ok (leaseRow site moment call credential policy accessRequest justification) := by
      rw [newLease_of_checks hChecks, hAuthorized]
      rfl
    have hKept : faults .secretLease ≠ none ∨ (ensured db).leases.get
      (leaseRow site moment call credential policy accessRequest justification).tokenHash ≠
      none := by
      by_contra hFree
      push Not at hFree
      exact hNot _ ⟨hNew, hFree.1, hFree.2⟩
    rcases run_insertLease_of_not hKept with ⟨failure, hRun⟩
    exact ⟨failure, run_bind_of_error hRun⟩

theorem run_insertLease (hFault : faults .secretLease = none)
    (hInsert : db.leases.insert lease = some leases) :
    (insertLease lease).run faults db = (.ok (), { db with leases := leases }) := by
  apply run_write_of_ok hFault
  rw [hInsert]
  rfl

theorem run_createLease (hChecks : leaseChecks call db = .ok (justification, credential, target))
    (hCreates : Creates site moment faults call db lease) :
    ∃ leases, db.leases.insert lease = some leases ∧
      (createLease site moment call justification credential target).run faults (ensured db) =
        (do
          recordEvent site moment (some call.user) "credential.secret_lease.issued"
            leaseResourceType (Uuid.str lease.id)
            (leaseMetadata lease) call.sourceIp
          return lease : Procedure SecretLease).run faults
            { ensured db with leases := leases } := by
  rcases hCreates with ⟨hNew, hFault, hFree⟩
  rcases exists_insert_iff.mpr hFree with ⟨leases, hInsert⟩
  refine ⟨leases, hInsert, ?_⟩
  rw [newLease_of_checks hChecks] at hNew
  rcases bind_eq_ok_iff.mp hNew with ⟨⟨policy, accessRequest⟩, hAuthorized, hRow⟩
  rw [pure_eq_ok_iff] at hRow
  subst hRow
  unfold createLease
  rw [run_bind_of_ok run_read, authorizingPolicyFor_ensured, hAuthorized,
    run_bind_of_ok (run_check _)]
  exact run_bind_of_ok (run_insertLease hFault hInsert)

end Creating

theorem allOrNothing_error_iff {failure : Failure} :
    AllOrNothing (.error failure, middle) db ↔ middle = db := by
  constructor
  · intro hAll
    exact hAll.raises failure rfl
  · intro hSame
    exact allOrNothing_of_same hSame

theorem insert_ne_self (hInsert : db.leases.insert lease = some leases) :
    { ensured db with leases := leases } ≠ db := by
  intro hSame
  have hRows : leases.rows = db.leases.rows := congrArg (fun db => db.leases.rows) hSame
  rw [(insert_eq_some_iff.mp hInsert).2] at hRows
  simp at hRows

theorem IssueGuarded.cases {call : LeaseCall} {checked : Text × Credential × Target}
    (hGuarded : IssueGuarded site moment faults call db)
    (hChecks : leaseChecks call db = .ok checked)
    (hFirst : db.sensitiveWindowMinutes = none → faults .platformSecurityPolicy = none) :
    (db.sensitiveWindowMinutes ≠ none ∧ ∀ lease, ¬ Creates site moment faults call db lease) ∨
      ∃ lease, Creates site moment faults call db lease ∧
        Records faults site moment (some call.user) "credential.secret_lease.issued"
          leaseResourceType (Uuid.str lease.id)
          (leaseMetadata lease) call.sourceIp db := by
  cases hGuarded with
  | refused hRefused => exact nomatch hChecks.symm.trans hRefused
  | withoutPolicy hNone hFault => exact absurd (hFirst hNone) hFault
  | notCreated hPolicy hNot => exact .inl ⟨hPolicy, hNot⟩
  | recorded hCreates hRecords => exact .inr ⟨_, hCreates, hRecords⟩

theorem allOrNothing_issueSecretLease (call : LeaseCall) :
    AllOrNothing (outcome ((issueSecretLease site moment call).run faults db)) db ↔
      IssueGuarded site moment faults call db := by
  unfold issueSecretLease
  rw [run_bind_of_ok run_read]
  cases hChecks : leaseChecks call db with
  | error failure =>
    exact ⟨fun _ => .refused hChecks, fun _ => allOrNothing_of_same rfl⟩
  | ok checked =>
    rcases checked with ⟨justification, credential, target⟩
    rw [run_bind_of_ok (run_check _)]
    by_cases hFirst : db.sensitiveWindowMinutes = none ∧ faults .platformSecurityPolicy ≠ none
    · rcases run_write_of_fault hFirst.2 with ⟨failure, hRun⟩
      unfold ensurePolicy
      rw [run_bind_of_error (by rw [run, if_pos hFirst.1, hRun])]
      exact ⟨fun _ => .withoutPolicy hFirst.1 hFirst.2, fun _ => allOrNothing_of_same rfl⟩
    push Not at hFirst
    rw [run_bind_of_ok (run_ensurePolicy hFirst)]
    by_cases hCreates : ∃ lease, Creates site moment faults call db lease
    · rcases hCreates with ⟨lease, hCreates⟩
      rcases run_createLease hChecks hCreates with ⟨leases, hInsert, hRun⟩
      rw [hRun]
      refine (allOrNothing_recordEvent ?_).trans ?_
      · rfl
      constructor
      · intro hOr
        exact .recorded hCreates (hOr.resolve_left (insert_ne_self hInsert))
      · intro hGuarded
        rcases hGuarded.cases hChecks hFirst with ⟨_, hNot⟩ | ⟨other, hOther, hRecords⟩
        · exact absurd hCreates (hNot lease)
        · have hSame := hOther.permitted.symm.trans hCreates.permitted
          cases hSame
          exact .inr hRecords
    · push Not at hCreates
      rcases run_createLease_of_not hChecks hCreates with ⟨failure, hRun⟩
      rw [hRun]
      refine allOrNothing_error_iff.trans ?_
      rw [ensured_eq_self_iff]
      constructor
      · intro hPolicy
        exact .notCreated hPolicy hCreates
      · intro hGuarded
        rcases hGuarded.cases hChecks hFirst with ⟨hPolicy, _⟩ | ⟨lease, hCreated, _⟩
        · exact hPolicy
        · exact absurd hCreated (hCreates lease)

end Leases

---- All Or Nothing

/-
  With faults at any writes: an operation that raises leaves all tables as they were, and one that
  returns with a change has appended one event, exactly if it is guarded.
-/
theorem all_or_nothing_iff (site : Site) (moment : Moment) (faults : Point → Option Failure)
    (operation : Operation) (db : Database) :
    AllOrNothing (operation.perform site moment faults db) db ↔
      operation.Guarded site moment faults db := by
  cases operation with
  | issueSecretLease call => exact allOrNothing_issueSecretLease call
  | revokeSecretLease held actor => exact allOrNothing_revokeSecretLease held actor
  | consumeSecretLease token expectedUser expectedPurpose =>
    refine allOrNothing_atomic (transaction_consumeSecretLease _ _ _) ?_
    intro _ _ hRun
    exact .inr (appends_of_consumeSecretLease hRun)
  | session call =>
    cases call with
    | issueSessionTicket call =>
      refine allOrNothing_atomic (transaction_issueSessionTicket _) ?_
      intro _ _ hRun
      exact .inr (appends_of_issueSessionTicket hRun).of_ensured
    | startWebSession call =>
      refine allOrNothing_atomic (transaction_startWebSession _) ?_
      intro _ _ hRun
      exact .inr (appends_of_startWebSession hRun).of_ensured
    | consumeSessionTicket sessionId token user sourceIp =>
      refine allOrNothing_atomic (transaction_consumeSessionTicket _ _ _ _) ?_
      intro _ _ hRun
      exact .inr (appends_of_consumeSessionTicket hRun)
    | closeSession sessionId actor reason failed =>
      refine allOrNothing_atomic (transaction_closeSession _ _ _ _) ?_
      intro _ _ hRun
      exact appends_of_closeSession hRun
    | requestSessionTermination sessionId seenStatus actor =>
      refine allOrNothing_atomic (transaction_requestSessionTermination _ _ _) ?_
      intro _ _ hRun
      exact appends_of_requestSessionTermination hRun
  | decideAccessRequest call =>
    refine allOrNothing_atomic (transaction_decideAccessRequest _) ?_
    intro _ _ hRun
    exact .inr (appends_of_decideAccessRequest hRun)
  | queueRotation call =>
    refine allOrNothing_atomic (transaction_queueRotation _) ?_
    intro _ _ hRun
    exact appends_of_queueRotation hRun

def unsignedSite : Site :=
  { sampleSite with
    services :=
      { plainServices with
        keyring :=
          { plainServices.keyring with
            sign := fun _ => .error .operationFailed } } }

/- An unsigned lease stays, and so does its revocation. A refused lease leaves a policy row. -/
theorem unsigned_lease_stays :
    ∃ issued revoked refused, (Operation.issueSecretLease sampleLeaseCall).perform
      unsignedSite sampleMoment noFaults
      (sampleDatabase sampleCredential samplePolicies) = (.error .keyringError, issued) ∧
      issued.leases.rows.length = 1 ∧ issued.audit.events = [] ∧
      (∃ held, issued.leases.rows = [held] ∧
        (Operation.revokeSecretLease held sampleUser).perform unsignedSite
          sampleMoment noFaults issued = (.error .keyringError, revoked) ∧
        revoked.leases.rows = [revokedLease 0 held]) ∧
      (Operation.issueSecretLease { sampleLeaseCall with purpose := .reveal }).perform
        sampleSite sampleMoment
        noFaults
        (sampleDatabase sampleCredential samplePolicies) = (.error noAuthorization, refused) ∧
      refused.sensitiveWindowMinutes = some 5 :=
  ⟨_, _, _, rfl, rfl, rfl, ⟨_, rfl, rfl, rfl⟩, rfl, rfl⟩

end PamOlive.Statements
