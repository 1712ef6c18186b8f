import PamOlive.Foundations.Transition
import PamOlive.Sessions.Effects

/-
  The quota of concurrent sessions.

  A place is taken by an open session, or by one that waits for a live ticket. The transactions on
  sessions come in any order, at a clock that does not go back; the rest of the database may be
  edited, as long as the limit stays. A redeemed ticket keeps the place of its session, so the
  second count never refuses.
-/

---- Sequences Of Transactions

namespace PamOlive.Sessions

open Foundations Table List

/- The transactions that write sessions or tickets. -/
inductive SessionCall where
  | issueSessionTicket (call : OpenCall)
  | startWebSession (call : OpenCall)
  | consumeSessionTicket (sessionId : Uuid) (token : Text) (user : UserId)
    (sourceIp : Option IpText)
  | closeSession (sessionId : Uuid) (actor : Option UserId) (reason : Text) (failed : Bool)
  | requestSessionTermination (sessionId : Uuid) (seenStatus : SessionStatus) (actor : UserId)

def perform (site : Site) (moment : Moment) (call : SessionCall)
    (db : Database) : Except Failure Database :=
  match call with
  | .issueSessionTicket call => (issueSessionTicket site moment call db).map Prod.snd
  | .startWebSession call => (startWebSession site moment call db).map Prod.snd
  | .consumeSessionTicket sessionId token user sourceIp =>
    (consumeSessionTicket site moment sessionId token user sourceIp db).map Prod.snd
  | .closeSession sessionId actor reason failed =>
    (closeSession site moment sessionId actor reason failed db).map Prod.snd
  | .requestSessionTermination sessionId seenStatus actor =>
    (requestSessionTermination site moment sessionId seenStatus actor db).map Prod.snd

inductive SessionLabel where
  | call (site : Site) (moment : Moment) (call : SessionCall)
  | edit (db : Database)

/- A transaction is committed or refused; an edit leaves sessions and tickets alone. -/
inductive SessionStep (db : Database) : SessionLabel → Database → Prop
  | committed {after : Database} {site : Site} {moment : Moment} {call : SessionCall}
    (hPerform : perform site moment call db = .ok after) :
    SessionStep db (.call site moment call) after
  | refused {site : Site} {moment : Moment} {call : SessionCall} {failure : Failure}
    (hPerform : perform site moment call db = .error failure) :
    SessionStep db (.call site moment call) db
  | edited {after : Database} (hSessions : after.sessions = db.sessions)
    (hTickets : after.tickets = db.tickets) :
    SessionStep db (.edit after) after

structure QuotaState where
  db : Database
  clock : Int

/- The policy of a quota, if it is there, has this limit. -/
def HasLimit (key : QuotaKey) (limit : Nat) (db : Database) : Prop :=
  ∀ policy, db.policies.get key.policyId = some policy → policy.maxConcurrentSessions = limit

/- The clock does not go back, and an edit keeps the limit. -/
inductive QuotaStep (key : QuotaKey) (limit : Nat) (state : QuotaState) :
    SessionLabel → QuotaState → Prop
  | called
    {site : Site} {moment : Moment} {call : SessionCall} {after : Database}
    (hClock : state.clock ≤ moment.now)
    (hStep : SessionStep state.db (.call site moment call) after) :
    QuotaStep key limit state (.call site moment call) ⟨after, moment.now⟩
  | edited {after : Database} (hStep : SessionStep state.db (.edit after) after)
    (hLimit : HasLimit key limit after) :
    QuotaStep key limit state (.edit after) ⟨after, state.clock⟩

/- Start before the first session, with the limit in place. -/
def quotaSystem (key : QuotaKey) (limit : Nat) : TransitionSystem QuotaState SessionLabel where
  init := fun state =>
    state.db.sessions.rows = [] ∧ state.db.tickets.rows = [] ∧ HasLimit key limit state.db
  step := QuotaStep key limit

---- Counting

variable {key : QuotaKey} {limit : Nat} {now later : Int} {session : PrivilegedSession}
variable {tickets tickets' : Table SessionTicket.sessionId} {ticket : SessionTicket}

theorem occupies_eq_true_iff :
    occupies key tickets now session = true ↔ key.includes session = true ∧
      ((session.status = .active ∨ session.status = .terminating) ∨ session.status = .created ∧
        ∃ ticket, tickets.get session.id = some ticket ∧ isLive now ticket = true) := by
  unfold occupies isOpen isReserved
  simp only [Bool.and_eq_true, Bool.or_eq_true, decide_eq_true_eq, Option.any_eq_true]

theorem occupies_of_isOpen (hKey : key.includes session = true) (hOpen : isOpen session = true) :
    occupies key tickets now session = true := by
  unfold occupies
  rw [hKey, hOpen]
  rfl

theorem isLive_of_le (hLater : now ≤ later) (hLive : isLive later ticket = true) :
    isLive now ticket = true := by
  unfold isLive at hLive ⊢
  simp only [decide_eq_true_eq] at hLive ⊢
  exact ⟨Int.lt_of_le_of_lt hLater hLive.1, hLive.2⟩

theorem occupies_of_le (hLater : now ≤ later)
    (hOccupies : occupies key tickets later session = true) :
    occupies key tickets now session = true := by
  rw [occupies_eq_true_iff] at hOccupies ⊢
  rcases hOccupies with ⟨hKey, hOpen | ⟨hCreated, ticket, hGet, hLive⟩⟩
  · exact ⟨hKey, .inl hOpen⟩
  · exact ⟨hKey, .inr ⟨hCreated, ticket, hGet, isLive_of_le hLater hLive⟩⟩

variable {db : Database}

theorem activeSessionCount_of_le (hLater : now ≤ later) :
    activeSessionCount key later db ≤ activeSessionCount key now db := by
  apply countP_mono_left
  intro session _ hOccupies
  exact occupies_of_le hLater hOccupies

theorem occupies_congr (hTicket : tickets'.get session.id = tickets.get session.id) :
    occupies key tickets' now session = occupies key tickets now session := by
  unfold occupies isReserved
  rw [hTicket]

variable {sessions : Table PrivilegedSession.id}

theorem countP_insert_le (hInsert : db.sessions.insert session = some sessions)
    (hTickets : ∀ id ≠ session.id, tickets.get id = db.tickets.get id) :
    sessions.rows.countP (occupies key tickets now) ≤ activeSessionCount key now db +
      if key.includes session = true then 1 else 0 := by
  rcases insert_eq_some_iff.mp hInsert with ⟨hFresh, hRows⟩
  rw [hRows, countP_append]
  apply Nat.add_le_add
  · apply countP_mono_left
    intro old hOld hOccupies
    have hOther : old.id ≠ session.id := by
      intro hSame
      exact hFresh (hSame ▸ mem_map_of_mem hOld)
    rw [occupies_congr (hTickets old.id hOther)] at hOccupies
    exact hOccupies
  · cases hOccupies : occupies key tickets now session with
    | true =>
      have hKey := (occupies_eq_true_iff.mp hOccupies).1
      rw [if_pos hKey]
      simp [hOccupies]
    | false => simp [hOccupies]

---- One Step

structure WithinLimit (key : QuotaKey) (limit : Nat) (state : QuotaState) : Prop where
  hasLimit : HasLimit key limit state.db
  count : activeSessionCount key state.clock state.db ≤ limit

variable {call : OpenCall} {sessionId : Uuid} {now' : Int} {site : Site} {moment : Moment}

theorem count_of_reserved {refusal : Failure}
    {credential : Credential} {target : Target} {policy : AccessPolicy}
    {accessRequest : Option AccessRequest} {duration : Nat}
    (hLimit : HasLimit key limit db) (hTarget : db.targets.get credential.targetId = some target)
    (hPlace : reservePlace site moment call refusal credential
      target db = .ok (policy, accessRequest, duration))
    (hUser : session.userId = call.user)
    (hTargetId : session.targetId = credential.targetId)
    (hPolicyId : session.policyId = some policy.id)
    (hKey : key.includes session = true) : activeSessionCount key moment.now db < limit := by
  rcases reservePlace_eq_ok_iff.mp hPlace with ⟨_, hPolicy, hCount, _⟩
  unfold QuotaKey.includes at hKey
  rw [hUser, hTargetId, hPolicyId] at hKey
  simp only [decide_eq_true_eq, Option.some.injEq] at hKey
  rcases hKey with ⟨hUser, hTargetId, hPolicyId⟩
  have hSameKey : key = ⟨call.user, target.id, policy.id⟩ := by
    have hId := (get_eq_some_iff.mp hTarget).2
    rw [hId, hUser, hTargetId, hPolicyId]
  have hMax : policy.maxConcurrentSessions = limit := by
    apply hLimit
    rw [← hPolicyId]
    exact hPolicy
  rw [hSameKey, ← hMax]
  exact hCount

theorem count_le_of_insert (hInsert : db.sessions.insert session = some sessions)
    (hTickets : ∀ id ≠ session.id, tickets.get id = db.tickets.get id)
    (hCount : activeSessionCount key now db ≤ limit)
    (hFree : key.includes session = true → activeSessionCount key now db < limit) :
    sessions.rows.countP (occupies key tickets now) ≤ limit := by
  apply Nat.le_trans (countP_insert_le hInsert hTickets)
  split
  · rename_i hKey
    exact hFree hKey
  · exact hCount

/- A change of one session that takes no place keeps the count. -/
theorem count_le_of_modify {after : Database} (change : PrivilegedSession → PrivilegedSession)
    (hKey : ∀ row, (change row).id = row.id) (hSession : db.sessions.get sessionId = some session)
    (hSessions : after.sessions = db.sessions.modify sessionId change hKey)
    (hTickets : ∀ id ≠ sessionId, after.tickets.get id = db.tickets.get id)
    (hChange : occupies key after.tickets now (change session) = true →
      occupies key db.tickets now session = true)
    (hCount : activeSessionCount key now db ≤ limit) :
    activeSessionCount key now after ≤ limit := by
  apply Nat.le_trans ?_ hCount
  unfold activeSessionCount
  rw [hSessions]
  refine countP_modify_le hKey ?_ ?_
  · intro row hRow hId hOccupies
    have hGet : db.sessions.get sessionId = some row := get_eq_some_iff.mpr ⟨hRow, hId⟩
    cases Option.mem_unique hSession hGet
    exact hChange hOccupies
  · intro row _ hOther hOccupies
    rw [occupies_congr (hTickets row.id hOther)] at hOccupies
    exact hOccupies

variable {reason : Text} {failed : Bool}

theorem occupies_endedSession :
    occupies key tickets now (endedSession now' reason failed session) = false := by
  unfold occupies isOpen isReserved endedSession
  cases failed with
  | true => simp
  | false => simp

theorem occupies_of_terminatedSession {actor : UserId} (hOpen : isOver session = false)
    (hOccupies : occupies key tickets' now (terminatedSession now' actor session) = true) :
    occupies key tickets now session = true := by
  unfold isOver at hOpen
  simp only [decide_eq_false_iff_not, not_or] at hOpen
  rw [occupies_eq_true_iff] at hOccupies ⊢
  unfold terminatedSession at hOccupies
  cases hStatus : session.status with
  | created => simp [hStatus] at hOccupies
  | active =>
    rw [if_neg (by simp [hStatus])] at hOccupies
    exact ⟨hOccupies.1, .inl (.inl rfl)⟩
  | terminating =>
    rw [if_neg (by simp [hStatus])] at hOccupies
    exact ⟨hOccupies.1, .inl (.inr rfl)⟩
  | closed => exact absurd hStatus hOpen.1
  | failed => exact absurd hStatus hOpen.2

section Transactions

variable {after : Database}

section

variable (hLimit : HasLimit key limit db) (hCount : activeSessionCount key moment.now db ≤ limit)

include hLimit hCount

theorem count_issueSessionTicket_le {issued : PrivilegedSession × SessionTicket}
    (hIssue : issueSessionTicket site moment call db = .ok (issued, after)) :
    activeSessionCount key moment.now after ≤ limit := by
  rcases issued with ⟨session, ticket⟩
  rcases issueSessionTicket_eq_ok hIssue with ⟨credential, target, policy, _, hIssued⟩
  have hSession := hIssued.hasSession
  refine count_le_of_insert hIssued.hasSessions ?_ hCount ?_
  · intro id hOther
    apply get_insert_of_ne (insertTicket_eq_ok_iff.mp hIssued.hasTickets).2
    rw [hSession] at hOther
    rw [hIssued.hasTicket]
    exact hOther
  · apply count_of_reserved hLimit hIssued.hasTarget hIssued.place
    all_goals
      rw [hSession]
      rfl

theorem count_startWebSession_le
    (hStart : startWebSession site moment call db = .ok (session, after)) :
    activeSessionCount key moment.now after ≤ limit := by
  rcases startWebSession_eq_ok hStart with
    ⟨_, credential, target, policy, _, sessions, _, hTarget, hPlace, rfl, hSessions, rfl⟩
  refine count_le_of_insert hSessions ?_ hCount ?_
  · intro id _
    rfl
  · exact count_of_reserved hLimit hTarget hPlace rfl rfl rfl

end

section

variable (hCount : activeSessionCount key moment.now db ≤ limit)

include hCount

theorem count_consumeSessionTicket_le
    {token : Text} {user : UserId} {sourceIp : Option IpText} {opened : PrivilegedSession}
    (hConsume :
      consumeSessionTicket site moment sessionId token user sourceIp db = .ok (opened, after)) :
    activeSessionCount key moment.now after ≤ limit := by
  rcases redeemed_of_consumeSessionTicket hConsume with
    ⟨ticket, session, _, hTicket, hLive, hSession, hCreated, _, rfl⟩
  have hId := (get_eq_some_iff.mp hSession).2
  refine count_le_of_modify (openedSession moment.now) (fun _ => rfl) hSession rfl ?_ ?_ hCount
  · intro id hOther
    exact redeemed_tickets_get_of_ne hOther
  · -- a redeemed ticket keeps the place it had reserved
    intro hOccupies
    have hKey := (occupies_eq_true_iff.mp hOccupies).1
    exact occupies_eq_true_iff.mpr ⟨hKey, .inr ⟨hCreated, ticket, hId ▸ hTicket, hLive⟩⟩

theorem count_closeSession_le {actor : Option UserId} {closed : PrivilegedSession}
    (hClose : closeSession site moment sessionId actor reason failed db = .ok (closed, after)) :
    activeSessionCount key moment.now after ≤ limit := by
  rcases closeSession_eq_ok hClose with ⟨locked, hLocked, ⟨_, rfl⟩ | ⟨_, _, rfl⟩⟩
  · exact hCount
  · refine count_le_of_modify (endedSession moment.now reason failed)
      (fun _ => rfl) hLocked rfl ?_ ?_ hCount
    · intro id _
      rfl
    · intro hOccupies
      rw [occupies_endedSession] at hOccupies
      exact absurd hOccupies Bool.false_ne_true

theorem count_requestSessionTermination_le
    {seenStatus : SessionStatus} {actor : UserId} {result : PrivilegedSession × Bool}
    (hRequest :
      requestSessionTermination site moment sessionId seenStatus actor db = .ok (result, after)) :
    activeSessionCount key moment.now after ≤ limit := by
  rcases requestSessionTermination_eq_ok hRequest with ⟨locked, hLocked, ⟨_, rfl⟩ | ⟨_, hOpen, rfl⟩⟩
  · exact hCount
  refine count_le_of_modify (terminatedSession moment.now actor)
    (terminatedSession_id moment.now actor) hLocked
    rfl ?_ ?_ hCount
  · intro id hOther
    split
    · rw [get_modify_of_ne hOther]
    · rfl
  · exact occupies_of_terminatedSession hOpen

end

theorem count_perform_le {call : SessionCall} (hLimit : HasLimit key limit db)
    (hCount : activeSessionCount key moment.now db ≤ limit)
    (hPerform : perform site moment call db = .ok after) :
    activeSessionCount key moment.now after ≤ limit := by
  cases call with
  | issueSessionTicket call =>
    rcases map_eq_ok_iff.mp hPerform with ⟨_, hIssue, rfl⟩
    exact count_issueSessionTicket_le hLimit hCount hIssue
  | startWebSession call =>
    rcases map_eq_ok_iff.mp hPerform with ⟨_, hStart, rfl⟩
    exact count_startWebSession_le hLimit hCount hStart
  | consumeSessionTicket sessionId token user sourceIp =>
    rcases map_eq_ok_iff.mp hPerform with ⟨_, hConsume, rfl⟩
    exact count_consumeSessionTicket_le hCount hConsume
  | closeSession sessionId actor reason failed =>
    rcases map_eq_ok_iff.mp hPerform with ⟨_, hClose, rfl⟩
    exact count_closeSession_le hCount hClose
  | requestSessionTermination sessionId seen actor =>
    rcases map_eq_ok_iff.mp hPerform with ⟨_, hRequest, rfl⟩
    exact count_requestSessionTermination_le hCount hRequest

end Transactions

theorem policies_perform {call : SessionCall} {after : Database}
    (hPerform : perform site moment call db = .ok after) : after.policies = db.policies := by
  cases call with
  | issueSessionTicket call =>
    rcases map_eq_ok_iff.mp hPerform with ⟨⟨⟨session, ticket⟩, _⟩, hIssue, rfl⟩
    rcases issueSessionTicket_eq_ok hIssue with ⟨_, _, _, _, hIssued⟩
    rw [hIssued.frame]
  | startWebSession call =>
    rcases map_eq_ok_iff.mp hPerform with ⟨⟨session, _⟩, hStart, rfl⟩
    rcases startWebSession_eq_ok hStart with ⟨_, _, _, _, _, _, _, _, _, _, _, rfl⟩
    rfl
  | consumeSessionTicket sessionId token user sourceIp =>
    rcases map_eq_ok_iff.mp hPerform with ⟨⟨opened, _⟩, hConsume, rfl⟩
    rcases redeemed_of_consumeSessionTicket hConsume with ⟨_, _, _, _, _, _, _, _, rfl⟩
    rfl
  | closeSession sessionId actor reason failed =>
    rcases map_eq_ok_iff.mp hPerform with ⟨⟨closed, _⟩, hClose, rfl⟩
    rcases closeSession_eq_ok hClose with ⟨_, _, ⟨_, rfl⟩ | ⟨_, _, rfl⟩⟩ <;> rfl
  | requestSessionTermination sessionId seen actor =>
    rcases map_eq_ok_iff.mp hPerform with ⟨⟨result, _⟩, hRequest, rfl⟩
    rcases requestSessionTermination_eq_ok hRequest with ⟨_, _, ⟨_, rfl⟩ | ⟨_, _, rfl⟩⟩ <;> rfl

variable {state : QuotaState}

theorem WithinLimit.step {after : QuotaState} {label : SessionLabel}
    (hWithin : WithinLimit key limit state)
    (hStep : QuotaStep key limit state label after) : WithinLimit key limit after := by
  cases hStep with
  | called hClock hStep =>
    have hCount := Nat.le_trans (activeSessionCount_of_le hClock) hWithin.count
    cases hStep with
    | committed hPerform =>
      constructor
      · unfold HasLimit
        rw [policies_perform hPerform]
        exact hWithin.hasLimit
      · exact count_perform_le hWithin.hasLimit hCount hPerform
    | refused _ => exact ⟨hWithin.hasLimit, hCount⟩
  | edited hStep hLimit =>
    cases hStep with
    | edited hSessions hTickets =>
      constructor
      · exact hLimit
      · unfold activeSessionCount
        rw [hSessions, hTickets]
        exact hWithin.count

theorem withinLimit_of_reachable
    (hReachable : (quotaSystem key limit).Reachable state) : WithinLimit key limit state := by
  refine hReachable.invariant ?_ ?_
  · intro start hInit
    rcases hInit with ⟨hSessions, _, hLimit⟩
    constructor
    · exact hLimit
    · unfold activeSessionCount
      rw [hSessions]
      exact Nat.zero_le _
  · intro before label after hBefore hStep
    exact hBefore.step hStep

---- The Quota

/- The count at redemption leaves out the place of the session itself. -/
theorem otherOpenCount_lt (hKey : key.includes session = true)
    (hTicket : db.tickets.get session.id = some ticket) (hLive : isLive now ticket = true)
    (hSession : session ∈ db.sessions.rows) (hCreated : session.status = .created) :
    otherOpenCount key session.id db < activeSessionCount key now db := by
  refine countP_lt_of_witness ?_ hSession ?_ ?_
  · intro row _ hOpen
    simp only [Bool.and_eq_true] at hOpen
    exact occupies_of_isOpen hOpen.1.1 hOpen.1.2
  · apply occupies_eq_true_iff.mpr
    exact ⟨hKey, .inr ⟨hCreated, ticket, hTicket, hLive⟩⟩
  · simp

/-
  In every reachable state and at every later instant, the open sessions and those with a live
  ticket are within the limit, and redeeming a ticket is not refused for the quota.
-/
theorem quota_safe {state : QuotaState} (hReachable : (quotaSystem key limit).Reachable state) :
    (∀ now, state.clock ≤ now → activeSessionCount key now state.db ≤ limit) ∧
    ∀ (site : Site) (moment : Moment) (sessionId : Uuid) (token : Text) (user : UserId)
      (sourceIp : Option IpText)
      (session : PrivilegedSession),
      state.clock ≤ moment.now → state.db.sessions.get sessionId = some session →
        key.includes session = true →
          consumeSessionTicket site moment sessionId token user sourceIp state.db ≠
            .error quotaReached := by
  have hWithin := withinLimit_of_reachable hReachable
  have hCount : ∀ now, state.clock ≤ now → activeSessionCount key now state.db ≤ limit := by
    intro now hLater
    exact Nat.le_trans (activeSessionCount_of_le hLater) hWithin.count
  refine ⟨hCount, ?_⟩
  intro site moment sessionId token user sourceIp session hLater hSession hKey hRefused
  rcases consumeSessionTicket_eq_quotaReached hRefused with
    ⟨ticket, session', policy, hTicket, hLive, hSession', hCreated, hPolicyId, hPolicy, hFull⟩
  cases Option.mem_unique hSession hSession'
  rcases get_eq_some_iff.mp hSession with ⟨hMem, rfl⟩
  have hOwn := hKey
  unfold QuotaKey.includes at hOwn
  rw [hPolicyId] at hOwn
  simp only [decide_eq_true_eq, Option.some.injEq] at hOwn
  rcases hOwn with ⟨hUser, hTarget, hPolicyKey⟩
  rw [hUser, hTarget, hPolicyKey] at hFull
  have hMax : policy.maxConcurrentSessions = limit := by
    apply hWithin.hasLimit
    rw [← hPolicyKey]
    exact hPolicy
  have hStrict := otherOpenCount_lt hKey hTicket hLive hMem hCreated
  have hBound := hCount moment.now hLater
  rw [hMax] at hFull
  exact absurd (Nat.lt_of_lt_of_le hStrict hBound) (Nat.not_lt.mpr hFull)

---- A Sample Installation

def sampleSite : Site where
  services := plainServices
  parseAddress := fun _ => none
  parseNetwork := fun _ => none
  localTime := fun _ => ⟨0, 0⟩
  rdpEnabled := false
  sharedKey := replicate 32 120
  encryptToken := fun text => text

def sampleMoment : Moment where
  now := 0
  eventKey := fun number => BitVec.ofNat 128 number
  eventTime := fun _ => sampleTime

def sampleTarget : Target where
  id := 1
  hostname := "host"
  port := 22
  protocol := .ssh
  sshHostKeyPolicy := .trustOnFirstUse
  enabled := true
  rdpSecurity := []
  rdpCertificateFingerprints := []
  rdpServerLayout := []
  rdpResizeMethod := []

def sampleCredential : Credential where
  id := 2
  targetId := 1
  domain := none
  username := "root"
  kind := .password
  encryptedSecret := "secret"
  secretEncryptionKeyId := []
  encryptedTotpSecret := none
  totpEncryptionKeyId := []
  checkoutEnabled := true
  lastCheckedOutAt := none

def samplePolicy : AccessPolicy where
  id := 3
  enabled := true
  userGroups := [⟨true, [sampleUser]⟩]
  targets := [1]
  targetGroups := []
  credentials := []
  timeFrames := []
  actions := [.startSession]
  protocols := []
  requiresApproval := false
  requiresMfa := false
  maxDurationMinutes := 60
  maxConcurrentSessions := 1
  allowClipboardCopy := false
  allowClipboardPaste := false
  commandDenyPatterns := []
  commandAlertPatterns := []
  validFrom := none
  validUntil := none
  weekdays := []
  accessStartTime := none
  accessEndTime := none
  sourceCidrs := []

def sampleDatabase (credential : Credential) (policies : Table AccessPolicy.id) : Database where
  targets := ⟨[sampleTarget], by decide⟩
  credentials := ⟨[credential], by simp⟩
  policies := policies
  hostKeys := []
  accessRequests := []
  mfaDevices :=
    [{ id := 7
       userId := sampleUser
       kind := .totp
       confirmed := true }]
  sensitiveWindowMinutes := none
  sessions := .empty
  tickets := .empty
  leases := .empty
  audit := .empty

def sampleOpenCall : OpenCall where
  user := sampleUser
  credentialId := 2
  justification := "maintenance"
  lifetimeSeconds := 60
  sourceIp := none
  mfaVerifiedAt := none
  sessionId := 4
  token := "ticket"

def samplePolicies : Table AccessPolicy.id := ⟨[samplePolicy], by decide⟩

def sampleIssued : Except Failure Database :=
  perform sampleSite sampleMoment (.issueSessionTicket sampleOpenCall)
    (sampleDatabase sampleCredential samplePolicies)

def sampleRedemption : SessionCall := .consumeSessionTicket 4 "ticket" sampleUser none

/- The ticket of the sample installation is issued and redeemed. -/
structure SampleRedeemed (issued redeemed : Database) (waiting session : PrivilegedSession) :
    Prop where
  issues : sampleIssued = .ok issued
  waits : issued.sessions.get 4 = some waiting
  redeems : perform sampleSite sampleMoment sampleRedemption issued = .ok redeemed
  opens : redeemed.sessions.get 4 = some session
  isOpen : isOpen session = true

theorem quota_safe_sample :
    ∃ db, sampleIssued = .ok db ∧ (quotaSystem ⟨1, 1, 3⟩ 1).Reachable ⟨db, 0⟩ ∧
        activeSessionCount ⟨1, 1, 3⟩ 0 db = 1 ∧
        (∀ now, 0 ≤ now → activeSessionCount ⟨1, 1, 3⟩ now db ≤ 1) ∧
        consumeSessionTicket sampleSite sampleMoment 4 "ticket" 1 none db ≠
          .error quotaReached := by
  have hIssued : ∃ db, sampleIssued = .ok db := ⟨_, rfl⟩
  rcases hIssued with ⟨db, hDb⟩
  have hReachable : (quotaSystem ⟨1, 1, 3⟩ 1).Reachable ⟨db, 0⟩ := by
    refine ⟨⟨sampleDatabase sampleCredential samplePolicies,
      0⟩, [.call sampleSite sampleMoment (.issueSessionTicket sampleOpenCall)], ?_, ?_⟩
    · refine ⟨rfl, rfl, ?_⟩
      intro policy hPolicy
      rcases get_eq_some_iff.mp hPolicy with ⟨hMem, _⟩
      rw [mem_singleton.mp hMem]
      rfl
    · exact .cons (.called le_rfl (.committed hDb)) (.nil _)
  have hSafe := quota_safe hReachable
  cases hDb
  refine ⟨_, rfl, hReachable, rfl, hSafe.1, ?_⟩
  exact hSafe.2 sampleSite sampleMoment 4 "ticket" 1 none _ le_rfl rfl rfl

end PamOlive.Sessions
