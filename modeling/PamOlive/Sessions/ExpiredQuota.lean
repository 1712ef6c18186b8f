import PamOlive.Sessions.ApprovalWindow
import PamOlive.Sessions.DisabledTarget

/-
  Whether expired sessions use up a quota.

  The count looks at the status of a session and never at its expiry. An expired session keeps its
  place as long as it is open, or waits for a ticket that outlives it.
-/

---- Expired Sessions

namespace PamOlive.Sessions

open Foundations Vault Table

def hasExpired (now : Int) (session : PrivilegedSession) : Bool :=
  session.expiresAt.any (fun instant => decide (instant ≤ now))

section

variable (key : QuotaKey) (now : Int) (db : Database)

def Expired : Prop :=
  ∀ session ∈ db.sessions.rows, key.includes session = true → hasExpired now session = true

/- Expired sessions that nobody closed, or whose ticket can still be presented. -/
def lingeringCount : Nat :=
  db.sessions.rows.countP (fun session =>
      hasExpired now session && key.includes session &&
        (isOpen session || isReserved db.tickets now session))

end

theorem activeSessionCount_of_expired {key : QuotaKey} {now : Int} {db : Database}
    (hExpired : Expired key now db) :
    activeSessionCount key now db = lingeringCount key now db := by
  unfold activeSessionCount lingeringCount occupies
  apply List.countP_congr
  intro session hMem
  cases hKey : key.includes session with
  | false => simp
  | true => simp [hExpired session hMem hKey]

---- Refusals

variable {site : Site} {moment : Moment} {call : OpenCall} {db : Database}

def Full (site : Site) (moment : Moment) (call : OpenCall) (credential : Credential)
    (target : Target) (db : Database) : Prop :=
  ∃ policy accessRequest, authorizingPolicyFor site moment.now call.user
    credential target .startSession call.sourceIp
    call.mfaVerifiedAt db = .ok (policy, accessRequest) ∧ policy.maxConcurrentSessions ≤
      activeSessionCount ⟨call.user, target.id, policy.id⟩ moment.now db

theorem reservePlace_eq_refusal_iff {refusal : Failure} {credential : Credential} {target : Target}
    (hOther : refusal ≠ noAuthorization) (hMissing : refusal ≠ .doesNotExist) :
    reservePlace site moment call refusal credential target db = .error refusal ↔
      Full site moment call credential target db := by
  have hRow : ∀ {policy accessRequest}, authorizingPolicyFor site moment.now call.user credential
    target .startSession call.sourceIp call.mfaVerifiedAt db = .ok (policy, accessRequest) →
    db.policies.get policy.id = some policy :=
    fun hPolicy => get_eq_some_iff.mpr ⟨mem_of_authorizingPolicyFor hPolicy, rfl⟩
  unfold reservePlace Full
  simp only [bind_eq_error_iff, found_eq_error_iff, found_eq_ok_iff, require_eq_error_iff,
    exists_unit_iff, Prod.exists, Nat.not_lt, and_true]
  constructor
  · rintro (hNone | ⟨policy, accessRequest, hPolicy, ⟨_, hText⟩ | ⟨row, hGet, hFull | ⟨_, hOk⟩⟩⟩)
    · exact absurd (authorizingPolicyFor_eq_error hNone) hOther
    · exact absurd hText.symm hMissing
    · have hSame : row = policy := Option.some.inj (hGet.symm.trans (hRow hPolicy))
      subst hSame
      exact ⟨row, accessRequest, hPolicy, hFull⟩
    · cases hOk
  · rintro ⟨policy, accessRequest, hPolicy, hFull⟩
    exact .inr ⟨policy, accessRequest, hPolicy, .inr ⟨policy, hRow hPolicy, .inl hFull⟩⟩

theorem checkInteractive_ne_quotaReached (target : Target) :
    checkInteractive site call target db ≠ .error quotaReached := by
  unfold checkInteractive quotaReached
  simp only [ne_eq, require_bind_eq_error_iff, require_eq_error_iff, Failure.permissionDenied.injEq]
  intro hError
  rcases hError with ⟨_, hText⟩ | ⟨_, ⟨_, hText⟩ | ⟨_, ⟨_, hText⟩ | ⟨_, _, hText⟩⟩⟩
  all_goals simp at hText

theorem insertTicket_ne_permissionDenied {ticket : SessionTicket} {message : Text} :
    insertTicket ticket db ≠ .error (.permissionDenied message) := by
  unfold insertTicket
  simp [require_bind_eq_error_iff, found_eq_error_iff]

/- A call that passes the checks before the count finds no place. -/
def FoundFull (site : Site) (moment : Moment) (call : OpenCall) (db : Database)
    (Checked : Target → Prop) : Prop :=
  ∃ justification credential target, normalizeJustification call.justification =
    .ok justification ∧ db.credentials.get call.credentialId = some credential ∧
    db.targets.get credential.targetId = some target ∧ Checked target ∧
    Full site moment call credential target db

theorem issueSessionTicket_eq_quotaReached_iff :
    issueSessionTicket site moment call db = .error quotaReached ↔ FoundFull site moment call db
        (fun target => checkInteractive site call target db = .ok ()) := by
  have hPlace : ∀ credential target, reservePlace site moment call quotaReached
    credential target db = .error quotaReached ↔ Full site moment call credential target db := by
    intro credential target
    apply reservePlace_eq_refusal_iff
    · simp [quotaReached, noAuthorization]
    · simp [quotaReached]
  unfold issueSessionTicket FoundFull
  rw [quotaReached, opening_bind_eq_denied_iff, ← quotaReached]
  simp only [bind_eq_error_iff, exists_unit_iff, checkInteractive_ne_quotaReached, false_or, hPlace]
  -- After the count nothing answers like the quota.
  simp [quotaReached, found_eq_error_iff, insertTicket_ne_permissionDenied,
    Database.recordEvent_ne_denied, pure, Except.pure]

theorem startWebSession_eq_webQuotaReached_iff :
    startWebSession site moment call db = .error webQuotaReached ↔
      FoundFull site moment call db (fun target => target.protocol = .web) := by
  have hPlace : ∀ credential target, reservePlace site moment call webQuotaReached
    credential target db = .error webQuotaReached ↔ Full site moment call credential target db := by
    intro credential target
    apply reservePlace_eq_refusal_iff
    · simp [webQuotaReached, noAuthorization]
    · simp [webQuotaReached]
  unfold startWebSession FoundFull
  rw [webQuotaReached, opening_bind_eq_denied_iff, ← webQuotaReached]
  simp only [bind_eq_error_iff, exists_unit_iff, require_eq_ok_iff, require_eq_error_iff, hPlace]
  simp [webQuotaReached, found_eq_error_iff, Database.recordEvent_ne_denied, pure, Except.pure]

---- Quota And Expiry

variable {credential : Credential} {target : Target} {policy : AccessPolicy}
variable {accessRequest : Option AccessRequest}

theorem full_iff_of_expired (hPolicy :
    authorizingPolicyFor site moment.now call.user credential target .startSession call.sourceIp
      call.mfaVerifiedAt db = .ok (policy, accessRequest))
    (hExpired : Expired ⟨call.user, target.id, policy.id⟩ moment.now db) :
    Full site moment call credential target db ↔ policy.maxConcurrentSessions ≤
      lingeringCount ⟨call.user, target.id, policy.id⟩ moment.now db := by
  rw [← activeSessionCount_of_expired hExpired]
  constructor
  · rintro ⟨first, _, hFirst, hFull⟩
    rw [hPolicy] at hFirst
    cases hFirst
    exact hFull
  · intro hFull
    exact ⟨policy, accessRequest, hPolicy, hFull⟩

/- The checks that come before the count. -/
def TicketChecked (site : Site) (call : OpenCall) (target : Target) (db : Database) : Prop :=
  (∃ justification, normalizeJustification call.justification = .ok justification) ∧
    checkInteractive site call target db = .ok ()

def WebChecked (call : OpenCall) (target : Target) : Prop :=
  (∃ justification, normalizeJustification call.justification = .ok justification) ∧
    target.protocol = .web

/-
  When all sessions of a quota have expired, a new one is not refused for the quota exactly if it
  is refused before, or fewer of them linger than the policy allows.
-/
theorem expired_sessions_free_quota_iff
    (hCredential : db.credentials.get call.credentialId = some credential)
    (hTarget : db.targets.get credential.targetId = some target)
    (hPolicy :
      authorizingPolicyFor site moment.now call.user credential target .startSession call.sourceIp
        call.mfaVerifiedAt db = .ok (policy, accessRequest))
    (hExpired : Expired ⟨call.user, target.id, policy.id⟩ moment.now db) :
    (issueSessionTicket site moment call db ≠ .error quotaReached ↔
      (TicketChecked site call target db → lingeringCount ⟨call.user, target.id, policy.id⟩
        moment.now db < policy.maxConcurrentSessions)) ∧
    (startWebSession site moment call db ≠ .error webQuotaReached ↔ (WebChecked call target →
      lingeringCount ⟨call.user, target.id, policy.id⟩
        moment.now db < policy.maxConcurrentSessions)) := by
  have hFull := full_iff_of_expired hPolicy hExpired
  have hFree : ∀ Checked : Target → Prop, ¬ FoundFull site moment call db Checked ↔
    ((∃ justification, normalizeJustification call.justification = .ok justification) ∧
      Checked target → lingeringCount ⟨call.user, target.id, policy.id⟩ moment.now db <
        policy.maxConcurrentSessions) := by
    intro Checked
    rw [← Nat.not_le, ← hFull]
    constructor
    · rintro hFree ⟨⟨justification, hForm⟩, hChecked⟩ hFull
      exact hFree ⟨justification, credential, target, hForm, hCredential, hTarget, hChecked, hFull⟩
    · rintro hFree ⟨justification, held, place, hForm, hHeld, hPlace, hChecked, hFull⟩
      cases Option.mem_unique hCredential hHeld
      cases Option.mem_unique hTarget hPlace
      exact hFree ⟨⟨justification, hForm⟩, hChecked⟩ hFull
  rw [ne_eq, ne_eq, issueSessionTicket_eq_quotaReached_iff, startWebSession_eq_webQuotaReached_iff]
  exact ⟨hFree _, hFree _⟩

---- An Hour Later

def protocolDatabase (protocol : Protocol) : Database :=
  { sampleDatabase sampleCredential samplePolicies with
    targets := ⟨[{ sampleTarget with protocol := protocol }], by simp⟩ }

def sampleKey : QuotaKey := ⟨sampleUser, 1, 3⟩

def secondOpenCall : OpenCall :=
  { sampleOpenCall with sessionId := 5, token := "second" }

theorem protocolDatabase_init (protocol : Protocol) :
    (quotaSystem sampleKey 1).init ⟨protocolDatabase protocol, 0⟩ := by
  refine ⟨rfl, rfl, ?_⟩
  intro policy hPolicy
  rcases get_eq_some_iff.mp hPolicy with ⟨hMem, _⟩
  rw [List.mem_singleton.mp hMem]
  rfl

theorem expired_of_all {key : QuotaKey} {now : Int}
    (hAll : db.sessions.rows.all (hasExpired now) = true) : Expired key now db := by
  intro session hMem _
  exact List.all_eq_true.mp hAll session hMem

theorem expired_sessions_free_quota_sample :
    ∃ opened closed, perform sampleSite sampleMoment (.startWebSession sampleOpenCall)
      (protocolDatabase .web) = .ok opened ∧
      perform sampleSite sampleMoment (.closeSession 4 none [] false) opened = .ok closed ∧
      Expired sampleKey (minutesLater 60).now closed ∧
      startWebSession sampleSite (minutesLater 60) secondOpenCall closed ≠
        .error webQuotaReached := by
  refine ⟨_, _, rfl, rfl, expired_of_all rfl, ?_⟩
  refine (@expired_sessions_free_quota_iff sampleSite (minutesLater 60) secondOpenCall _
    sampleCredential { sampleTarget with protocol := .web } samplePolicy none ?_ ?_ ?_
    (expired_of_all ?_)).2.mpr fun _ => Nat.zero_lt_one
  all_goals rfl

/- A session that nobody closed keeps its place, and the next one is refused. -/
theorem expired_session_refuses :
    (∃ issued opened, perform sampleSite sampleMoment (.issueSessionTicket sampleOpenCall)
      (protocolDatabase .ssh) = .ok issued ∧ perform sampleSite sampleMoment
        (.consumeSessionTicket 4 "ticket" sampleUser none) issued = .ok opened ∧
      (quotaSystem sampleKey 1).Reachable ⟨opened, 0⟩ ∧
      Expired sampleKey (minutesLater 60).now opened ∧
      issueSessionTicket sampleSite (minutesLater 60) secondOpenCall opened = .error quotaReached) ∧
      ∃ opened, perform sampleSite sampleMoment (.startWebSession sampleOpenCall)
        (protocolDatabase .web) = .ok opened ∧ (quotaSystem sampleKey 1).Reachable ⟨opened, 0⟩ ∧
        Expired sampleKey (minutesLater 60).now opened ∧
        startWebSession sampleSite (minutesLater 60) secondOpenCall opened =
          .error webQuotaReached := by
  constructor
  · refine ⟨_, _, rfl, rfl, ?_, expired_of_all rfl, rfl⟩
    refine ⟨⟨protocolDatabase .ssh, 0⟩, [.call sampleSite sampleMoment
      (.issueSessionTicket sampleOpenCall), .call sampleSite sampleMoment
        (.consumeSessionTicket 4 "ticket" sampleUser none)], protocolDatabase_init .ssh, ?_⟩
    exact .cons (.called le_rfl (.committed rfl)) (.cons (.called le_rfl (.committed rfl)) (.nil _))
  · refine ⟨_, rfl, ?_, expired_of_all rfl, rfl⟩
    refine ⟨⟨protocolDatabase .web, 0⟩,
      [.call sampleSite sampleMoment (.startWebSession sampleOpenCall)],
      protocolDatabase_init .web, ?_⟩
    exact .cons (.called le_rfl (.committed rfl)) (.nil _)

end PamOlive.Sessions
