import PamOlive.Foundations.Fallback
import PamOlive.Sessions.DisabledTarget
import PamOlive.Vault.Nesting

/-
  Whether the order of the policies matters for a ticket.

  One function chooses the first policy that authorizes, another looks for a free place under that
  policy only. The order of the rows decides, which no query fixes.
-/

---- The Chosen Policy

namespace PamOlive.Sessions

open Foundations Vault List

section

variable (site : Site) (moment : Moment) (call : OpenCall) (db : Database)

def Issues : Prop :=
  ∃ result, issueSessionTicket site moment call db = .ok result

def authorizesCall (policy : AccessPolicy) : Bool :=
  match db.credentials.get call.credentialId with
  | none => false
  | some credential =>
    match db.targets.get credential.targetId with
    | none => false
    | some target =>
      authorizes site moment.now call.user credential target .startSession call.sourceIp
        call.mfaVerifiedAt db policy

end

def HasCapacity (moment : Moment) (call : OpenCall) (db : Database) (policy : AccessPolicy) :
    Prop :=
  ∃ credential, db.credentials.get call.credentialId = some credential ∧
    activeSessionCount ⟨call.user, credential.targetId, policy.id⟩ moment.now db <
      policy.maxConcurrentSessions

/- What else is asked for; only the event names the policy. -/
structure Opens
    (site : Site) (moment : Moment) (call : OpenCall) (db : Database) (justification : Text)
    (credential : Credential) (target : Target) : Prop where
  isJustified : normalizeJustification call.justification = .ok justification
  hasCredential : db.credentials.get call.credentialId = some credential
  hasTarget : db.targets.get credential.targetId = some target
  isFresh : db.sessions.get call.sessionId = none
  isInteractive : checkInteractive site call target db = .ok ()
  hasFreshHash : ∀ ticket ∈ db.tickets.rows, ticket.tokenHash ≠ site.services.sha256 call.token
  hasFreshTicket : db.tickets.get call.sessionId = none

/- A ticket can be issued under the policy, once it is chosen. -/
def IssuesUnder (site : Site) (moment : Moment) (call : OpenCall) (db : Database)
    (policy : AccessPolicy) : Prop :=
  HasCapacity moment call db policy ∧
    ∃ justification credential target, Opens site moment call db justification credential target ∧
      OpeningRecorded site moment call db "session.ticket_issued"
        credential target policy justification

variable {site : Site} {moment : Moment} {call : OpenCall} {db : Database}

theorem issues_iff : Issues site moment call db ↔ FirstAccepted (authorizesCall site moment call db)
    (IssuesUnder site moment call db) db.policies.rows := by
  unfold Issues FirstAccepted
  rw [issueSessionTicket_returns_iff]
  constructor
  · rintro ⟨justification, credential, target, policy, accessRequest, hOpening, hInteractive,
    hHash, hTicket, hRecorded⟩
    have hId := (Table.get_eq_some_iff.mp hOpening.hasTarget).2
    refine ⟨policy, ?_, ⟨credential, hOpening.hasCredential, ?_⟩, justification, credential,
      target, ?_, hRecorded⟩
    · unfold authorizesCall
      rw [hOpening.hasCredential]
      dsimp only
      rw [hOpening.hasTarget]
      exact (authorizingPolicyFor_eq_ok_iff_find.mp hOpening.isAuthorized).1
    · rw [← hId]
      exact hOpening.hasPlace
    · exact ⟨hOpening.isJustified, hOpening.hasCredential, hOpening.hasTarget,
      hOpening.isFresh, hInteractive, hHash, hTicket⟩
  · rintro ⟨policy, hFind, ⟨credential', hCredential', hPlace⟩, justification, credential,
    target, hOpens, hRecorded⟩
    rw [hOpens.hasCredential, Option.some.injEq] at hCredential'
    subst hCredential'
    have hId := (Table.get_eq_some_iff.mp hOpens.hasTarget).2
    unfold authorizesCall at hFind
    rw [hOpens.hasCredential] at hFind
    dsimp only at hFind
    rw [hOpens.hasTarget] at hFind
    rw [← hId] at hPlace
    exact ⟨justification, credential, target, policy, _,
      ⟨hOpens.isJustified, hOpens.hasCredential, hOpens.hasTarget,
        authorizingPolicyFor_eq_ok_iff_find.mpr ⟨hFind, rfl⟩, hPlace, hOpens.isFresh⟩,
      hOpens.isInteractive, hOpens.hasFreshHash, hOpens.hasFreshTicket, hRecorded⟩

variable {policy : AccessPolicy}

theorem issuesUnder_iff_hasCapacity {other : AccessPolicy} (hSign : site.CanSign)
    (hOther : IssuesUnder site moment call db other) :
    IssuesUnder site moment call db policy ↔ HasCapacity moment call db policy := by
  rcases hOther with ⟨_, justification, credential, target, hOpens, _⟩
  constructor
  · exact And.left
  · intro hCapacity
    refine ⟨hCapacity, justification, credential, target, hOpens, ?_⟩
    rcases Database.recordEvent_of_canSign hSign moment (some call.user)
      "session.ticket_issued" sessionResourceType (Uuid.str call.sessionId)
      (openingMetadata credential target policy.id justification) call.sourceIp db with
      ⟨audit, hRecord⟩
    exact ⟨_, hRecord⟩

---- Other Orders

theorem IssuesUnder.reordered (policies : Table AccessPolicy.id)
    (hUnder : IssuesUnder site moment call db policy) :
    IssuesUnder site moment call { db with policies := policies } policy := by
  rcases hUnder with ⟨hCapacity, justification, credential, target, ⟨hJustified, hCredential,
    hTarget, hFresh, hInteractive, hHash, hTicket⟩, hRecorded⟩
  exact ⟨hCapacity, justification, credential, target, ⟨hJustified, hCredential, hTarget,
    hFresh, hInteractive, hHash, hTicket⟩, Database.CanRecord.recordEvent (by rfl) hRecorded⟩

theorem issuesUnder_reordered {policies : Table AccessPolicy.id} :
    IssuesUnder site moment call { db with policies := policies } policy ↔
      IssuesUnder site moment call db policy :=
  ⟨fun hUnder => hUnder.reordered db.policies, fun hUnder => hUnder.reordered policies⟩

/-
  The order of the policies never matters for a call exactly if a ticket can be issued under each
  policy that authorizes it, or under none. They differ only by their free places, as long as the
  keyring signs.
-/
theorem ticket_independent_of_order_iff
    (site : Site) (moment : Moment) (call : OpenCall) (db : Database) :
    ((∀ policies : Table AccessPolicy.id, policies.rows.Perm db.policies.rows →
      (Issues site moment call { db with policies := policies } ↔ Issues site moment call db)) ↔
      (∀ policy ∈ db.policies.rows, authorizesCall site moment call db policy = true →
        IssuesUnder site moment call db policy) ∨
        ∀ policy ∈ db.policies.rows, authorizesCall site moment call db policy = true →
          ¬ IssuesUnder site moment call db policy) ∧
      (site.CanSign → ∀ policy other, IssuesUnder site moment call db other →
        (IssuesUnder site moment call db policy ↔ HasCapacity moment call db policy)) := by
  refine ⟨?_, fun hSign policy other hOther => issuesUnder_iff_hasCapacity hSign hOther⟩
  rw [← first_accepted_perm_iff]
  have hIssues :
    ∀ policies : Table AccessPolicy.id, Issues site moment call { db with policies := policies } ↔
      FirstAccepted (authorizesCall site moment call db)
        (IssuesUnder site moment call db) policies.rows := by
    intro policies
    rw [issues_iff]
    unfold FirstAccepted
    simp only [issuesUnder_reordered]
    exact Iff.rfl
  constructor
  · intro hSame rows hPerm
    have hTable := hSame ⟨rows, (hPerm.map _).nodup_iff.mpr db.policies.nodup⟩ hPerm
    rw [hIssues, issues_iff] at hTable
    exact hTable
  · intro hSame policies hPerm
    rw [hIssues, issues_iff]
    exact hSame policies.rows hPerm

def sampleSecond : AccessPolicy := { samplePolicy with id := 6, maxConcurrentSessions := 2 }

def sampleLoaded (policies : Table AccessPolicy.id) : Database :=
  { sampleDatabase sampleCredential policies with
    sessions := ⟨[openedSession 0
      (newSession sampleMoment { sampleOpenCall with sessionId := 5 } sampleCredential
        samplePolicy none 60 [])],
      nodup_singleton _⟩ }

/- Both policies authorize, only the second has a free place: the order decides. -/
theorem order_decides :
    ∃ policies policies' : Table AccessPolicy.id, policies'.rows.Perm policies.rows ∧
      sampleSecond ∈ policies.rows ∧
      authorizesCall sampleSite sampleMoment sampleOpenCall (sampleLoaded policies)
        sampleSecond = true ∧
      HasCapacity sampleMoment sampleOpenCall (sampleLoaded policies) sampleSecond ∧
      issueSessionTicket sampleSite sampleMoment sampleOpenCall (sampleLoaded policies) =
        .error quotaReached ∧
      (issueSessionTicket sampleSite sampleMoment sampleOpenCall
        (sampleLoaded policies')).toOption.isSome = true :=
  ⟨⟨[samplePolicy, sampleSecond], by decide⟩, ⟨[sampleSecond, samplePolicy], by decide⟩,
    Perm.swap _ _ _, mem_cons_of_mem _ (mem_singleton_self _), rfl,
    ⟨sampleCredential, rfl, by decide⟩, rfl, rfl⟩

end PamOlive.Sessions
