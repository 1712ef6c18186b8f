import PamOlive.Api.Views

/-
  Whether one-time codes are shown without an approval.

  The secret of a credential is released under a policy whose approval rule is satisfied, its codes
  on actions alone.
-/

---- Approvals

namespace PamOlive.Api

open Foundations Accounts Policies Sessions Vault

/- An approved request that is within its duration. -/
def HasApproval (now : Int) (user : UserId) (targetId policyId : Uuid) (db : Database) : Prop :=
  ∃ accessRequest ∈ db.accessRequests, accessRequest.requesterId = user ∧
    accessRequest.targetId = targetId ∧ accessRequest.policyId = policyId ∧
    accessRequest.status = .approved ∧ now < approvedUntil accessRequest

section

variable (web : WebSite) (now : Int) (request : CredentialRequest)

/- A current policy of the user grants codes of the target. -/
structure GrantsTotp (target : Target) (db : Database) (policy : AccessPolicy) : Prop where
  ofUser : policy ∈ policiesForUser request.user db
  isCurrent : policyIsCurrent web.toSite policy now request.clientIp = true
  revealTotp : Action.revealTotp ∈ policy.actions
  coversProtocol : coversProtocol policy target.protocol = true
  coversTarget : coversTarget policy target.id = true

def TotpApproval (target : Target) (db : Database) : Prop :=
  ∃ policy, GrantsTotp web now request target db policy ∧
    (policy.requiresApproval = false ∨ HasApproval now request.user target.id policy.id db)

/- The approval for the target of the credential. -/
def IsApproved (db : Database) : Prop :=
  OnRows request db fun _ target => TotpApproval web now request target db

end

/- Neither view shows a code without an approval. -/
def TotpApproved (web : WebSite) (moment : Moment) (request : CredentialRequest)
    (state : WebState) : Prop :=
  ShownOnlyIf web moment request state (IsApproved web moment.now request state.db)

---- When A Code Is Refreshed

structure RefreshesCode (web : WebSite) (now : Int) (request : CredentialRequest) (state : WebState)
    (credential : Credential) (target : Target) : Prop where
  recentMfa : sensitiveMfaRequired web.bypassMfa now refreshLabel
    request.toWebRequest state.session state.db = none
  hasCredential : state.db.credentials.get request.credentialId = some credential
  hasTarget : state.db.targets.get credential.targetId = some target
  isGranted : wholeSeconds now ≤ state.session.secretGrant credential.id
  inScope : credentialAllowsAction web.toSite request.user
    credential target .revealTotp request.clientIp now
    state.db = true
  code : ∃ token code,
    heldTotpSecret credential = some token ∧ codeOf web now (some now) credential token = .ok code

variable {web : WebSite} {moment : Moment} {now : Int} {request : CredentialRequest}
variable {state : WebState}

theorem targetCredentialTotp_returns_iff :
    (∃ answer, targetCredentialTotp web now request state = .ok answer) ↔
      ∃ credential target, RefreshesCode web now request state credential target := by
  unfold targetCredentialTotp
  simp only [bind_eq_ok_iff, found_eq_ok_iff, exists_unit_iff, require_eq_ok_iff, Prod.exists,
    pure_eq_ok_iff, requireRecentMfa_eq_ok_iff, credentialAndTarget_eq_ok_iff]
  constructor
  · rintro ⟨_, hMfa, credential, target, ⟨hCredential, hTarget⟩, hGrant, token, hToken, hAllowed,
      code, hCode, _⟩
    exact ⟨credential, target,
      { recentMfa := hMfa
        hasCredential := hCredential
        hasTarget := hTarget
        isGranted := hGrant
        inScope := hAllowed
        code := ⟨token, code, hToken, hCode⟩ }⟩
  · rintro ⟨credential, target, hRefreshes⟩
    rcases hRefreshes.code with ⟨token, code, hToken, hCode⟩
    exact ⟨_, hRefreshes.recentMfa, credential, target,
      ⟨hRefreshes.hasCredential, hRefreshes.hasTarget⟩, hRefreshes.isGranted, token, hToken,
      hRefreshes.inScope, code, hCode, rfl⟩

---- Codes And Approvals

/-
  The approval rule is respected exactly when it holds in every state in which a view gets to a
  code.
-/
theorem totp_approved_iff
    (web : WebSite) (moment : Moment) (request : CredentialRequest) (state : WebState) :
    TotpApproved web moment request state ↔
      ∀ credential target, RevealsCode web moment request state credential target ∨
            RefreshesCode web moment.now request state credential target →
          TotpApproval web moment.now request target state.db := by
  constructor
  · rintro hApproved credential target (hReveals | hRefreshes)
    · rcases hReveals.revealTargetCredential with ⟨page, after, code, hPage, hCode⟩
      exact (hApproved.revealed page after code hPage hCode).of_get
        hReveals.hasCredential hReveals.hasTarget
    · rcases targetCredentialTotp_returns_iff.mpr ⟨credential, target, hRefreshes⟩ with
        ⟨answer, hAnswer⟩
      exact (hApproved.refreshed answer hAnswer).of_get
        hRefreshes.hasCredential hRefreshes.hasTarget
  · intro hApproval
    constructor
    · intro page after code hPage hCode
      rcases revealsCode_of_revealTargetCredential hPage hCode with ⟨credential, target, hReveals⟩
      exact ⟨credential, target, hReveals.hasCredential, hReveals.hasTarget,
        hApproval credential target (.inl hReveals)⟩
    · intro answer hAnswer
      rcases targetCredentialTotp_returns_iff.mp ⟨answer, hAnswer⟩ with
        ⟨credential, target, hRefreshes⟩
      exact ⟨credential, target, hRefreshes.hasCredential, hRefreshes.hasTarget,
        hApproval credential target (.inr hRefreshes)⟩

def approvalPolicies : Table AccessPolicy.id :=
  ⟨[{ samplePolicy with actions := [.viewSecret] }, { samplePolicy with
      id := 6
      actions := [.revealTotp]
      requiresApproval := true }], by decide⟩

/- No request was ever made; a refresh is still granted. -/
def unapprovedState : WebState where
  session := ⟨some 0, [(2, 120)]⟩
  db := sampleDatabase totpCredential approvalPolicies

/- Both views show a code that nobody approved. -/
theorem unapproved_code_shown : (∃ page after, revealTargetCredential sampleWeb sampleMoment
    sampleReveal unapprovedState = (.ok page, after) ∧
    page.totpCode = some (Text.ofString "734055")) ∧
    (∃ answer, targetCredentialTotp sampleWeb sampleMoment.now
      sampleReveal unapprovedState = .ok answer ∧ answer.code = Text.ofString "734055") ∧
    ¬ IsApproved sampleWeb sampleMoment.now sampleReveal unapprovedState.db := by
  refine ⟨⟨_, _, rfl, rfl⟩, ⟨_, rfl, rfl⟩, ?_⟩
  rintro ⟨_, target, _, _, policy, hGrants, hRule⟩
  -- Only the second policy grants codes.
  have hMem : policy ∈ approvalPolicies.rows := List.mem_of_mem_filter hGrants.ofUser
  rcases List.mem_pair.mp hMem with rfl | rfl
  · exact absurd hGrants.revealTotp (by decide)
  · rcases hRule with hFree | ⟨accessRequest, hMem, _⟩
    · exact absurd hFree (by decide)
    · exact absurd hMem List.not_mem_nil

end PamOlive.Api
