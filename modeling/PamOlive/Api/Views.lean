import PamOlive.Accounts.SensitiveActions
import PamOlive.Sessions.Quota
import PamOlive.Vault.Totp

/-
  The two views that show one-time codes of a credential.

  `reveal_target_credential` shows a secret with its code, and lets `target_credential_totp`
  refresh the code for two minutes. The first looks at the union of the actions of all policies,
  the second asks for a single policy whose scope has the credential.
-/

---- Requests And Answers

namespace PamOlive.Api

open Foundations Accounts Policies Sessions Vault

/- The settings and primitives that the views use. -/
structure WebSite extends Site where
  totp : TotpPrimitives
  bypassMfa : Bool

/- A request for a credential, with the fresh lease values. -/
structure CredentialRequest extends WebRequest where
  credentialId : Uuid
  justification : Option Text
  leaseId : Uuid
  leaseToken : Text

structure WebState where
  session : BrowserSession
  db : Database

/- Why nothing is shown: MFA, a form with status 400, an exception, or no code. -/
inductive Refusal where
  | stepUp (answer : StepUp)
  | badRequest (message : Text)
  | raised (failure : Failure)
  | totpError
deriving DecidableEq

structure RevealPage where
  username : Text
  password : Text
  totpCode : Option Text
  totpRefreshPath : Text
deriving DecidableEq

/- The content of `_totp_json`. -/
structure TotpAnswer where
  code : Text
  remaining : Int
  period : Int
deriving DecidableEq

/-
  `PrivilegedActionJustificationForm`: stripped, required, bounded, without null, and normalized.
-/
def justificationForm (value : Option Text) : Option Text :=
  let text := Text.strip (value.getD [])
  if text = [] ∨ text.length < minJustificationLength ∨ maxJustificationLength < text.length ∨
    text.contains 0 = true then
    none
  else (normalizeJustification text).toOption

def onDatabase {α : Type} (operation : Database → Except Failure α × Database)
    (state : WebState) : Except Refusal α × WebState :=
  ((operation state.db).1.mapError .raised, { state with db := (operation state.db).2 })

def wholeSeconds (now : Int) : Int := now / 1000000

/- `@require_recent_mfa(action_label)`. -/
def requireRecentMfa (web : WebSite) (now : Int) (actionLabel : Text) (request : CredentialRequest)
    (state : WebState) : Except Refusal Unit :=
  match sensitiveMfaRequired web.bypassMfa now actionLabel
    request.toWebRequest state.session state.db with
  | some answer => .error (.stepUp answer)
  | none => .ok ()

/- `get_object_or_404` with the target of the credential. -/
def credentialAndTarget (credentialId : Uuid) (db : Database) :
    Except Refusal (Credential × Target) := do
  let credential ← found (db.credentials.get credentialId) (.raised .doesNotExist)
  let target ← found (db.targets.get credential.targetId) (.raised .doesNotExist)
  return (credential, target)

/- `credential.encrypted_totp_secret`, unless it is empty. -/
def heldTotpSecret (credential : Credential) : Option Text :=
  credential.encryptedTotpSecret.filter (fun token => token != [])

def codeOf (web : WebSite) (now : Int) (timestamp : Option Int) (credential : Credential)
    (token : Text) : Except Refusal Text := do
  let secret ← (decrypt web.toSite token credential.totpEncryptionKeyId).mapError .raised
  found (totpCode web.totp now timestamp secret) .totpError

---- Revealing A Credential

def revealLabel : Text := "révéler un secret de cible"

structure RevealCheck where
  credential : Credential
  actions : List Action
  justification : Text

def checkReveal (web : WebSite) (now : Int) (request : CredentialRequest)
    (state : WebState) : Except Refusal RevealCheck := do
  requireRecentMfa web now revealLabel request state
  let (credential, target) ← credentialAndTarget request.credentialId state.db
  let actions := actionsForTarget web.toSite request.user target request.clientIp now state.db
  require (Action.viewSecret ∈ actions) (.raised (.permissionDenied []))
  let justification ← found (justificationForm request.justification) (.badRequest (Text.ofString
    "A valid business justification is required before revealing this secret."))
  return ⟨credential, actions, justification⟩

def revealLeaseCall (request : CredentialRequest) (session : BrowserSession)
    (justification : Text) : LeaseCall where
  user := request.user
  credentialId := request.credentialId
  justification := justification
  purpose := .reveal
  lifetimeSeconds := 60
  sourceIp := request.clientIp
  mfaVerifiedAt := session.mfaVerifiedAt
  leaseId := request.leaseId
  token := request.leaseToken

/- The code, if the union of the actions allows it. -/
def showTotp (web : WebSite) (now : Int) (check : RevealCheck) (state : WebState) :
    Except Refusal (Option Text) × WebState :=
  match heldTotpSecret check.credential with
  | none => (.ok none, state)
  | some token =>
    if Action.revealTotp ∈ check.actions then
      match codeOf web now none check.credential token with
      | .error refusal => (.error refusal, state)
      | .ok code =>
        (.ok (some code), { state with
            session := state.session.setSecretGrant check.credential.id (wholeSeconds now + 120) })
    else (.ok none, state)

/- The address of the refresh view, for a code that is shown. -/
def totpRefreshPath (credentialId : Uuid) (code : Option Text) : Text :=
  if code.getD [] = [] then []
  else "/passwords/target/" ++ Uuid.str credentialId ++ "/totp/"

def revealTargetCredential (web : WebSite) (moment : Moment) (request : CredentialRequest) :
    WebState → Except Refusal RevealPage × WebState :=
  andThen (reading (checkReveal web moment.now request))
    fun check =>
  andThen
    (fun state =>
      onDatabase (issueSecretLease web.toSite moment
        (revealLeaseCall request state.session check.justification)) state)
    fun _ =>
  andThen (onDatabase
    (commit (consumeSecretLease web.toSite moment request.leaseToken (some request.user) none)))
    fun consumed =>
  andThen (showTotp web moment.now check)
    fun code =>
  reading (fun _ =>
    .ok
      { username := check.credential.username
        password := consumed.2
        totpCode := code
        totpRefreshPath := totpRefreshPath check.credential.id code })

def refreshLabel : Text := "rafraîchir un code TOTP de cible"

/- `target_credential_totp`, which only reads. -/
def targetCredentialTotp (web : WebSite) (now : Int) (request : CredentialRequest)
    (state : WebState) : Except Refusal TotpAnswer := do
  requireRecentMfa web now refreshLabel request state
  let (credential, target) ← credentialAndTarget request.credentialId state.db
  require (wholeSeconds now ≤ state.session.secretGrant credential.id)
    (.raised (.permissionDenied []))
  let token ← found (heldTotpSecret credential) (.raised (.permissionDenied []))
  require (credentialAllowsAction web.toSite request.user
    credential target .revealTotp request.clientIp now state.db = true)
    (.raised (.permissionDenied []))
  let code ← codeOf web now (some now) credential token
  return {
    code := code
    remaining := 30 - wholeSeconds now % 30
    period := 30 }

---- When A Code Is Shown

variable {web : WebSite} {moment : Moment} {request : CredentialRequest} {state after : WebState}

theorem onDatabase_eq_ok_iff
    {α : Type} {operation : Database → Except Failure α × Database} {value : α} :
    onDatabase operation state = (.ok value, after) ↔
      ∃ db, operation state.db = (.ok value, db) ∧ after = { state with db := db } := by
  unfold onDatabase
  rcases operation state.db with ⟨failure | result, db⟩
  · simp [Except.mapError]
  · simp [Except.mapError, eq_comm]

variable {now : Int} {credential : Credential} {check : RevealCheck} {code : Text}
variable {page : RevealPage}

theorem requireRecentMfa_eq_ok_iff {actionLabel : Text} :
    requireRecentMfa web now actionLabel request state = .ok () ↔
      sensitiveMfaRequired web.bypassMfa now actionLabel
        request.toWebRequest state.session state.db = none := by
  unfold requireRecentMfa
  split
  · rename_i hAnswer
    simp [hAnswer]
  · rename_i hNone
    simp [hNone]

theorem credentialAndTarget_eq_ok_iff {credentialId : Uuid} {db : Database} {target : Target} :
    credentialAndTarget credentialId db = .ok (credential, target) ↔
      db.credentials.get credentialId = some credential ∧
        db.targets.get credential.targetId = some target := by
  unfold credentialAndTarget
  simp only [found_bind_eq_ok_iff, pure_eq_ok_iff, Prod.mk.injEq]
  constructor
  · rintro ⟨_, hCredential, _, hTarget, rfl, rfl⟩
    exact ⟨hCredential, hTarget⟩
  · rintro ⟨hCredential, hTarget⟩
    exact ⟨credential, hCredential, target, hTarget, rfl, rfl⟩

theorem checkReveal_eq_ok_iff : checkReveal web now request state = .ok check ↔
    ∃ target, sensitiveMfaRequired web.bypassMfa now revealLabel
      request.toWebRequest state.session state.db = none ∧
      state.db.credentials.get request.credentialId = some check.credential ∧
      state.db.targets.get check.credential.targetId = some target ∧ check.actions =
        actionsForTarget web.toSite request.user target request.clientIp now state.db ∧
      Action.viewSecret ∈ check.actions ∧
      justificationForm request.justification = some check.justification := by
  unfold checkReveal
  simp only [bind_eq_ok_iff, found_eq_ok_iff, exists_unit_iff, require_eq_ok_iff, Prod.exists,
    pure_eq_ok_iff, requireRecentMfa_eq_ok_iff, credentialAndTarget_eq_ok_iff]
  constructor
  · rintro ⟨hMfa, credential, target, ⟨hCredential, hTarget⟩, hView, justification, hForm, rfl⟩
    exact ⟨target, hMfa, hCredential, hTarget, rfl, hView, hForm⟩
  · rcases check with ⟨credential, actions, justification⟩
    rintro ⟨target, hMfa, hCredential, hTarget, rfl, hView, hForm⟩
    exact ⟨hMfa, credential, target, ⟨hCredential, hTarget⟩, hView, justification, hForm, rfl⟩

theorem showTotp_eq_some_iff : (∃ after, showTotp web now check state = (.ok (some code), after)) ↔
    ∃ token, heldTotpSecret check.credential = some token ∧ Action.revealTotp ∈ check.actions ∧
      codeOf web now none check.credential token = .ok code := by
  unfold showTotp
  cases heldTotpSecret check.credential with
  | none => simp
  | some token =>
    by_cases hTotp : Action.revealTotp ∈ check.actions
    · simp only [if_pos hTotp]
      cases hCode : codeOf web now none check.credential token with
      | error refusal => simp [hCode]
      | ok shown => simp [hTotp, hCode]
    · simp [hTotp]

/- The request passes every check, and the union of the actions lets a code be shown. -/
structure RevealsCode
    (web : WebSite) (moment : Moment) (request : CredentialRequest) (state : WebState)
    (credential : Credential) (target : Target) : Prop where
  recentMfa :
    sensitiveMfaRequired web.bypassMfa moment.now revealLabel request.toWebRequest state.session
      state.db = none
  hasCredential : state.db.credentials.get request.credentialId = some credential
  hasTarget : state.db.targets.get credential.targetId = some target
  viewSecret : Action.viewSecret ∈
    actionsForTarget web.toSite request.user target request.clientIp moment.now state.db
  revealTotp : Action.revealTotp ∈
    actionsForTarget web.toSite request.user target request.clientIp moment.now state.db
  leased : ∃ justification lease, justificationForm request.justification = some justification ∧
    newLease web.toSite moment (revealLeaseCall request state.session justification) state.db =
      .ok lease ∧
    LeaseRecorded web.toSite moment lease state.db
  secret : ∃ secret,
    decrypt web.toSite credential.encryptedSecret credential.secretEncryptionKeyId = .ok secret
  code : ∃ token code, heldTotpSecret credential = some token ∧
    codeOf web moment.now none credential token = .ok code

theorem revealTargetCredential_eq_ok_iff :
    revealTargetCredential web moment request state = (.ok page, after) ↔
      ∃ check lease issued consumed final code, checkReveal web moment.now request state =
        .ok check ∧ issueSecretLease web.toSite moment
          (revealLeaseCall request state.session check.justification) state.db =
          (.ok lease, issued) ∧
        consumeSecretLease web.toSite moment request.leaseToken (some request.user) none issued =
          .ok (consumed, final) ∧
        showTotp web moment.now check { state with db := final } = (.ok code, after) ∧ page =
          { username := check.credential.username
            password := consumed.2
            totpCode := code
            totpRefreshPath := totpRefreshPath check.credential.id code } := by
  unfold revealTargetCredential
  simp only [andThen_eq_ok_iff, reading_eq_ok_iff, onDatabase_eq_ok_iff, commit_eq_ok_iff,
    Except.ok.injEq]
  constructor
  · rintro ⟨check, _, ⟨hCheck, rfl⟩, lease, _, ⟨issued, hIssue, rfl⟩, consumed, _,
      ⟨final, hConsume, rfl⟩, code, _, hTotp, rfl, rfl⟩
    exact ⟨check, lease, issued, consumed, final, code, hCheck, hIssue, hConsume, hTotp, rfl⟩
  · rintro ⟨check, lease, issued, consumed, final, code, hCheck, hIssue, hConsume, hTotp, rfl⟩
    exact ⟨check, state, ⟨hCheck, rfl⟩, lease, _, ⟨issued, hIssue, rfl⟩, consumed, _,
      ⟨final, hConsume, rfl⟩, code, after, hTotp, rfl, rfl⟩

theorem revealsCode_of_revealTargetCredential
    (hPage : revealTargetCredential web moment request state = (.ok page, after))
    (hCode : page.totpCode = some code) :
    ∃ credential target, RevealsCode web moment request state credential target := by
  rcases revealTargetCredential_eq_ok_iff.mp hPage with
    ⟨check, lease, issued, ⟨consumed, secret⟩, final, shown, hCheck, hIssue, hConsume, hTotp, rfl⟩
  subst hCode
  rcases checkReveal_eq_ok_iff.mp hCheck with
    ⟨target, hMfa, hCredential, hTarget, hActions, hView, hForm⟩
  rcases showTotp_eq_some_iff.mp ⟨after, hTotp⟩ with ⟨token, hToken, hReveal, hShown⟩
  rcases (leaseSecret_iff hCredential rfl).mp
    ⟨lease, issued, consumed, final, hIssue, hConsume⟩ with
    ⟨⟨row, hNew, hRecorded⟩, hDecrypt⟩
  rw [hActions] at hView hReveal
  exact ⟨check.credential, target,
    { recentMfa := hMfa
      hasCredential := hCredential
      hasTarget := hTarget
      viewSecret := hView
      revealTotp := hReveal
      leased := ⟨check.justification, row, hForm, hNew, hRecorded⟩
      secret := ⟨secret, hDecrypt⟩
      code := ⟨token, code, hToken, hShown⟩ }⟩

theorem RevealsCode.revealTargetCredential {target : Target}
    (hReveals : RevealsCode web moment request state credential target) :
    ∃ page after code, revealTargetCredential web moment request state = (.ok page, after) ∧
      page.totpCode = some code := by
  rcases hReveals.leased with ⟨justification, row, hForm, hNew, hRecorded⟩
  rcases hReveals.secret with ⟨secret, hDecrypt⟩
  rcases hReveals.code with ⟨token, code, hToken, hShown⟩
  have hCheck : checkReveal web moment.now request state = .ok ⟨credential,
    actionsForTarget web.toSite request.user target request.clientIp moment.now state.db,
    justification⟩ :=
    checkReveal_eq_ok_iff.mpr ⟨target, hReveals.recentMfa, hReveals.hasCredential,
      hReveals.hasTarget, rfl, hReveals.viewSecret, hForm⟩
  -- The view expects no particular purpose.
  have hPurpose : (none : Option LeasePurpose).all (fun purpose => decide (purpose = .reveal)) =
    true :=
    rfl
  rcases (leaseSecret_iff hReveals.hasCredential
    hPurpose).mpr ⟨⟨row, hNew, hRecorded⟩, hDecrypt⟩ with
    ⟨lease, issued, consumed, final, hIssue, hConsume⟩
  have hTotp : ∃ after, showTotp web moment.now ⟨credential,
    actionsForTarget web.toSite request.user target request.clientIp moment.now state.db,
    justification⟩
    { state with db := final } = (.ok (some code), after) :=
    showTotp_eq_some_iff.mpr ⟨token, hToken, hReveals.revealTotp, hShown⟩
  rcases hTotp with ⟨after, hTotp⟩
  exact ⟨_, after, code, revealTargetCredential_eq_ok_iff.mpr
    ⟨_, lease, issued, (consumed, secret), final, _, hCheck, hIssue, hConsume, hTotp, rfl⟩, rfl⟩

---- Scope

/- What holds of the credential of a request and its target. -/
def OnRows (request : CredentialRequest) (db : Database)
    (property : Credential → Target → Prop) : Prop :=
  ∃ credential target, db.credentials.get request.credentialId = some credential ∧
    db.targets.get credential.targetId = some target ∧ property credential target

theorem OnRows.of_get {db : Database} {property : Credential → Target → Prop}
    {credential : Credential} {target : Target} (hRows : OnRows request db property)
    (hCredential : db.credentials.get request.credentialId = some credential)
    (hTarget : db.targets.get credential.targetId = some target) : property credential target := by
  rcases hRows with ⟨held, place, hHeld, hPlace, hProperty⟩
  cases Option.mem_unique hHeld hCredential
  cases Option.mem_unique hPlace hTarget
  exact hProperty

/- Some single policy of the user lets the codes of the credential be shown, here and now. -/
def InScope (web : WebSite) (now : Int) (request : CredentialRequest) (db : Database) : Prop :=
  OnRows request db fun credential target => credentialAllowsAction web.toSite request.user
    credential target .revealTotp request.clientIp now db = true

/- Neither view shows a code unless the condition holds. -/
structure ShownOnlyIf (web : WebSite) (moment : Moment) (request : CredentialRequest)
    (state : WebState) (condition : Prop) : Prop where
  revealed : ∀ page after code, revealTargetCredential web moment request state =
    (.ok page, after) →
    page.totpCode = some code → condition
  refreshed : ∀ answer, targetCredentialTotp web moment.now request state = .ok answer → condition

/- Neither view shows a code outside its scope. -/
def TotpWithinScope (web : WebSite) (moment : Moment) (request : CredentialRequest)
    (state : WebState) : Prop :=
  ShownOnlyIf web moment request state (InScope web moment.now request state.db)

theorem targetCredentialTotp_eq_ok {answer : TotpAnswer}
    (hAnswer : targetCredentialTotp web now request state = .ok answer) :
    wholeSeconds now ≤ state.session.secretGrant request.credentialId ∧
      InScope web now request state.db := by
  rcases bind_eq_ok_iff.mp hAnswer with ⟨_, _, hAnswer⟩
  rcases bind_eq_ok_iff.mp hAnswer with ⟨⟨credential, target⟩, hRows, hAnswer⟩
  rcases require_bind_eq_ok_iff.mp hAnswer with ⟨hGrant, hAnswer⟩
  rcases found_bind_eq_ok_iff.mp hAnswer with ⟨_, _, hAnswer⟩
  rcases require_bind_eq_ok_iff.mp hAnswer with ⟨hAllowed, _⟩
  rcases credentialAndTarget_eq_ok_iff.mp hRows with ⟨hCredential, hTarget⟩
  rw [(Table.get_eq_some_iff.mp hCredential).2] at hGrant
  exact ⟨hGrant, credential, target, hCredential, hTarget, hAllowed⟩

/-
  Codes stay within scope exactly when some single policy has the credential in scope whenever the
  union of the actions shows its code.
-/
theorem totp_within_scope_iff
    (web : WebSite) (moment : Moment) (request : CredentialRequest) (state : WebState) :
    TotpWithinScope web moment request state ↔
      ∀ credential target, RevealsCode web moment request state credential target →
        credentialAllowsAction web.toSite request.user
          credential target .revealTotp request.clientIp
          moment.now state.db = true := by
  constructor
  · intro hWithin credential target hReveals
    rcases hReveals.revealTargetCredential with ⟨page, after, code, hPage, hCode⟩
    exact (hWithin.revealed page after code hPage hCode).of_get
      hReveals.hasCredential hReveals.hasTarget
  · intro hScope
    constructor
    · intro page after code hPage hCode
      rcases revealsCode_of_revealTargetCredential hPage hCode with ⟨credential, target, hReveals⟩
      exact ⟨credential, target, hReveals.hasCredential, hReveals.hasTarget,
        hScope credential target hReveals⟩
    · intro answer hAnswer
      exact (targetCredentialTotp_eq_ok hAnswer).2

---- Two Policies

def sampleWeb : WebSite where
  toSite := sampleSite
  totp := sampleTotp
  bypassMfa := false

def totpCredential : Credential :=
  { sampleCredential with encryptedTotpSecret := some "GEZDGNBV" }

def otherCredential : Credential := { totpCredential with id := 7 }

/- The secrets of one account, and the codes of the other. -/
def crossedPolicies : Table AccessPolicy.id :=
  ⟨[{ samplePolicy with
    actions := [.viewSecret]
    credentials := [2] }, { samplePolicy with
      id := 6
      actions := [.revealTotp]
      credentials := [7] }], by decide⟩

def crossedState : WebState where
  session := ⟨some 0, []⟩
  db :=
    { sampleDatabase totpCredential crossedPolicies with
      credentials := ⟨[totpCredential, otherCredential], by decide⟩ }

def sampleReveal : CredentialRequest where
  user := sampleUser
  isServiceAccount := false
  fullPath := "/passwords/target/" ++ Uuid.str 2 ++ "/reveal/"
  isHtmx := false
  clientIp := none
  credentialId := 2
  justification := some "maintenance"
  leaseId := 5
  leaseToken := "lease"

/- The first view shows a code that no policy grants. -/
theorem crossed_policies_show_code : (∃ page after, revealTargetCredential sampleWeb sampleMoment
    sampleReveal crossedState = (.ok page, after) ∧ page.totpCode = some (Text.ofString "734055")) ∧
    ¬ TotpWithinScope sampleWeb sampleMoment sampleReveal crossedState := by
  have hPage : ∃ page after, revealTargetCredential sampleWeb sampleMoment
    sampleReveal crossedState = (.ok page, after) ∧ page.totpCode = some (Text.ofString "734055") :=
    ⟨_, _, rfl, rfl⟩
  refine ⟨hPage, ?_⟩
  intro hWithin
  rcases hPage with ⟨page, after, hPage, hCode⟩
  have hAllowed := @OnRows.of_get sampleReveal _ _ totpCredential sampleTarget
    (hWithin.revealed page after _ hPage hCode) rfl rfl
  exact absurd hAllowed (by decide)

end PamOlive.Api
