import PamOlive.Mfa.Views
import PamOlive.Sessions.Quota

/-
  Whether a confirmed second factor is replaced without being proved.

  Four of the six requests leave a confirmed device alone. `mfa_setup` writes a new secret over it
  and asks for nothing, and `mfa_reset` removes it with the token of any device of the user.
-/

---- Steps That Leave The Devices

namespace PamOlive.Mfa

open Foundations Vault Sessions TransitionSystem List

variable {device : MFADevice} {call : MfaCall} {α β : Type}

/- A step neither writes devices nor accepts a token. -/
structure Leaves (before after : MfaState) : Prop where
  devices : after.db.mfaDevices = before.db.mfaDevices
  proved : after.proved = before.proved

variable {second third : MfaState}

theorem Leaves.trans {first : MfaState} (hFirst : Leaves first second)
    (hSecond : Leaves second third) : Leaves first third :=
  ⟨hSecond.devices.trans hFirst.devices, hSecond.proved.trans hFirst.proved⟩

def ViewLeaves (step : View α) : Prop := ∀ state, Leaves state (step state).2

theorem viewLeaves_reading (query : MfaState → Except Failure α) : ViewLeaves (reading query) :=
  fun _ => ⟨rfl, rfl⟩

theorem viewLeaves_answer (response : MfaResponse) : ViewLeaves (answer response) :=
  viewLeaves_reading _

theorem viewLeaves_onSession (change : MfaSession → MfaSession) : ViewLeaves (onSession change) :=
  fun _ => ⟨rfl, rfl⟩

variable {first : View α} {next : α → View β}

theorem viewLeaves_andThen (hFirst : ViewLeaves first) (hNext : ∀ value, ViewLeaves (next value)) :
    ViewLeaves (andThen first next) :=
  andThen_relates (fun _ _ _ hBefore hAfter => hBefore.trans hAfter) hFirst hNext

theorem viewLeaves_recordMfaEvent
    {action resourceType resourceId : Text} {metadata : Json} {sourceIp : Option IpText} :
    ViewLeaves (recordMfaEvent call action resourceType resourceId metadata sourceIp) := by
  intro state
  refine ⟨?_, rfl⟩
  refine @commit_relates _ _ _ (fun before after : Database => after.mfaDevices = before.mfaDevices)
    (fun _ => rfl) _ ?_ state.db
  intro db value after hRecord
  rcases bind_eq_ok_iff.mp hRecord with ⟨recorded, hEvent, hRecord⟩
  rw [return_eq_ok_iff] at hRecord
  rcases Database.recordEvent_eq_ok hEvent with ⟨audit, hAudit⟩
  rw [← hRecord.2, hAudit]

theorem viewLeaves_redirectByPolicy (message : Text) : ViewLeaves (redirectByPolicy message) := by
  refine viewLeaves_andThen (fun _ => ⟨rfl, rfl⟩) ?_
  intro required
  cases required with
  | false => exact viewLeaves_answer _
  | true => exact viewLeaves_answer _

theorem viewLeaves_renewRecoveryCodes {codes : Nat → FreshCode} {action : Text}
    {renewed : MFADevice} {regenerated : Bool} :
    ViewLeaves (renewRecoveryCodes call codes action renewed regenerated) := by
  refine viewLeaves_andThen (fun _ => ⟨rfl, rfl⟩) ?_
  intro plain
  refine viewLeaves_andThen viewLeaves_recordMfaEvent ?_
  intro _
  refine viewLeaves_andThen (viewLeaves_onSession _) ?_
  intro _
  exact viewLeaves_answer _

---- Steps That Guard A Device

/- A token of the device was accepted, or it is untouched. -/
def KeptOrProved (device : MFADevice) (state : MfaState) : Prop :=
  device.id ∈ state.proved ∨ Kept device state.db.mfaDevices

/- A step forgets no accepted token, and keeps the device unless a token of it was accepted. -/
structure Guards (device : MFADevice) (before after : MfaState) : Prop where
  proved : device.id ∈ before.proved → device.id ∈ after.proved
  kept : Kept device before.db.mfaDevices → KeptOrProved device after

variable {before state : MfaState}

theorem Guards.keptOrProved {after : MfaState} (hGuards : Guards device before after)
    (hBefore : KeptOrProved device before) : KeptOrProved device after := by
  rcases hBefore with hProved | hKept
  · exact .inl (hGuards.proved hProved)
  · exact hGuards.kept hKept

theorem Guards.trans {first : MfaState} (hFirst : Guards device first second)
    (hSecond : Guards device second third) :
    Guards device first third where
  proved := fun hProved =>
    hSecond.proved (hFirst.proved hProved)
  kept := fun hKept =>
    hSecond.keptOrProved (hFirst.kept hKept)

theorem Leaves.guards {after : MfaState} (hLeaves : Leaves before after) :
    Guards device before after := by
  constructor
  · rw [hLeaves.proved]
    exact fun hProved => hProved
  · intro hKept
    refine .inr ?_
    rw [hLeaves.devices]
    exact hKept

def ViewGuards (device : MFADevice) (step : View α) : Prop :=
  ∀ state, Guards device state (step state).2

variable {step : View α}

theorem ViewLeaves.guards (hLeaves : ViewLeaves step) : ViewGuards device step :=
  fun state => (hLeaves state).guards

theorem guards_andThen (hFirst : Guards device state (first state).2)
    (hNext : ∀ value, ViewGuards device (next value)) :
    Guards device state (andThen first next state).2 := by
  refine andThen_snd_of ?_ ?_
  · intro failure after hError
    rw [hError] at hFirst
    exact hFirst
  · intro value after hOk
    rw [hOk] at hFirst
    exact hFirst.trans (hNext value after)

theorem viewGuards_andThen (hFirst : ViewGuards device first)
    (hNext : ∀ value, ViewGuards device (next value)) : ViewGuards device (andThen first next) :=
  fun state => guards_andThen (hFirst state) hNext

---- Verification

variable {db after : Database} {token : Text} {site : Site} {library : MfaLibrary} {now : Int}
variable {user : UserId} {accepted : Bool}

theorem Kept.of_verifyUserTotp (hKept : Kept device db.mfaDevices)
    (hVerify : verifyUserTotp site library now user token db = .ok (accepted, after)) :
    Kept device after.mfaDevices := by
  rcases bind_eq_ok_iff.mp hVerify with ⟨found, _, hVerify⟩
  rcases found with _ | ⟨row, counter⟩
  · rw [return_eq_ok_iff] at hVerify
    rw [← hVerify.2]
    exact hKept
  · rw [return_eq_ok_iff] at hVerify
    rw [← hVerify.2]
    exact hKept.changeDevice_used

theorem consumeRecoveryCode_mfaDevices
    (hConsume : consumeRecoveryCode library now user token db = .ok (accepted, after)) :
    after.mfaDevices = db.mfaDevices := by
  unfold consumeRecoveryCode at hConsume
  split at hConsume
  · injection hConsume with hConsume
    rw [Prod.mk.injEq] at hConsume
    rw [← hConsume.2]
  · injection hConsume with hConsume
    rw [Prod.mk.injEq] at hConsume
    rw [← hConsume.2]
    rfl

def KeepsDevice (device : MFADevice) (before after : Database) : Prop :=
  Kept device before.mfaDevices → Kept device after.mfaDevices

theorem KeepsDevice.refl (device : MFADevice) (db : Database) : KeepsDevice device db db :=
  fun hKept => hKept

theorem KeepsDevice.trans (first second third : Database) (hFirst : KeepsDevice device first second)
    (hSecond : KeepsDevice device second third) : KeepsDevice device first third :=
  fun hKept => hSecond (hFirst hKept)

theorem keepsDevice_verifyUserMfa (db : Database) :
    KeepsDevice device db (verifyUserMfa site library now user token db).2 := by
  refine andThen_relates KeepsDevice.trans ?_ ?_ db
  · refine commit_relates (KeepsDevice.refl device) ?_
    intro before _ after hOk hBefore
    exact hBefore.of_verifyUserTotp hOk
  intro accepted
  cases accepted with
  | true => exact KeepsDevice.refl device
  | false =>
    refine commit_relates (KeepsDevice.refl device) ?_
    intro before _ after hOk hBefore
    rw [consumeRecoveryCode_mfaDevices hOk]
    exact hBefore

theorem viewGuards_verifying (token : Text) : ViewGuards device (verifying call token) := by
  intro state
  constructor
  · exact fun hProved => mem_append_left _ hProved
  · exact fun hKept =>
    .inr (keepsDevice_verifyUserMfa state.db hKept)

theorem viewGuards_verificationForm (token : Option Text) :
    ViewGuards device (verificationForm call token) := by
  unfold verificationForm
  cases charField token with
  | none => exact (viewLeaves_reading _).guards
  | some text => exact viewGuards_verifying text

theorem viewGuards_securityForm (password token : Option Text) :
    ViewGuards device (securityForm call password token) :=
  viewGuards_andThen (viewGuards_verificationForm token) (fun _ => (viewLeaves_reading _).guards)

theorem viewGuards_mfaVerify (data : VerifyData) : ViewGuards device (mfaVerify call data) := by
  refine viewGuards_andThen (viewLeaves_reading _).guards ?_
  intro enrolled
  split
  · exact (viewLeaves_answer _).guards
  split
  · exact (viewLeaves_answer _).guards
  refine viewGuards_andThen (viewGuards_verificationForm data.token) ?_
  intro valid
  split
  · refine ViewLeaves.guards (viewLeaves_andThen (viewLeaves_onSession _) ?_)
    intro _
    refine viewLeaves_andThen viewLeaves_recordMfaEvent ?_
    intro _
    exact viewLeaves_answer _
  · exact (viewLeaves_answer _).guards

theorem viewGuards_mfaRecoveryRegenerate (password token : Option Text) (codes : Nat → FreshCode) :
    ViewGuards device (mfaRecoveryRegenerate call password token codes) := by
  refine viewGuards_andThen (viewLeaves_reading _).guards ?_
  intro renewed
  refine viewGuards_andThen (viewGuards_securityForm password token) ?_
  intro valid
  cases valid with
  | false => exact (viewLeaves_answer _).guards
  | true =>
    exact ViewLeaves.guards
      (viewLeaves_andThen (viewLeaves_onSession _) (fun _ => viewLeaves_renewRecoveryCodes))

---- Enrollment And Confirmation

structure IsFactor (user : UserId) (device : MFADevice) : Prop where
  owner : device.userId = user
  kind : device.kind = .totp
  confirmed : device.confirmed = true

theorem firstByKey_ne_none {devices : List MFADevice} {row : MFADevice} (hMem : row ∈ devices) :
    firstByKey devices ≠ none := by
  cases devices with
  | nil => exact absurd hMem not_mem_nil
  | cons first rest =>
    unfold firstByKey
    split
    · exact Option.some_ne_none _
    · split <;> exact Option.some_ne_none _

def SameProved (before after : MfaState) : Prop := after.proved = before.proved

theorem SameProved.trans (first second third : MfaState) (hFirst : SameProved first second)
    (hSecond : SameProved second third) : SameProved first third :=
  Eq.trans hSecond hFirst

theorem sameProved_mfaEnrollmentRequired (fresh : FreshDevice) (state : MfaState) :
    SameProved state (mfaEnrollmentRequired call fresh state).2 := by
  refine andThen_relates SameProved.trans ?_ ?_ state
  · exact fun _ => rfl
  intro confirmed
  cases confirmed with
  | some row => exact fun _ => rfl
  | none =>
    refine andThen_relates SameProved.trans ?_ (fun _ _ => rfl)
    refine andThen_relates SameProved.trans ?_ ?_
    · exact fun _ => rfl
    · intro pending
      cases pending with
      | none => exact fun _ => rfl
      | some row => exact fun _ => rfl

theorem viewGuards_mfaEnrollmentRequired (hDevice : IsFactor call.user device)
    (fresh : FreshDevice) : ViewGuards device (mfaEnrollmentRequired call fresh) := by
  intro state
  constructor
  · intro hProved
    rw [sameProved_mfaEnrollmentRequired fresh state]
    exact hProved
  intro hKept
  rcases hKept.exists_row with ⟨row, hMem, _, _, hOwner, hKind, hConfirmed⟩
  have hTotp : isTotp call.user true row = true := by
    unfold isTotp
    rw [hOwner, hKind, hConfirmed, hDevice.owner, hDevice.kind, hDevice.confirmed]
    exact decide_eq_true ⟨rfl, rfl, rfl⟩
  have hFirst := firstByKey_ne_none (mem_filter.mpr ⟨hMem, hTotp⟩)
  refine andThen_snd_of ?_ ?_
  · intro failure after hError
    injection hError with hError
    exact nomatch hError
  · intro confirmed after hOk
    rcases reading_eq_ok_iff.mp hOk with ⟨hRead, rfl⟩
    injection hRead with hRead
    cases confirmed with
    | none => exact absurd hRead hFirst
    | some first => exact .inr hKept

theorem confirmTotpDevice_eq_or {deviceId : Uuid}
    (hConfirm : confirmTotpDevice site library now deviceId token db = .ok (accepted, after)) :
    after = db ∨ ∃ counter, after = changeDevice deviceId (confirmedBy now counter) db := by
  rcases found_bind_eq_ok_iff.mp hConfirm with ⟨locked, _, hConfirm⟩
  rcases bind_eq_ok_iff.mp hConfirm with ⟨_, _, hConfirm⟩
  rcases bind_eq_ok_iff.mp hConfirm with ⟨counter, _, hConfirm⟩
  cases counter with
  | none =>
    rw [return_eq_ok_iff] at hConfirm
    exact .inl hConfirm.2.symm
  | some counter =>
    rw [return_eq_ok_iff] at hConfirm
    exact .inr ⟨counter, hConfirm.2.symm⟩

theorem Kept.of_confirmTotpDevice {deviceId : Uuid} {row : MFADevice}
    (hConfirmed : device.confirmed = true) (hRow : deviceById deviceId db.mfaDevices = some row)
    (hPending : row.confirmed = false) (hKept : Kept device db.mfaDevices) :
    Kept device (commit (confirmTotpDevice site library now deviceId token) db).2.mfaDevices := by
  have hOther : deviceId ≠ device.id := by
    rintro rfl
    rcases hKept.exists_row with ⟨same, _, hFind, _, _, _, hFlag⟩
    rw [hRow] at hFind
    injection hFind with hFind
    rw [← hFind, hPending, hConfirmed] at hFlag
    exact nomatch hFlag
  rcases commit_snd_eq_or_ok (confirmTotpDevice site library now deviceId token) db with
    hSame | ⟨accepted, hOk⟩
  · rw [hSame]
    exact hKept
  · rcases confirmTotpDevice_eq_or hOk with hSame | ⟨counter, hChanged⟩
    · rw [hSame]
      exact hKept
    · rw [hChanged]
      exact hKept.changeDevice_of_ne (confirmedBy_id _ counter) hOther

theorem viewGuards_mfaConfirm (hConfirmed : device.confirmed = true)
    (deviceId : Uuid) (token : Option Text) (codes : Nat → FreshCode) :
    ViewGuards device (mfaConfirm call deviceId token codes) := by
  intro state
  refine andThen_snd_of ?_ ?_
  · intro failure after hError
    injection hError with _ hSame
    rw [← hSame]
    exact Leaves.guards ⟨rfl, rfl⟩
  intro row after hOk
  rcases reading_eq_ok_iff.mp hOk with ⟨hRead, rfl⟩
  have hRow := (Option.filter_eq_some_iff.mp (found_eq_ok_iff.mp hRead)).1
  cases hFlag : row.confirmed with
  | true =>
    exact (viewLeaves_reading _).guards after
  | false =>
    cases confirmForm token with
    | none => exact (viewLeaves_redirectByPolicy _).guards after
    | some text =>
      refine guards_andThen ?_ ?_
      · refine ⟨fun hProved => hProved, ?_⟩
        intro hKept
        exact .inr (hKept.of_confirmTotpDevice hConfirmed hRow hFlag)
      · intro accepted
        cases accepted with
        | false => exact (viewLeaves_redirectByPolicy _).guards
        | true =>
          exact ViewLeaves.guards (viewLeaves_andThen (viewLeaves_onSession _)
            (fun _ => viewLeaves_renewRecoveryCodes))

---- Setup

/- A setup finds the device, the only one with the local name, and can encrypt a new secret. -/
def Overwrites (call : MfaCall) (fresh : FreshDevice) (device : MFADevice) (db : Database) : Prop :=
  (∃ token, Operations.encrypt call.site fresh.secret = .ok token) ∧
  (db.mfaDevices.filter (isLocalTotp call.user)).map MFADevice.id = [device.id]

variable {fresh : FreshDevice}

theorem beginTotpEnrollment_cases {made : MFADevice × Text}
    (hBegin : beginTotpEnrollment site fresh user db = .ok (made, after)) :
    ∃ token, Operations.encrypt site fresh.secret = .ok token ∧
      ((db.mfaDevices.filter (isLocalTotp user) = [] ∧
        after.mfaDevices = db.mfaDevices ++ [made.1]) ∨
        ∃ row, db.mfaDevices.filter (isLocalTotp user) = [row] ∧
          after = changeDevice row.id (enrolling token) db) := by
  rcases bind_eq_ok_iff.mp hBegin with ⟨token, hToken, hBegin⟩
  refine ⟨token, hToken, ?_⟩
  split at hBegin
  · rename_i hNone
    rcases require_bind_eq_ok_iff.mp hBegin with ⟨_, hBegin⟩
    rw [return_eq_ok_iff] at hBegin
    rw [← hBegin.1, ← hBegin.2]
    exact .inl ⟨hNone, rfl⟩
  · rename_i row hOne
    rw [return_eq_ok_iff] at hBegin
    exact .inr ⟨row, hOne, hBegin.2.symm⟩
  · exact nomatch hBegin

theorem not_kept_enrolling (hConfirmed : device.confirmed = true) :
    ¬ Kept device (changeDevice device.id (enrolling token) db).mfaDevices := by
  intro hKept
  rcases hKept.exists_row with ⟨row, _, hFind, _, _, _, hFlag⟩
  rw [deviceById_changeDevice (enrolling_id token)] at hFind
  rcases Option.map_eq_some_iff.mp hFind with ⟨old, hOld, hNew⟩
  rw [if_pos (deviceById_id hOld)] at hNew
  rw [← hNew, hConfirmed] at hFlag
  exact nomatch hFlag

theorem kept_beginEnrollment_iff {state : MfaState}
    (hConfirmed : device.confirmed = true) (hKept : Kept device state.db.mfaDevices) :
    Kept device (beginEnrollment call fresh state).2.db.mfaDevices ↔
      ¬ Overwrites call fresh device state.db := by
  dsimp only [beginEnrollment, onDatabase]
  cases hBegin : beginTotpEnrollment call.site fresh call.user state.db with
  | error failure =>
    rw [commit_eq_error_iff.mpr ⟨hBegin, rfl⟩]
    refine ⟨fun _ => ?_, fun _ => hKept⟩
    rintro ⟨⟨token, hToken⟩, hOnly⟩
    rcases map_eq_singleton_iff.mp hOnly with ⟨row, hRow, _⟩
    unfold beginTotpEnrollment at hBegin
    rw [hToken, hRow] at hBegin
    exact nomatch hBegin
  | ok result =>
    rw [commit_eq_ok_iff.mpr hBegin]
    rcases beginTotpEnrollment_cases hBegin with ⟨token, hToken, hCases⟩
    rcases hCases with ⟨hNone, hMade⟩ | ⟨row, hRow, hMade⟩
    · rw [hMade]
      refine ⟨fun _ => ?_, fun _ => hKept.append⟩
      rintro ⟨_, hOnly⟩
      rw [hNone] at hOnly
      exact nomatch hOnly
    · rw [hMade]
      by_cases hId : row.id = device.id
      · rw [hId]
        refine ⟨fun hStill => ?_, fun hSpared => ?_⟩
        · exact absurd hStill (not_kept_enrolling hConfirmed)
        · refine absurd ⟨⟨token, hToken⟩, ?_⟩ hSpared
          rw [hRow, map_singleton, hId]
      · refine ⟨fun _ => ?_, fun _ => ?_⟩
        · rintro ⟨_, hOnly⟩
          rw [hRow] at hOnly
          exact hId (cons.inj hOnly).1
        · exact hKept.changeDevice_of_ne (enrolling_id token) hId

theorem mfaSetup_state (fresh : FreshDevice) (state : MfaState) :
    (mfaSetup call fresh state).2 = (beginEnrollment call fresh state).2 := by
  unfold mfaSetup andThen
  split
  · rename_i hBegin
    rw [hBegin]
    rfl
  · rename_i hBegin
    rw [hBegin]

theorem mfaSetup_keeps_iff (hConfirmed : device.confirmed = true)
    (hState : KeptOrProved device state) :
    KeptOrProved device (mfaSetup call fresh state).2 ↔
      device.id ∈ state.proved ∨ ¬ Overwrites call fresh device state.db := by
  rw [mfaSetup_state]
  by_cases hProved : device.id ∈ state.proved
  · exact ⟨fun _ => .inl hProved, fun _ => .inl hProved⟩
  have hKept := hState.resolve_left hProved
  have hBegin := @kept_beginEnrollment_iff _ call fresh _ hConfirmed hKept
  constructor
  · rintro (hAccepted | hStill)
    · exact absurd hAccepted hProved
    · exact .inr (hBegin.mp hStill)
  · rintro (hAccepted | hSpared)
    · exact absurd hAccepted hProved
    · exact .inr (hBegin.mpr hSpared)

---- Reset

def ResetByOther (call : MfaCall) (password token : Option Text) (device : MFADevice)
    (db : Database) : Prop :=
  passwordRight call password = true ∧ ∃ text other,
    charField token = some text ∧ tokenOf call text db = some other ∧ other ≠ device.id

theorem verifying_fst_eq_ok_true_iff {text : Text} :
    (verifying call text state).1 = .ok true ↔ ∃ id, tokenOf call text state.db = some id :=
  verifyUserMfa_accepts_iff

variable {password : Option Text} {middle : MfaState} {token : Option Text}

theorem securityForm_valid (hForm : securityForm call password token state = (.ok true, middle)) :
    passwordRight call password = true ∧ ∃ text id, charField token = some text ∧
      tokenOf call text state.db = some id ∧ middle.proved = state.proved ++ [id] := by
  rcases andThen_eq_ok_iff.mp hForm with ⟨accepted, between, hToken, hBoth⟩
  rcases reading_eq_ok_iff.mp hBoth with ⟨hValid, rfl⟩
  rcases Bool.and_eq_true_iff.mp (Except.ok.inj hValid) with ⟨hPassword, rfl⟩
  refine ⟨hPassword, ?_⟩
  unfold verificationForm at hToken
  cases hText : charField token with
  | none =>
    rw [hText] at hToken
    exact nomatch hToken
  | some text =>
    rw [hText] at hToken
    have hAccepted := congrArg Prod.fst hToken
    have hState : (verifying call text state).2 = middle := congrArg Prod.snd hToken
    rcases verifying_fst_eq_ok_true_iff.mp hAccepted with ⟨id, hId⟩
    refine ⟨text, id, rfl, hId, ?_⟩
    rw [← hState]
    dsimp only [verifying]
    rw [hId]
    rfl

theorem securityForm_of_token {text : Text} {id : Uuid}
    (hPassword : passwordRight call password = true) (hText : charField token = some text)
    (hToken : tokenOf call text state.db = some id) :
    (securityForm call password token state).1 = .ok true := by
  have hAccepted := verifying_fst_eq_ok_true_iff.mpr ⟨id, hToken⟩
  unfold securityForm verificationForm andThen
  rw [hText]
  dsimp only
  split
  · rename_i accepted middle hOk
    rw [hOk] at hAccepted
    injection hAccepted with hAccepted
    dsimp only [reading]
    rw [hPassword, hAccepted]
    rfl
  · rename_i failure middle hError
    rw [hError] at hAccepted
    exact nomatch hAccepted

theorem not_kept_resetUserMfa (hOwner : device.userId = user) :
    ¬ Kept device (resetUserMfa user db).mfaDevices := by
  intro hKept
  rcases hKept.exists_row with ⟨row, hMem, _, _, hUser, _⟩
  have hOther := of_decide_eq_true (mem_filter.mp hMem).2
  exact hOther (hUser.trans hOwner)

theorem mfaReset_of_valid (hForm : securityForm call password token state = (.ok true, middle)) :
    ∃ removed : MfaState, removed.db = resetUserMfa call.user middle.db ∧
      removed.proved = middle.proved ∧ Leaves removed (mfaReset call password token state).2 := by
  refine ⟨{
    session :=
      { middle.session with mfaVerifiedAt := some (call.moment.now / 1000000) }
    db := resetUserMfa call.user middle.db
    proved := middle.proved }, rfl, rfl, ?_⟩
  unfold mfaReset
  rw [andThen, hForm]
  dsimp only
  rw [if_pos rfl]
  dsimp only [andThen, markMfaVerified, onSession, reading, onDatabase]
  generalize firstByKey _ = first
  cases first with
  | none => exact ⟨rfl, rfl⟩
  | some row =>
    exact viewLeaves_andThen viewLeaves_recordMfaEvent (fun _ => viewLeaves_redirectByPolicy _) _

theorem mfaReset_of_invalid {result : Except Failure Bool}
    (hForm : securityForm call password token state = (result, middle))
    (hInvalid : result ≠ .ok true) : Leaves middle (mfaReset call password token state).2 := by
  unfold mfaReset
  rw [andThen, hForm]
  rcases result with failure | valid
  · exact ⟨rfl, rfl⟩
  · cases valid with
    | true => exact absurd rfl hInvalid
    | false => exact viewLeaves_answer _ middle

theorem mfaReset_keeps_iff_of_valid (hOwner : device.userId = call.user)
    (hForm : securityForm call password token state = (.ok true, middle)) :
    KeptOrProved device (mfaReset call password token state).2 ↔ device.id ∈ state.proved ∨
      ¬ ResetByOther call password token device state.db := by
  rcases securityForm_valid hForm with ⟨hPassword, text, id, hText, hToken, hProved⟩
  rcases mfaReset_of_valid hForm with ⟨removed, hRemoved, hSame, hLeaves⟩
  have hGone : ¬ Kept device (mfaReset call password token state).2.db.mfaDevices := by
    rw [hLeaves.devices, hRemoved]
    exact not_kept_resetUserMfa hOwner
  unfold KeptOrProved
  rw [or_iff_left hGone, hLeaves.proved, hSame, hProved, mem_append, mem_singleton]
  refine or_congr_right ⟨?_, ?_⟩
  · rintro hId ⟨_, text', other, hText', hToken', hOther⟩
    rw [hText] at hText'
    injection hText' with hText'
    rw [← hText', hToken] at hToken'
    injection hToken' with hToken'
    exact hOther (hToken'.symm.trans hId.symm)
  · intro hNone
    by_contra hOther
    exact hNone ⟨hPassword, text, id, hText, hToken, fun hId => hOther hId.symm⟩

theorem mfaReset_keeps_iff (hOwner : device.userId = call.user)
    (hState : KeptOrProved device state) :
    KeptOrProved device (mfaReset call password token state).2 ↔ device.id ∈ state.proved ∨
      ¬ ResetByOther call password token device state.db := by
  have hGuards := @viewGuards_securityForm device call password token state
  rcases hForm : securityForm call password token state with ⟨result, middle⟩
  rw [hForm] at hGuards
  by_cases hValid : result = .ok true
  · rw [hValid] at hForm
    exact mfaReset_keeps_iff_of_valid hOwner hForm
  · have hAfter := mfaReset_of_invalid hForm hValid
    refine ⟨fun _ => .inr ?_, fun _ => ?_⟩
    · rintro ⟨hPassword, text, other, hText, hToken, _⟩
      have hOk := securityForm_of_token hPassword hText hToken
      rw [hForm] at hOk
      exact hValid hOk
    · exact (hGuards.trans hAfter.guards).keptOrProved hState

---- Runs

/- The requests of one user, in one browser session. -/
def mfaSystem (user : UserId) (device : MFADevice) :
    TransitionSystem MfaState (MfaCall × MfaRequest) where
  init := fun state =>
    state.proved = [] ∧ Kept device state.db.mfaDevices
  step := fun before label after =>
    label.1.user = user ∧ after = (serve label.1 label.2 before).2

/- A token of the device was accepted, or the request neither overwrites nor resets it. -/
def Spares (device : MFADevice) (before : MfaState) (label : MfaCall × MfaRequest) : Prop :=
  device.id ∈ before.proved ∨
    match label.2 with
    | .setup fresh => ¬ Overwrites label.1 fresh device before.db
    | .reset password token => ¬ ResetByOther label.1 password token device before.db
    | _ => True

theorem serve_leaves (request : MfaRequest) (state : MfaState) :
    Leaves (view call request state).2 (serve call request state).2 := by
  unfold serve
  split
  all_goals
    rename_i hView
    rw [hView]
    exact ⟨rfl, rfl⟩

theorem Leaves.keptOrProved_iff {after : MfaState} (hLeaves : Leaves before after) :
    KeptOrProved device after ↔ KeptOrProved device before := by
  unfold KeptOrProved
  rw [hLeaves.devices, hLeaves.proved]

theorem ViewGuards.keeps_iff (hGuards : ViewGuards device step)
    (hState : KeptOrProved device state) :
    KeptOrProved device (step state).2 ↔ device.id ∈ state.proved ∨ True :=
  ⟨fun _ => .inr trivial, fun _ => (hGuards state).keptOrProved hState⟩

theorem serve_keeps_iff {request : MfaRequest} (hDevice : IsFactor call.user device)
    (hBefore : KeptOrProved device before) :
    KeptOrProved device (serve call request before).2 ↔ Spares device before (call, request) := by
  rw [(serve_leaves request before).keptOrProved_iff]
  cases request with
  | setup fresh => exact mfaSetup_keeps_iff hDevice.confirmed hBefore
  | enrollmentRequired fresh =>
    exact (viewGuards_mfaEnrollmentRequired hDevice fresh).keeps_iff hBefore
  | confirm deviceId token codes =>
    exact (viewGuards_mfaConfirm hDevice.confirmed deviceId token codes).keeps_iff hBefore
  | verify data => exact (viewGuards_mfaVerify data).keeps_iff hBefore
  | reset password token => exact mfaReset_keeps_iff hDevice.owner hBefore
  | recoveryRegenerate password token codes =>
    exact (viewGuards_mfaRecoveryRegenerate password token codes).keeps_iff hBefore

/-
  In every run of the requests of a user, a confirmed device stays until a token of it is accepted,
  exactly if every request of the run spares it.
-/
theorem second_factor_kept_iff {user : UserId} {device : MFADevice} (hDevice : IsFactor user device)
    {start finish : MfaState} {labels : List (MfaCall × MfaRequest)}
    (hInit : (mfaSystem user device).init start) :
    Along (mfaSystem user device) (KeptOrProved device) start labels finish ↔
      Guarded (mfaSystem user device) (Spares device) start labels finish := by
  refine along_iff_guarded ?_ (.inr hInit.2)
  rintro before ⟨call, request⟩ after hBefore ⟨hUser, rfl⟩
  rw [← hUser] at hDevice
  exact serve_keeps_iff hDevice hBefore

def sampleMfaLibrary : MfaLibrary where
  totp := sampleTotp
  isDigit := fun point =>
    decide (48 ≤ point.val ∧ point.val ≤ 57)
  isAlnum := fun point => decide (point.val ≠ 45)
  checkPassword := fun raw encoded => decide (raw = encoded)
  checkUserPassword := fun user raw => decide (user = sampleUser ∧ raw = "password")

def sampleMfaCall : MfaCall where
  site := sampleSite
  library := sampleMfaLibrary
  moment := sampleMoment
  user := sampleUser
  clientIp := none
  urlAllowed := fun _ => false

def sampleDevice (id : Uuid) (name secret : String) : MFADevice where
  id := id
  userId := sampleUser
  kind := .totp
  confirmed := true
  name := Text.ofString name
  encryptedConfiguration := Text.ofString secret

def localDevice : MFADevice := sampleDevice 7 "TOTP local" "GEZDGNBV"

def mfaStart : MfaState where
  session := ⟨none, [], false⟩
  db :=
    { sampleDatabase sampleCredential samplePolicies with
      mfaDevices := [localDevice, sampleDevice 9 "phone" "GY3TQOJQ"]
      recoveryCodes :=
        [{ id := 11
           userId := sampleUser
           deviceId := 9
           codeHash := "ABCDE12345"
           usedAt := none }] }
  proved := []

theorem isFactor_localDevice : IsFactor sampleUser localDevice := ⟨rfl, rfl, rfl⟩

def setupRequest : MfaRequest := .setup ⟨8, "GY3TQOJQ"⟩

def verifyRequest : MfaRequest :=
  .verify
    { isPost := true
      hasPostData := true
      token := some "734055"
      nextUrl := []
      actionLabel := [] }

theorem second_factor_kept_sample :
    IsFactor sampleUser localDevice ∧ (mfaSystem sampleUser localDevice).init mfaStart ∧
      ∃ finish, Along (mfaSystem sampleUser localDevice) (KeptOrProved localDevice) mfaStart
          [(sampleMfaCall, verifyRequest), (sampleMfaCall, setupRequest)] finish := by
  have hInit : (mfaSystem sampleUser localDevice).init mfaStart := ⟨rfl, rfl⟩
  have hGuarded : ∃ finish, Guarded (mfaSystem sampleUser localDevice) (Spares localDevice) mfaStart
    [(sampleMfaCall, verifyRequest), (sampleMfaCall, setupRequest)] finish :=
    ⟨_, .cons (.inr trivial) ⟨rfl, rfl⟩ (.cons (.inl (mem_singleton_self _)) ⟨rfl, rfl⟩ (.nil _))⟩
  rcases hGuarded with ⟨finish, hGuarded⟩
  exact ⟨isFactor_localDevice, hInit, finish,
    (second_factor_kept_iff isFactor_localDevice hInit).mpr hGuarded⟩

def codesOf (number : Nat) : FreshCode where
  id := BitVec.ofNat 128 number
  raw := "0123456789"
  codeHash := []

/-
  A setup and a confirmation replace the device without a token of it, and a recovery code of the
  other device removes it.
-/
theorem second_factor_replaced :
    (∃ finish, (mfaSystem sampleUser localDevice).Run mfaStart [(sampleMfaCall, setupRequest),
          (sampleMfaCall, .confirm 7 (some "556753") codesOf)] finish ∧ finish.proved = [] ∧
      (deviceById 7 finish.db.mfaDevices).map
          (fun row => (row.confirmed, row.encryptedConfiguration)) =
        some (true, Text.ofString "GY3TQOJQ")) ∧
    ∃ finish, (mfaSystem sampleUser localDevice).Run mfaStart [(sampleMfaCall,
          .reset (some "password") (some "ABCDE-12345"))] finish ∧
      finish.proved = [9] ∧ deviceById 7 finish.db.mfaDevices = none :=
  ⟨⟨_, .cons ⟨rfl, rfl⟩ (.cons ⟨rfl, rfl⟩ (.nil _)), rfl, rfl⟩,
    ⟨_, .cons ⟨rfl, rfl⟩ (.nil _), rfl, rfl⟩⟩

end PamOlive.Mfa
