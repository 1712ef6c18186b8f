import PamOlive.Accounts.SensitiveActions
import PamOlive.Mfa.Services

/-
  The views with which users manage their second factor.

  Each step of a view commits what it wrote. A view that raises keeps these writes, but not what it
  put into the browser session. The state remembers the devices of which a token was accepted.
-/

---- States And Responses

namespace PamOlive.Mfa

open Foundations Vault Accounts

structure MfaSession where
  mfaVerifiedAt : Option Int
  newRecoveryCodes : List Text
  recoveryRegenerated : Bool
deriving DecidableEq

/- The session and the database, and the devices of which a token was accepted so far. -/
structure MfaState where
  session : MfaSession
  db : Database
  proved : List Uuid

inductive Destination where
  | dashboard | account | setupRequired | recoveryCodes
  | url (path : Text)
deriving DecidableEq

inductive MfaResponse where
  | setupPage (device : MFADevice) (secret : Text)
  | enrollmentPage (device : MFADevice) (secret : Text)
  | verifyPage (isRejected : Bool) (nextUrl : Destination) (actionLabel : Text)
  | redirect (destination : Destination) (message : Option Text)
deriving DecidableEq

abbrev View (α : Type) := MfaState → Except Failure α × MfaState

structure MfaCall where
  site : Site
  library : MfaLibrary
  moment : Moment
  user : UserId
  clientIp : Option IpText
  urlAllowed : Text → Bool

def onDatabase {α : Type} (operation : Database → Except Failure α × Database) : View α :=
  fun state =>
    ((operation state.db).1, { state with db := (operation state.db).2 })

def onSession (change : MfaSession → MfaSession) : View Unit :=
  fun state =>
    (.ok (), { state with session := change state.session })

def answer (response : MfaResponse) : View MfaResponse := reading (fun _ => .ok response)

def markMfaVerified (call : MfaCall) : View Unit :=
  onSession (fun session =>
      { session with mfaVerifiedAt := some (call.moment.now / 1000000) })

def recordMfaEvent (call : MfaCall) (action resourceType resourceId : Text) (metadata : Json)
    (sourceIp : Option IpText) : View Unit :=
  onDatabase (commit (fun db => do
      let after ←
        db.recordEvent call.site call.moment (some call.user) action resourceType resourceId
          metadata sourceIp
      return ((), after)))

def recordDeviceEvent (call : MfaCall) (action : Text) (device : MFADevice) : View Unit :=
  recordMfaEvent call action "mfa.mfadevice" (Uuid.str device.id) (.obj []) none

/- `PlatformSecurityPolicy.objects.get_or_create(pk=1)`. -/
def ensurePolicy (db : Database) : Bool × Database :=
  (db.requireMfaForAllUsers, { db with sensitiveWindowMinutes := some (sensitiveWindow db) })

/- To the setup page where MFA is required of all users. -/
def redirectByPolicy (message : Text) : View MfaResponse :=
  andThen (onDatabase (fun db => (.ok (ensurePolicy db).1, (ensurePolicy db).2))) fun required =>
  if required then answer (.redirect .setupRequired (some message))
  else answer (.redirect .account (some message))

/- A required text field, which is stripped. -/
def charField (value : Option Text) : Option Text :=
  let text := Text.strip (value.getD [])
  if text = [] ∨ text.contains 0 = true then none
  else some text

def confirmForm (token : Option Text) : Option Text :=
  (charField token).filter (fun text => decide (text.length = 6))

section

variable (call : MfaCall)

def tokenOf (token : Text) (db : Database) : Option Uuid :=
  tokenDevice call.site call.library call.moment.now call.user token db

/- `verify_user_mfa(self.user, token)`, and its answer. -/
def verifying (token : Text) : View Bool :=
  fun state =>
    let checked := verifyUserMfa call.site call.library call.moment.now call.user token state.db
    (checked.1, { state with
        db := checked.2
        proved := state.proved ++ (tokenOf call token state.db).toList })

def verificationForm (token : Option Text) : View Bool :=
  match charField token with
  | none => reading (fun _ => .ok false)
  | some text => verifying call text

def passwordRight (password : Option Text) : Bool :=
  (charField password).any (call.library.checkUserPassword call.user)

/- `MFASecurityForm`. The token is checked whether or not the password is right. -/
def securityForm (password token : Option Text) : View Bool :=
  andThen (verificationForm call token) fun accepted =>
  reading (fun _ => .ok (passwordRight call password && accepted))

---- Setup And Confirmation

def beginEnrollment (fresh : FreshDevice) : View (MFADevice × Text) :=
  onDatabase (commit (beginTotpEnrollment call.site fresh call.user))

def mfaSetup (fresh : FreshDevice) : View MfaResponse :=
  andThen (beginEnrollment call fresh) fun made =>
  answer (.setupPage made.1 made.2)

def firstTotp (confirmed : Bool) : View (Option MFADevice) :=
  reading (fun state => .ok (firstByKey (state.db.mfaDevices.filter (isTotp call.user confirmed))))

/- The device to enroll, an earlier one if there is one. -/
def enrollmentDevice (fresh : FreshDevice) : View (MFADevice × Text) :=
  andThen (firstTotp call false) fun pending =>
  match pending with
  | none => beginEnrollment call fresh
  | some device =>
    reading (fun _ => do
      let secret ← deviceSecret call.site device
      return (device, secret))

def mfaEnrollmentRequired (fresh : FreshDevice) : View MfaResponse :=
  andThen (firstTotp call true) fun confirmed =>
  match confirmed with
  | some _ => answer (.redirect .dashboard none)
  | none =>
    andThen (enrollmentDevice call fresh) fun made =>
    answer (.enrollmentPage made.1 made.2)

end

def confirmRefused : View MfaResponse :=
  redirectByPolicy "Le code TOTP est incorrect. Recommencez l’activation."

/- Ten new codes, of which the session shows the texts. -/
def renewRecoveryCodes
    (call : MfaCall) (codes : Nat → FreshCode) (action : Text) (device : MFADevice)
    (regenerated : Bool) : View MfaResponse :=
  andThen (onDatabase (fun db =>
      (.ok (replaceRecoveryCodes codes call.user device.id db).1,
        (replaceRecoveryCodes codes call.user device.id db).2)))
    fun plain =>
  andThen (recordDeviceEvent call action device) fun _ =>
  andThen (onSession (fun session =>
      { session with newRecoveryCodes := plain, recoveryRegenerated := regenerated }))
    fun _ =>
  answer (.redirect .recoveryCodes none)

def alreadyConfirmed : View MfaResponse :=
  reading (fun state =>
    .ok (if state.session.newRecoveryCodes = [] then
      .redirect .account (some "La MFA est deja activee pour ce compte.")
      else .redirect .recoveryCodes none))

def confirmableDevice (call : MfaCall) (deviceId : Uuid) : View MFADevice :=
  reading (fun state =>
    found ((deviceById deviceId state.db.mfaDevices).filter
      (fun device => decide (device.userId = call.user ∧ device.kind = .totp))) .doesNotExist)

def mfaConfirm (call : MfaCall) (deviceId : Uuid) (token : Option Text)
    (codes : Nat → FreshCode) : View MfaResponse :=
  andThen (confirmableDevice call deviceId) fun device =>
  if device.confirmed then alreadyConfirmed
  else
    match confirmForm token with
    | none => confirmRefused
    | some text =>
      andThen (onDatabase (commit
        (confirmTotpDevice call.site call.library call.moment.now deviceId text)))
        fun accepted =>
      if accepted then
        andThen (markMfaVerified call) fun _ =>
        renewRecoveryCodes call codes "account.mfa_enabled" device false
      else confirmRefused

---- Verification, Reset And Renewal

structure VerifyData where
  isPost : Bool
  hasPostData : Bool
  token : Option Text
  nextUrl : Text
  actionLabel : Text

def nextDestination (call : MfaCall) (nextUrl : Text) : Destination :=
  if nextUrl ≠ [] ∧ call.urlAllowed nextUrl = true then .url nextUrl
  else .dashboard

def actionText (actionLabel : Text) : Text :=
  if actionLabel = [] then "continuer"
  else actionLabel

section

variable (call : MfaCall)

def mfaVerify (data : VerifyData) : View MfaResponse :=
  andThen (reading (fun state => .ok (mfaEnrolled call.user state.db))) fun enrolled =>
  if enrolled = false then answer (.redirect .setupRequired none)
  else if data.isPost = false ∨ data.hasPostData = false then
    answer (.verifyPage false (nextDestination call data.nextUrl) (actionText data.actionLabel))
  else
    andThen (verificationForm call data.token) fun valid =>
    if valid then
      andThen (markMfaVerified call) fun _ =>
      andThen (recordMfaEvent call "authentication.mfa.step_up_succeeded" "accounts.user"
        (Text.decimal call.user) (.obj [("action", .str (actionText data.actionLabel))])
        call.clientIp)
        fun _ =>
      answer (.redirect (nextDestination call data.nextUrl)
        (some "MFA confirmée. Vous pouvez relancer l’action sensible."))
    else answer (.verifyPage true (nextDestination call data.nextUrl) (actionText data.actionLabel))

def mfaReset (password token : Option Text) : View MfaResponse :=
  andThen (securityForm call password token) fun valid =>
  if valid then
    andThen (markMfaVerified call) fun _ =>
    andThen (reading (fun state =>
        .ok (firstByKey (state.db.mfaDevices.filter
          (fun device => decide (device.userId = call.user) && device.confirmed)))))
      fun device =>
    andThen (onDatabase (fun db => (.ok (), resetUserMfa call.user db))) fun _ =>
    match device with
    | none => reading (fun _ => .error .typeError)
    | some device =>
      andThen (recordDeviceEvent call "account.mfa_reset" device) fun _ =>
      redirectByPolicy "La MFA a été désactivée. Vous pouvez l’activer à nouveau."
  else
    answer (.redirect .account (some (Text.ofString
      "La MFA n’a pas été réinitialisée : vérifiez vos codes.")))

def onlyConfirmedTotp : View MFADevice :=
  reading (fun state =>
    match state.db.mfaDevices.filter (isTotp call.user true) with
    | [] => .error .doesNotExist
    | [device] => .ok device
    | _ => .error .multipleObjectsReturned)

def mfaRecoveryRegenerate (password token : Option Text)
    (codes : Nat → FreshCode) : View MfaResponse :=
  andThen (onlyConfirmedTotp call) fun device =>
  andThen (securityForm call password token) fun valid =>
  if valid then
    andThen (markMfaVerified call) fun _ =>
    renewRecoveryCodes call codes "account.mfa_recovery_regenerated" device true
  else
    answer (.redirect .account (some (Text.ofString
      "Les codes n’ont pas été renouvelés : vérifiez vos codes.")))

end

inductive MfaRequest where
  | setup (fresh : FreshDevice)
  | enrollmentRequired (fresh : FreshDevice)
  | confirm (deviceId : Uuid) (token : Option Text) (codes : Nat → FreshCode)
  | verify (data : VerifyData)
  | reset (password token : Option Text)
  | recoveryRegenerate (password token : Option Text) (codes : Nat → FreshCode)

def view (call : MfaCall) : MfaRequest → View MfaResponse
| .setup fresh => mfaSetup call fresh
| .enrollmentRequired fresh => mfaEnrollmentRequired call fresh
| .confirm deviceId token codes => mfaConfirm call deviceId token codes
| .verify data => mfaVerify call data
| .reset password token => mfaReset call password token
| .recoveryRegenerate password token codes => mfaRecoveryRegenerate call password token codes

/- A session is saved unless the view raised. -/
def serve (call : MfaCall) (request : MfaRequest) (state : MfaState) :
    Except Failure MfaResponse × MfaState :=
  match view call request state with
  | (.ok response, after) => (.ok response, after)
  | (.error failure, after) =>
    (.error failure, { after with session := state.session })

end PamOlive.Mfa
