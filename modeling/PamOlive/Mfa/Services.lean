import PamOlive.Operations.Services
import PamOlive.Vault.Totp

/-
  Second factors: enrollment, confirmation, verification and recovery codes.

  Library functions on texts and passwords are parameters, and so are random values. A queryset
  without an order gives its first row by primary key.
-/

---- One-Time Codes

namespace PamOlive.Mfa

open Foundations Vault List

structure MfaLibrary where
  totp : TotpPrimitives
  isDigit : CodePoint → Bool
  isAlnum : CodePoint → Bool
  checkPassword : Text → Text → Bool
  checkUserPassword : UserId → Text → Bool

/- One pass of the loop of `matching_totp_counter`. -/
def codeMatches (library : MfaLibrary) (now : Int) (secret token : Text)
    (counter : Int) : Except Failure Bool := do
  let code ←
    found (totpCode library.totp now (some (counter * totpInterval * 1000000)) secret) .valueError
  found (Gateway.compareDigest code token) .typeError

def firstMatch (library : MfaLibrary) (now : Int) (secret token : Text) :
    List Int → Except Failure (Option Int)
| [] => .ok none
| counter :: rest => do
    let isMatch ← codeMatches library now secret token counter
    if isMatch then return some counter
    else firstMatch library now secret token rest

/- `matching_totp_counter`, with its window of one. -/
def matchingTotpCounter (library : MfaLibrary) (now : Int)
    (secret token : Text) : Except Failure (Option Int) :=
  if token = [] ∨ token.all library.isDigit = false then .ok none
  else
    let current := now / (totpInterval * 1000000)
    firstMatch library now secret token [current + 1, current, current - 1]

/- `first()`: the row with the smallest key. -/
def firstByKey : List MFADevice → Option MFADevice
| [] => none
| device :: rest =>
  match firstByKey rest with
  | none => some device
  | some other =>
    if device.id.toNat ≤ other.id.toNat then some device
    else some other

variable {devices : List MFADevice} {device : MFADevice}

theorem mem_of_firstByKey (hFirst : firstByKey devices = some device) : device ∈ devices := by
  induction devices with
  | nil => exact nomatch hFirst
  | cons row rest ih =>
    unfold firstByKey at hFirst
    split at hFirst
    · injection hFirst with hFirst
      exact hFirst ▸ mem_cons_self
    · rename_i other hOther
      split at hFirst
      · injection hFirst with hFirst
        exact hFirst ▸ mem_cons_self
      · cases hFirst
        exact mem_cons_of_mem row (ih hOther)

def deviceById (id : Uuid) (devices : List MFADevice) : Option MFADevice :=
  devices.find? (fun device => decide (device.id = id))

/- `save(update_fields=...)` of one row. -/
def changeDevice (id : Uuid) (change : MFADevice → MFADevice) (db : Database) : Database :=
  { db with
    mfaDevices := db.mfaDevices.map (fun device =>
        if device.id = id then change device
        else device) }

def isTotp (user : UserId) (confirmed : Bool) (device : MFADevice) : Bool :=
  decide (device.userId = user ∧ device.kind = .totp ∧ device.confirmed = confirmed)

def deviceSecret (site : Site) (device : MFADevice) : Except Failure Text :=
  decrypt site device.encryptedConfiguration device.encryptionKeyId

---- Enrollment

structure FreshDevice where
  id : Uuid
  secret : Text

def localName : Text := "TOTP local"

def isLocalTotp (user : UserId) (device : MFADevice) : Bool :=
  decide (device.userId = user ∧ device.kind = .totp ∧ device.name = localName)

/- The `defaults` of `update_or_create`. -/
def enrolling (token : Text) (device : MFADevice) : MFADevice :=
  { device with
    encryptedConfiguration := token
    encryptionKeyId := activeKeyId
    confirmed := false
    lastUsedAt := none
    lastAcceptedTotpCounter := none }

def newDevice (user : UserId) (id : Uuid) : MFADevice where
  id := id
  userId := user
  kind := .totp
  confirmed := false
  name := localName

def beginTotpEnrollment (site : Site) (fresh : FreshDevice) (user : UserId) (db : Database) :
    Except Failure ((MFADevice × Text) × Database) := do
  let token ← Operations.encrypt site fresh.secret
  match db.mfaDevices.filter (isLocalTotp user) with
  | [] =>
    require (deviceById fresh.id db.mfaDevices = none) .integrityError
    let device := enrolling token (newDevice user fresh.id)
    return ((device, fresh.secret), { db with mfaDevices := db.mfaDevices ++ [device] })
  | [device] =>
    return ((enrolling token device, fresh.secret), changeDevice device.id (enrolling token) db)
  | _ => .error .multipleObjectsReturned

def used (now counter : Int) (device : MFADevice) : MFADevice :=
  { device with lastUsedAt := some now, lastAcceptedTotpCounter := some counter }

def confirmedBy (now counter : Int) (device : MFADevice) : MFADevice :=
  { used now counter device with confirmed := true }

/- `confirm_totp_device`, in its transaction. -/
def confirmTotpDevice
    (site : Site) (library : MfaLibrary) (now : Int) (deviceId : Uuid) (token : Text)
    (db : Database) : Except Failure (Bool × Database) := do
  let locked ← found (deviceById deviceId db.mfaDevices) .doesNotExist
  let secret ← deviceSecret site locked
  let counter ← matchingTotpCounter library now secret token
  match counter with
  | none => return (false, db)
  | some counter => return (true, changeDevice deviceId (confirmedBy now counter) db)

---- Verification

/- Whether a counter is new for a device. -/
def isNewCounter (device : MFADevice) (counter : Int) : Bool :=
  match device.lastAcceptedTotpCounter with
  | none => true
  | some last => decide (last < counter)

section

variable (site : Site) (library : MfaLibrary) (now : Int) (user : UserId) (token : Text)
  (db : Database)

/- What `verify_user_totp` accepts: the first confirmed device, with a counter new for it. -/
def acceptedTotp : Except Failure (Option (MFADevice × Int)) :=
  match firstByKey (db.mfaDevices.filter (isTotp user true)) with
  | none => .ok none
  | some device => do
    let secret ← deviceSecret site device
    let counter ← matchingTotpCounter library now secret token
    return (counter.filter (isNewCounter device)).map (fun counter => (device, counter))

/- `verify_user_totp`, in its transaction. -/
def verifyUserTotp : Except Failure (Bool × Database) := do
  let accepted ← acceptedTotp site library now user token db
  match accepted with
  | none => return (false, db)
  | some (device, counter) => return (true, changeDevice device.id (used now counter) db)

end

def normalizedRecoveryCode (library : MfaLibrary) (value : Text) : Text :=
  (library.totp.upper value).filter library.isAlnum

/- The codes that are not used, of devices in use. -/
def isUsableCode (user : UserId) (devices : List MFADevice) (code : MFARecoveryCode) : Bool :=
  decide (code.userId = user ∧ code.usedAt = none) &&
    (deviceById code.deviceId devices).any MFADevice.confirmed

def markUsed (now : Int) (codeId : Uuid) (db : Database) : Database :=
  { db with
    recoveryCodes := db.recoveryCodes.map (fun code =>
        if code.id = codeId then
          { code with usedAt := some now }
        else code) }

/- The usable code of the user that a token is. -/
def matchingRecoveryCode (library : MfaLibrary) (user : UserId) (token : Text)
    (db : Database) : Option MFARecoveryCode :=
  let normalized := normalizedRecoveryCode library token
  if normalized.length ≠ 10 then none
  else
    (db.recoveryCodes.filter (isUsableCode user db.mfaDevices)).find?
      (fun code => library.checkPassword normalized code.codeHash)

/- `consume_recovery_code`, in its transaction. -/
def consumeRecoveryCode (library : MfaLibrary) (now : Int) (user : UserId) (token : Text)
    (db : Database) : Except Failure (Bool × Database) :=
  match matchingRecoveryCode library user token db with
  | none => .ok (false, db)
  | some code => .ok (true, markUsed now code.id db)

section

variable (site : Site) (library : MfaLibrary) (now : Int) (user : UserId) (token : Text)

/- `verify_user_mfa`: a one-time code, or a recovery code. -/
def verifyUserMfa : Database → Except Failure Bool × Database :=
  andThen (commit (verifyUserTotp site library now user token)) fun accepted =>
  if accepted then reading (fun _ => .ok true)
  else commit (consumeRecoveryCode library now user token)

/- The device of which `verify_user_mfa` accepts a token. -/
def tokenDevice (db : Database) : Option Uuid :=
  match acceptedTotp site library now user token db with
  | .error _ => none
  | .ok (some (device, _)) => some device.id
  | .ok none => (matchingRecoveryCode library user token db).map MFARecoveryCode.deviceId

end

variable {now : Int} {db : Database}

theorem verifyUserMfa_accepts_iff {site : Site} {library : MfaLibrary}
    {user : UserId} {token : Text} :
    (verifyUserMfa site library now user token db).1 = .ok true ↔
      ∃ id, tokenDevice site library now user token db = some id := by
  cases hTotp : acceptedTotp site library now user token db with
  | error failure =>
    simp [verifyUserMfa, verifyUserTotp, tokenDevice, andThen, commit, hTotp, bind, Except.bind]
  | ok accepted =>
    rcases accepted with _ | ⟨device, counter⟩
    · cases hCode : matchingRecoveryCode library user token db <;>
        simp [verifyUserMfa, verifyUserTotp, tokenDevice,
          consumeRecoveryCode, andThen, commit, hTotp, hCode, bind, Except.bind, pure, Except.pure]
    · simp [verifyUserMfa, verifyUserTotp, tokenDevice,
      andThen, commit, reading, hTotp, bind, Except.bind, pure, Except.pure]

structure FreshCode where
  id : Uuid
  raw : Text
  codeHash : Text

/- `f"{raw[:5]}-{raw[5:]}"`. -/
def FreshCode.plain (code : FreshCode) : Text := code.raw.take 5 ++ 45 :: code.raw.drop 5

def codeRow (user : UserId) (deviceId : Uuid) (code : FreshCode) : MFARecoveryCode where
  id := code.id
  userId := user
  deviceId := deviceId
  codeHash := code.codeHash
  usedAt := none

/- `replace_recovery_codes`, with its count of ten. -/
def replaceRecoveryCodes (fresh : Nat → FreshCode) (user : UserId) (deviceId : Uuid)
    (db : Database) : List Text × Database :=
  let made := (range 10).map fresh
  (made.map FreshCode.plain, { db with
      recoveryCodes := db.recoveryCodes.filter
        (fun code => decide (¬ (code.userId = user ∧ code.deviceId = deviceId))) ++
          made.map (codeRow user deviceId) })

/- `reset_user_mfa`; the codes go with their devices. -/
def resetUserMfa (user : UserId) (db : Database) : Database :=
  { db with
    mfaDevices := db.mfaDevices.filter (fun device => decide (device.userId ≠ user))
    recoveryCodes := db.recoveryCodes.filter (fun code =>
        !(deviceById code.deviceId db.mfaDevices).any
          (fun device => decide (device.userId = user))) }

---- What A Device Keeps

/- A device without the columns that say when it was used. -/
def factor (device : MFADevice) : MFADevice :=
  { device with lastUsedAt := none, lastAcceptedTotpCounter := none }

/- The device is there, with its secret and its flag. -/
def Kept (device : MFADevice) (devices : List MFADevice) : Prop :=
  (deviceById device.id devices).map factor = some (factor device)

theorem enrolling_id (token : Text) (row : MFADevice) : (enrolling token row).id = row.id :=
  rfl

theorem used_id (now counter : Int) (row : MFADevice) : (used now counter row).id = row.id :=
  rfl

theorem confirmedBy_id (now counter : Int) (row : MFADevice) :
    (confirmedBy now counter row).id = row.id :=
  rfl

theorem factor_used (now counter : Int) (row : MFADevice) :
    factor (used now counter row) = factor row :=
  rfl

variable {id : Uuid}

theorem deviceById_id {row : MFADevice} (hFind : deviceById id devices = some row) :
    row.id = id := by
  have hRow := find?_some hFind
  exact of_decide_eq_true hRow

theorem Kept.exists_row (hKept : Kept device devices) :
    ∃ row ∈ devices, deviceById device.id devices = some row ∧ row.id = device.id ∧
      row.userId = device.userId ∧ row.kind = device.kind ∧ row.confirmed = device.confirmed := by
  rcases Option.map_eq_some_iff.mp hKept with ⟨row, hFind, hFactor⟩
  have hId := congrArg MFADevice.id hFactor
  have hUser := congrArg MFADevice.userId hFactor
  have hKind := congrArg MFADevice.kind hFactor
  have hConfirmed := congrArg MFADevice.confirmed hFactor
  exact ⟨row, mem_of_find?_eq_some hFind, hFind, hId, hUser, hKind, hConfirmed⟩

variable {change : MFADevice → MFADevice}

theorem deviceById_changeDevice {other : Uuid} (hId : ∀ row, (change row).id = row.id) :
    deviceById other (changeDevice id change db).mfaDevices =
      (deviceById other db.mfaDevices).map (fun row => if row.id = id then change row
        else row) := by
  unfold deviceById changeDevice
  rw [find?_map]
  congr 2
  funext row
  simp only [Function.comp_apply]
  split
  · rw [hId]
  · rfl

theorem Kept.changeDevice_of_ne (hId : ∀ row, (change row).id = row.id) (hOther : id ≠ device.id)
    (hKept : Kept device db.mfaDevices) : Kept device (changeDevice id change db).mfaDevices := by
  rcases hKept.exists_row with ⟨row, _, hFind, hRow, _⟩
  unfold Kept at hKept ⊢
  rw [deviceById_changeDevice hId]
  rw [hFind] at hKept ⊢
  rw [Option.map_some, if_neg (fun hSame => hOther (hSame.symm.trans hRow))]
  exact hKept

theorem Kept.changeDevice_used {counter : Int} (hKept : Kept device db.mfaDevices) :
    Kept device (changeDevice id (used now counter) db).mfaDevices := by
  unfold Kept at hKept ⊢
  rw [deviceById_changeDevice (used_id now counter), Option.map_map, ← hKept]
  congr 1
  funext row
  simp only [Function.comp_apply]
  split
  · exact factor_used now counter row
  · rfl

theorem Kept.append {others : List MFADevice} (hKept : Kept device devices) :
    Kept device (devices ++ others) := by
  rcases hKept.exists_row with ⟨row, _, hFind, _⟩
  unfold Kept at hKept ⊢
  rw [hFind] at hKept
  unfold deviceById at hFind ⊢
  rw [find?_append, hFind]
  exact hKept

end PamOlive.Mfa
