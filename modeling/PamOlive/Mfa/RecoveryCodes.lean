import PamOlive.Mfa.SingleUse

/-
  Recovery codes are used once, and can be revoked.

  In whatever order batches are replaced, codes consumed, and devices enrolled, confirmed and
  removed, a code is accepted at most once, for a user with a confirmed device. Replacing a batch
  takes no lock, so a call revokes the codes that were there when its `DELETE` began, and no others.
  Codes are distinct, passwords are checked exactly, and `replace_recovery_codes` gets a device of
  the user, as in both views.

  Main declarations:
    * `RecoveryStep`
    * `Sound` and `Sound.step`
    * `recovery_codes_single_use_iff`
-/

---- The System

namespace PamOlive.Mfa

open Foundations Sessions List

/-
  A call of `replace_recovery_codes` that is not committed: the keys of the rows that its `DELETE`
  finds, and the texts shown for the device until then.
-/
structure Replacement where
  user : UserId
  deviceId : Uuid
  removed : List Uuid
  retires : List Text
deriving DecidableEq

/-
  The database; every code shown, with its device; the texts accepted; the texts that a committed
  call revokes; and the calls that are open.
-/
structure RecoveryState where
  db : Database
  shown : List (Uuid × FreshCode)
  accepted : List Text
  retired : List Text
  pending : List Replacement

open RecoveryState

inductive RecoveryLabel where
  | delete (user : UserId) (deviceId : Uuid)
  | create (call : Replacement) (fresh : Nat → FreshCode)
  | rollback (call : Replacement)
  | consume (now : Int) (user : UserId) (token : Text)
  | enroll (site : Site) (fresh : FreshDevice) (user : UserId)
  | confirm (call : TotpCall) (deviceId : Uuid)
  | reset (user : UserId)

/- The codes of one call of `replace_recovery_codes`. -/
def batch (fresh : Nat → FreshCode) : List FreshCode := (range 10).map fresh

namespace RecoveryState

section

variable (state : RecoveryState)

def codes : List FreshCode := state.shown.map Prod.snd

/- The `DELETE` of a call: it sees what is committed. -/
def replacement (user : UserId) (deviceId : Uuid) : Replacement where
  user := user
  deviceId := deviceId
  removed := (state.db.recoveryCodes.filter (fun row =>
    decide (row.userId = user ∧ row.deviceId = deviceId))).map MFARecoveryCode.id
  retires :=
    (state.shown.filter (fun entry => decide (entry.1 = deviceId))).map (fun entry => entry.2.raw)

def started (user : UserId) (deviceId : Uuid) : RecoveryState :=
  { state with pending := state.replacement user deviceId :: state.pending }

/- The commit of a call: its rows are gone, its codes stored and shown. -/
def replaced (call : Replacement) (fresh : Nat → FreshCode) : RecoveryState where
  db :=
    { state.db with
      recoveryCodes := state.db.recoveryCodes.filter (fun row => decide (row.id ∉ call.removed)) ++
        (batch fresh).map (codeRow call.user call.deviceId) }
  shown := state.shown ++ (batch fresh).map (fun code => (call.deviceId, code))
  accepted := state.accepted
  retired := state.retired ++ call.retires
  pending := state.pending.erase call

end

end RecoveryState

/- New codes: checked exactly, with texts and keys that no code had before. -/
structure FreshBatch
    (library : MfaLibrary) (codes : List FreshCode) (state : RecoveryState) : Prop where
  exact : ∀ code ∈ codes, ∀ text, library.checkPassword text code.codeHash = true ↔ text = code.raw
  texts : ((state.codes ++ codes).map FreshCode.raw).Nodup
  keys : ((state.codes ++ codes).map FreshCode.id).Nodup

def Owns (user : UserId) (deviceId : Uuid) (db : Database) : Prop :=
  ∃ device, deviceById deviceId db.mfaDevices = some device ∧ device.userId = user

def acceptedText
    (library : MfaLibrary) (user : UserId) (token : Text) (db : Database) : List Text :=
  if (matchingRecoveryCode library user token db).isSome
  then [normalizedRecoveryCode library token]
  else []

/-
  `delete`, `create` and `rollback` are the parts of `replace_recovery_codes`. A code needs the row
  of its device when the call commits. That a call waits for the rows another one locks only takes
  runs away.
-/
inductive RecoveryStep (library : MfaLibrary) (state : RecoveryState) :
    RecoveryLabel → RecoveryState → Prop
  | delete {user : UserId} {deviceId : Uuid}
    (hOwner : ∀ device, deviceById deviceId state.db.mfaDevices = some device →
      device.userId = user) :
    RecoveryStep library state (.delete user deviceId) (state.started user deviceId)
  | create {call : Replacement} {fresh : Nat → FreshCode} (hCall : call ∈ state.pending)
    (hFresh : FreshBatch library (batch fresh) state)
    (hOwns : Owns call.user call.deviceId state.db) :
    RecoveryStep library state (.create call fresh) (state.replaced call fresh)
  | rollback {call : Replacement} : RecoveryStep library state (.rollback call)
      { state with pending := state.pending.erase call }
  | consume {now : Int} {user : UserId} {token : Text} :
    RecoveryStep library state (.consume now user token)
      { state with
        db := (commit (consumeRecoveryCode library now user token) state.db).2
        accepted := state.accepted ++ acceptedText library user token state.db }
  | enroll {site : Site} {fresh : FreshDevice} {user : UserId} :
    RecoveryStep library state (.enroll site fresh user)
      { state with db := (commit (beginTotpEnrollment site fresh user) state.db).2 }
  | confirm {call : TotpCall} {deviceId : Uuid} :
    RecoveryStep library state (.confirm call deviceId)
      { state with db := (checkTotp call (.confirm deviceId) state.db).2 }
  | reset {user : UserId} : RecoveryStep library state (.reset user)
    { state with db := resetUserMfa user state.db }

def recoverySystem (library : MfaLibrary) : TransitionSystem RecoveryState RecoveryLabel where
  init := fun state =>
    state.db.recoveryCodes = [] ∧ state.shown = [] ∧ state.accepted = [] ∧
      state.retired = [] ∧ state.pending = []
  step := RecoveryStep library

---- Rows And Texts

section

variable (library : MfaLibrary) (state : RecoveryState)

/- The code of which a row holds the hash. -/
structure IsCode (row : MFARecoveryCode) (code : FreshCode) : Prop where
  shown : (row.deviceId, code) ∈ state.shown
  sameId : row.id = code.id
  sameHash : row.codeHash = code.codeHash
  current : code.raw ∉ state.retired
  unused : row.usedAt = none → code.raw ∉ state.accepted
  owns : Owns row.userId row.deviceId state.db

/- An open call knows the texts of the rows that it removes. -/
structure Revokes (call : Replacement) : Prop where
  shown : ∀ text ∈ call.retires, text ∈ state.codes.map FreshCode.raw
  removed : ∀ id ∈ call.removed, id ∈ state.codes.map FreshCode.id
  removes : ∀ row ∈ state.db.recoveryCodes, ∀ code, IsCode state row code →
    (row.id ∈ call.removed ↔ code.raw ∈ call.retires)

structure Sound : Prop where
  exact : ∀ code ∈ state.codes, ∀ text,
    library.checkPassword text code.codeHash = true ↔ text = code.raw
  texts : (state.codes.map FreshCode.raw).Nodup
  keys : (state.codes.map FreshCode.id).Nodup
  rows : ∀ row ∈ state.db.recoveryCodes, ∃ code, IsCode state row code
  known : ∀ text ∈ state.accepted ++ state.retired, text ∈ state.codes.map FreshCode.raw
  once : state.accepted.Nodup
  calls : ∀ call ∈ state.pending, Revokes state call

end

variable {library : MfaLibrary} {state : RecoveryState} {row : MFARecoveryCode} {code : FreshCode}
variable {db : Database} {user : UserId} {text : Text}

theorem IsCode.mem (hCode : IsCode state row code) : code ∈ state.codes :=
  mem_map.mpr ⟨_, hCode.shown, rfl⟩

section

variable (hSound : Sound library state)

include hSound

theorem Sound.check_iff (hCode : IsCode state row code) :
    library.checkPassword text row.codeHash = true ↔ text = code.raw := by
  rw [hCode.sameHash]
  exact hSound.exact code hCode.mem text

theorem Sound.entry_eq {entry entry' : Uuid × FreshCode}
    (hEntry : entry ∈ state.shown) (hEntry' : entry' ∈ state.shown)
    (hRaw : entry.2.raw = entry'.2.raw) : entry = entry' := by
  have hTexts := hSound.texts
  rw [codes, map_map] at hTexts
  exact inj_on_of_nodup_map hTexts hEntry hEntry' hRaw

theorem Sound.code_eq {code' : FreshCode} (hCode : IsCode state row code)
    (hMem : code' ∈ state.codes) (hId : row.id = code'.id) : code = code' :=
  inj_on_of_nodup_map hSound.keys hCode.mem hMem (hCode.sameId.symm.trans hId)

/-
  Rows that come from old ones, of devices that are still there. The texts accepted meanwhile are
  not those of unused rows.
-/
theorem Sound.of_rows {texts : List Text} {pending : List Replacement}
    (hRows : ∀ row ∈ db.recoveryCodes, ∃ old ∈ state.db.recoveryCodes, row.id = old.id ∧
      row.deviceId = old.deviceId ∧ row.codeHash = old.codeHash ∧
      (row.usedAt = none → old.usedAt = none ∧
        ∀ text ∈ texts, ¬ library.checkPassword text old.codeHash = true) ∧
      Owns row.userId row.deviceId db)
    (hTexts : ∀ text ∈ texts, text ∈ state.codes.map FreshCode.raw)
    (hOnce : (state.accepted ++ texts).Nodup)
    (hPending : ∀ call ∈ pending, call ∈ state.pending) :
    Sound library
      { state with
        db := db
        accepted := state.accepted ++ texts
        pending := pending } := by
  refine ⟨hSound.exact, hSound.texts, hSound.keys, ?_, ?_, hOnce, ?_⟩
  · intro row hRow
    rcases hRows row hRow with ⟨old, hOld, hId, hDevice, hHash, hUnused, hOwns⟩
    rcases hSound.rows old hOld with ⟨code, hCode⟩
    refine ⟨code, hDevice ▸ hCode.shown, hId.trans hCode.sameId, hHash.trans hCode.sameHash,
      hCode.current, ?_, hOwns⟩
    intro hNone hMem
    rcases mem_append.mp hMem with hBefore | hNow
    · exact hCode.unused (hUnused hNone).1 hBefore
    · exact (hUnused hNone).2 _ hNow ((hSound.check_iff hCode).mpr rfl)
  · intro text hText
    rcases mem_append.mp hText with hAccepted | hRetired
    · rcases mem_append.mp hAccepted with hBefore | hNow
      · exact hSound.known text (mem_append_left _ hBefore)
      · exact hTexts text hNow
    · exact hSound.known text (mem_append_right _ hRetired)
  · intro call hCall
    rcases hSound.calls call (hPending call hCall) with ⟨hShown, hRemoved, hRemoves⟩
    refine ⟨hShown, hRemoved, ?_⟩
    intro row hRow code hCode
    rcases hRows row hRow with ⟨old, hOld, hId, _⟩
    rcases hSound.rows old hOld with ⟨code', hCode'⟩
    cases hSound.code_eq hCode' (mem_map.mpr ⟨_, hCode.shown, rfl⟩) (hId.symm.trans hCode.sameId)
    rw [hId]
    exact hRemoves old hOld _ hCode'

/- The database alone changes. -/
theorem Sound.of_db {pending : List Replacement}
    (hRows : ∀ row ∈ db.recoveryCodes, row ∈ state.db.recoveryCodes ∧
      Owns row.userId row.deviceId db)
    (hPending : ∀ call ∈ pending, call ∈ state.pending) :
    Sound library
      { state with db := db, pending := pending } := by
  have hOnce : (state.accepted ++ []).Nodup := by
    rw [append_nil]
    exact hSound.once
  have hAfter := @Sound.of_rows library state db hSound [] pending
    (fun row hRow => ⟨row, (hRows row hRow).1, rfl, rfl, rfl,
      fun hNone => ⟨hNone, fun _ hMem => absurd hMem not_mem_nil⟩, (hRows row hRow).2⟩)
    (fun _ hMem => absurd hMem not_mem_nil) hOnce hPending
  rw [append_nil] at hAfter
  exact hAfter

theorem Sound.owns (hRow : row ∈ state.db.recoveryCodes) : Owns row.userId row.deviceId state.db :=
  (hSound.rows row hRow).elim fun _ hCode => hCode.owns

end

theorem matchingRecoveryCode_eq_some {token : Text}
    (hMatch : matchingRecoveryCode library user token db = some row) :
    row ∈ db.recoveryCodes ∧ row.userId = user ∧ row.usedAt = none ∧
      (∃ device, deviceById row.deviceId db.mfaDevices = some device ∧ device.confirmed = true) ∧
      library.checkPassword (normalizedRecoveryCode library token) row.codeHash = true := by
  unfold matchingRecoveryCode at hMatch
  dsimp only at hMatch
  split at hMatch
  · exact nomatch hMatch
  · have hChecked := find?_some hMatch
    have hUsable := mem_filter.mp (mem_of_find?_eq_some hMatch)
    rcases hUsable with ⟨hMem, hUsable⟩
    unfold isUsableCode at hUsable
    rw [Bool.and_eq_true, decide_eq_true_eq, Option.any_eq_true] at hUsable
    exact ⟨hMem, hUsable.1.1, hUsable.1.2, hUsable.2, hChecked⟩

---- Devices

/- The codes stay, and no device is lost or given to another user. -/
structure KeepsOwners (before after : Database) : Prop where
  codes : after.recoveryCodes = before.recoveryCodes
  owns : ∀ user deviceId, Owns user deviceId before → Owns user deviceId after

theorem KeepsOwners.refl (db : Database) : KeepsOwners db db := ⟨rfl, fun _ _ hOwns => hOwns⟩

theorem keepsOwners_changeDevice {id : Uuid} {change : MFADevice → MFADevice}
    (hId : ∀ row, (change row).id = row.id) (hUser : ∀ row, (change row).userId = row.userId) :
    KeepsOwners db (changeDevice id change db) := by
  refine ⟨rfl, ?_⟩
  rintro user deviceId ⟨device, hDevice, hOwner⟩
  unfold Owns
  rw [deviceById_changeDevice hId, hDevice]
  refine ⟨_, rfl, ?_⟩
  dsimp only
  split
  · rw [hUser]
    exact hOwner
  · exact hOwner

theorem keepsOwners_enroll {site : Site} {fresh : FreshDevice} (db : Database) :
    KeepsOwners db (commit (beginTotpEnrollment site fresh user) db).2 := by
  refine commit_relates KeepsOwners.refl ?_ db
  intro before value after hBegin
  rcases bind_eq_ok_iff.mp hBegin with ⟨token, _, hBegin⟩
  split at hBegin
  · rcases require_bind_eq_ok_iff.mp hBegin with ⟨_, hBegin⟩
    rw [pure_eq_ok_iff, Prod.mk.injEq] at hBegin
    rw [← hBegin.2]
    refine ⟨rfl, ?_⟩
    rintro owner deviceId ⟨device, hDevice, hOwner⟩
    refine ⟨device, ?_, hOwner⟩
    unfold deviceById at hDevice ⊢
    rw [find?_append, hDevice]
    rfl
  · rw [pure_eq_ok_iff, Prod.mk.injEq] at hBegin
    rw [← hBegin.2]
    exact keepsOwners_changeDevice (enrolling_id token) (fun _ => rfl)
  · exact nomatch hBegin

variable {call : TotpCall} {deviceId : Uuid}

theorem keepsOwners_confirm (db : Database) :
    KeepsOwners db (checkTotp call (.confirm deviceId) db).2 := by
  rcases checkTotp_cases call (.confirm deviceId) db with ⟨_, _, hSame⟩ | ⟨id, counter, _, hChecked⟩
  · rw [hSame]
    exact KeepsOwners.refl db
  · rw [hChecked]
    exact keepsOwners_changeDevice (acceptedRow_id counter) (fun _ => rfl)

section

variable (hSound : Sound library state)

include hSound

theorem Sound.of_keepsOwners (hKeeps : KeepsOwners state.db db) :
    Sound library { state with db := db } := by
  refine hSound.of_db ?_ (fun _ hCall => hCall)
  intro row hRow
  rw [hKeeps.codes] at hRow
  exact ⟨hRow, hKeeps.owns _ _ (hSound.owns hRow)⟩

theorem Sound.reset (user : UserId) :
    Sound library { state with db := resetUserMfa user state.db } := by
  refine hSound.of_db ?_ (fun _ hCall => hCall)
  intro row hRow
  rcases mem_filter.mp hRow with ⟨hOld, hKept⟩
  rcases hSound.owns hOld with ⟨device, hDevice, hOwner⟩
  rw [hDevice, Option.any_some, Bool.not_eq_true', decide_eq_false_iff_not] at hKept
  refine ⟨hOld, device, ?_, hOwner⟩
  unfold deviceById at hDevice ⊢
  unfold resetUserMfa
  -- The first row with the key is not removed.
  rw [find?_filter, find?_eq_some_iff_append]
  rw [find?_eq_some_iff_append] at hDevice
  rcases hDevice with ⟨hId, front, back, hSplit, hFront⟩
  refine ⟨by simp [hKept, of_decide_eq_true hId], front, back, hSplit, ?_⟩
  intro other hOther
  have hNot := hFront other hOther
  simp only [Bool.not_eq_true', decide_eq_false_iff_not] at hNot
  simp [hNot]

---- Replacing Codes

variable {fresh : Nat → FreshCode}

/- Two rows with one key are of the same code, device and user. -/
theorem Sound.row_eq {other : MFARecoveryCode} (hRow : row ∈ state.db.recoveryCodes)
    (hOther : other ∈ state.db.recoveryCodes) (hId : other.id = row.id) :
    other.userId = row.userId ∧ other.deviceId = row.deviceId := by
  rcases hSound.rows row hRow with ⟨code, hCode⟩
  rcases hSound.rows other hOther with ⟨code', hCode'⟩
  have hSame := hSound.code_eq hCode' hCode.mem (hId.trans hCode.sameId)
  have hEntry := hSound.entry_eq hCode'.shown hCode.shown (congrArg FreshCode.raw hSame)
  have hDevice : other.deviceId = row.deviceId := congrArg Prod.fst hEntry
  rcases hCode.owns with ⟨device, hFound, hUser⟩
  rcases hCode'.owns with ⟨device', hFound', hUser'⟩
  rw [hDevice, hFound] at hFound'
  injection hFound' with hFound'
  exact ⟨hUser'.symm.trans (hFound' ▸ hUser), hDevice⟩

theorem Sound.mem_removed_iff (hRow : row ∈ state.db.recoveryCodes) :
    row.id ∈ (state.replacement user deviceId).removed ↔
      row.userId = user ∧ row.deviceId = deviceId := by
  unfold replacement
  rw [mem_map]
  constructor
  · rintro ⟨other, hOther, hSame⟩
    rw [mem_filter, decide_eq_true_eq] at hOther
    rcases hSound.row_eq hRow hOther.1 hSame with ⟨hUser, hDevice⟩
    exact ⟨hUser ▸ hOther.2.1, hDevice ▸ hOther.2.2⟩
  · exact fun hBoth => ⟨row, mem_filter.mpr ⟨hRow, decide_eq_true hBoth⟩, rfl⟩

/- Without another call between them, the two parts are `replace_recovery_codes`. -/
theorem Sound.replaced_replacement :
    ((state.started user deviceId).replaced (state.replacement user deviceId) fresh).db =
      (replaceRecoveryCodes fresh user deviceId state.db).2 := by
  have hRows : state.db.recoveryCodes.filter
      (fun row => decide (row.id ∉ (state.replacement user deviceId).removed)) =
    state.db.recoveryCodes.filter
      (fun row => decide (¬ (row.userId = user ∧ row.deviceId = deviceId))) :=
    filter_congr fun row hRow => decide_eq_decide.mpr (not_congr (hSound.mem_removed_iff hRow))
  unfold replaced replaceRecoveryCodes
  rw [← hRows]
  rfl

theorem Sound.revokes_replacement
    (hOwner : ∀ device, deviceById deviceId state.db.mfaDevices = some device →
      device.userId = user) : Revokes state (state.replacement user deviceId) := by
  refine ⟨?_, ?_, ?_⟩
  · intro text hText
    rcases mem_map.mp hText with ⟨entry, hEntry, rfl⟩
    exact mem_map_of_mem (mem_map_of_mem (mem_filter.mp hEntry).1)
  · intro id hId
    rcases mem_map.mp hId with ⟨row, hRow, rfl⟩
    rcases hSound.rows row (mem_filter.mp hRow).1 with ⟨code, hCode⟩
    rw [hCode.sameId]
    exact mem_map_of_mem hCode.mem
  intro row hRow code hCode
  rw [hSound.mem_removed_iff hRow, replacement, mem_map]
  constructor
  · rintro ⟨_, hDevice⟩
    exact ⟨_, mem_filter.mpr ⟨hCode.shown, decide_eq_true hDevice⟩, rfl⟩
  · rintro ⟨entry, hEntry, hRaw⟩
    rw [mem_filter, decide_eq_true_eq] at hEntry
    have hDevice : row.deviceId = deviceId :=
      (congrArg Prod.fst (hSound.entry_eq hEntry.1 hCode.shown hRaw)).symm.trans hEntry.2
    rcases hCode.owns with ⟨device, hFound, hUser⟩
    rw [hDevice] at hFound
    exact ⟨hUser.symm.trans (hOwner device hFound), hDevice⟩

theorem Sound.delete (hOwner : ∀ device, deviceById deviceId state.db.mfaDevices = some device →
    device.userId = user) : Sound library (state.started user deviceId) := by
  have hCalls : ∀ call ∈ (state.started user deviceId).pending, Revokes state call := by
    intro call hCall
    rcases mem_cons.mp hCall with rfl | hBefore
    · exact hSound.revokes_replacement hOwner
    · exact hSound.calls call hBefore
  refine ⟨hSound.exact, hSound.texts, hSound.keys, ?_, hSound.known, hSound.once, ?_⟩
  · intro row hRow
    rcases hSound.rows row hRow with ⟨code, hCode⟩
    exact ⟨code, { hCode with }⟩
  · intro call hCall
    rcases hCalls call hCall with ⟨hShown, hRemoved, hRemoves⟩
    exact ⟨hShown, hRemoved, fun row hRow code hCode => hRemoves row hRow code { hCode with }⟩

end

variable {call : Replacement} {fresh : Nat → FreshCode}

theorem codes_replaced : (state.replaced call fresh).codes = state.codes ++ batch fresh := by
  simp [codes, replaced]

theorem mem_replaced_iff : row ∈ (state.replaced call fresh).db.recoveryCodes ↔
    (row ∈ state.db.recoveryCodes ∧ row.id ∉ call.removed) ∨
    ∃ code ∈ batch fresh, codeRow call.user call.deviceId code = row := by
  unfold replaced
  rw [mem_append, mem_filter, decide_eq_true_eq, mem_map]

section

variable (hFresh : FreshBatch library (batch fresh) state)

include hFresh

theorem FreshBatch.raw_notMem (hCode : code ∈ batch fresh) :
    code.raw ∉ state.codes.map FreshCode.raw := by
  have hTexts := hFresh.texts
  rw [map_append, nodup_append] at hTexts
  exact fun hOld => hTexts.2.2 _ hOld _ (mem_map_of_mem hCode) rfl

theorem FreshBatch.id_notMem (hCode : code ∈ batch fresh) :
    code.id ∉ state.codes.map FreshCode.id := by
  have hKeys := hFresh.keys
  rw [map_append, nodup_append] at hKeys
  exact fun hOld => hKeys.2.2 _ hOld _ (mem_map_of_mem hCode) rfl

variable (hSound : Sound library state)

include hSound

theorem Sound.isCode_replaced (hCall : call ∈ state.pending)
    (hOwns : Owns call.user call.deviceId state.db)
    (hRow : row ∈ (state.replaced call fresh).db.recoveryCodes) :
    ∃ code, IsCode (state.replaced call fresh) row code := by
  rcases hSound.calls call hCall with ⟨hShown, _, hRemoves⟩
  rcases mem_replaced_iff.mp hRow with ⟨hOld, hStays⟩ | ⟨code, hCode, rfl⟩
  · rcases hSound.rows row hOld with ⟨code, hCode⟩
    refine ⟨code, mem_append_left _ hCode.shown, hCode.sameId, hCode.sameHash, ?_, hCode.unused,
      hCode.owns⟩
    intro hRetired
    rcases mem_append.mp hRetired with hBefore | hNow
    · exact hCode.current hBefore
    · exact hStays ((hRemoves row hOld code hCode).mpr hNow)
  · have hNew := hFresh.raw_notMem hCode
    refine ⟨code, mem_append_right _ (mem_map_of_mem hCode), rfl, rfl, ?_,
      fun _ hMem => hNew (hSound.known _ (mem_append_left _ hMem)), hOwns⟩
    intro hRetired
    rcases mem_append.mp hRetired with hBefore | hNow
    · exact hNew (hSound.known _ (mem_append_right _ hBefore))
    · exact hNew (hShown _ hNow)

/- The new codes are not those that another open call removes. -/
theorem Sound.revokes_replaced {other : Replacement} (hOther : other ∈ state.pending) :
    Revokes (state.replaced call fresh) other := by
  rcases hSound.calls other hOther with ⟨hShown, hRemoved, hRemoves⟩
  refine ⟨?_, ?_, ?_⟩
  · intro text hText
    rw [codes_replaced, map_append]
    exact mem_append_left _ (hShown text hText)
  · intro id hId
    rw [codes_replaced, map_append]
    exact mem_append_left _ (hRemoved id hId)
  intro row hRow code hCode
  have hMem := hCode.mem
  have hKeys := hFresh.keys
  rw [codes_replaced] at hMem
  rcases mem_replaced_iff.mp hRow with ⟨hOld, _⟩ | ⟨made, hMade, rfl⟩
  · rcases hSound.rows row hOld with ⟨code', hCode'⟩
    cases inj_on_of_nodup_map hKeys hMem (mem_append_left _ hCode'.mem)
      (hCode.sameId.symm.trans hCode'.sameId)
    exact hRemoves row hOld code hCode'
  · cases inj_on_of_nodup_map hKeys hMem (mem_append_right _ hMade) hCode.sameId.symm
    exact iff_of_false (fun hId => hFresh.id_notMem hMade (hRemoved _ hId))
      (fun hRaw => hFresh.raw_notMem hMade (hShown _ hRaw))

theorem Sound.create (hCall : call ∈ state.pending)
    (hOwns : Owns call.user call.deviceId state.db) :
    Sound library (state.replaced call fresh) where
  exact := by
    rw [codes_replaced]
    intro code hCode
    rcases mem_append.mp hCode with hOld | hNew
    · exact hSound.exact code hOld
    · exact hFresh.exact code hNew
  texts := codes_replaced ▸ hFresh.texts
  keys := codes_replaced ▸ hFresh.keys
  rows := fun _ hRow => hSound.isCode_replaced hFresh hCall hOwns hRow
  known := by
    intro text hText
    rw [codes_replaced, map_append]
    refine mem_append_left _ ?_
    rcases mem_append.mp hText with hAccepted | hRetired
    · exact hSound.known text (mem_append_left _ hAccepted)
    · rcases mem_append.mp hRetired with hBefore | hNow
      · exact hSound.known text (mem_append_right _ hBefore)
      · exact (hSound.calls call hCall).shown text hNow
  once := hSound.once
  calls := fun _ hOther => hSound.revokes_replaced hFresh (mem_of_mem_erase hOther)

end

---- Consuming Codes

variable {now : Int}

theorem mem_markUsed {codeId : Uuid} (hRow : row ∈ (markUsed now codeId db).recoveryCodes) :
    ∃ old ∈ db.recoveryCodes, row.id = old.id ∧ row.userId = old.userId ∧
      row.deviceId = old.deviceId ∧ row.codeHash = old.codeHash ∧
      (row.usedAt = none → old.id ≠ codeId ∧ old.usedAt = none) := by
  rcases mem_map.mp hRow with ⟨old, hOld, hEq⟩
  refine ⟨old, hOld, ?_⟩
  split at hEq
  · rw [← hEq]
    exact ⟨rfl, rfl, rfl, rfl, fun hNone => absurd hNone (Option.some_ne_none _)⟩
  · rename_i hOther
    rw [← hEq]
    exact ⟨rfl, rfl, rfl, rfl, fun hNone => ⟨hOther, hNone⟩⟩

theorem Sound.markUsed (hSound : Sound library state)
    (hRow : row ∈ state.db.recoveryCodes) (hNew : row.usedAt = none)
    (hCheck : library.checkPassword text row.codeHash = true) :
    Sound library { state with
        db := Mfa.markUsed now row.id state.db
        accepted := state.accepted ++ [text] } := by
  rcases hSound.rows row hRow with ⟨code, hCode⟩
  have hText : text = code.raw := (hSound.check_iff hCode).mp hCheck
  subst hText
  refine hSound.of_rows ?_ ?_ ?_ (fun _ hCall => hCall)
  · intro marked hMarked
    rcases mem_markUsed hMarked with ⟨old, hOld, hId, hUser, hDevice, hHash, hUnused⟩
    refine ⟨old, hOld, hId, hDevice, hHash, ?_, ?_⟩
    · intro hNone
      refine ⟨(hUnused hNone).2, ?_⟩
      intro text hText hOldCheck
      rw [mem_singleton.mp hText] at hOldCheck
      rcases hSound.rows old hOld with ⟨code', hCode'⟩
      have hRaw := (hSound.check_iff hCode').mp hOldCheck
      have hSame := hSound.entry_eq hCode.shown hCode'.shown hRaw
      injection hSame with _ hSame
      apply (hUnused hNone).1
      rw [hCode.sameId, hCode'.sameId, hSame]
    · rw [hUser, hDevice]
      exact hSound.owns hOld
  · intro text hText
    rw [mem_singleton.mp hText]
    exact mem_map_of_mem hCode.mem
  · rw [nodup_append]
    refine ⟨hSound.once, nodup_singleton _, ?_⟩
    intro given hGiven given' hGiven' hSame
    rw [hSame, mem_singleton.mp hGiven'] at hGiven
    exact hCode.unused hNew hGiven

---- Runs

theorem Sound.step {label : RecoveryLabel} {after : RecoveryState} (hSound : Sound library state)
    (hStep : RecoveryStep library state label after) : Sound library after := by
  cases label with
  | delete user deviceId =>
    cases hStep with
    | delete hOwner => exact hSound.delete hOwner
  | create call fresh =>
    cases hStep with
    | create hCall hFresh hOwns => exact hSound.create hFresh hCall hOwns
  | rollback call =>
    cases hStep
    exact hSound.of_db (fun _ hRow => ⟨hRow, hSound.owns hRow⟩) (fun _ => mem_of_mem_erase)
  | consume now user token =>
    cases hStep
    unfold acceptedText commit consumeRecoveryCode
    cases hMatch : matchingRecoveryCode library user token state.db with
    | none => simpa using hSound
    | some row =>
      rcases matchingRecoveryCode_eq_some hMatch with ⟨hRow, _, hNew, _, hCheck⟩
      exact hSound.markUsed hRow hNew hCheck
  | enroll site fresh user =>
    cases hStep
    exact hSound.of_keepsOwners (keepsOwners_enroll _)
  | confirm call deviceId =>
    cases hStep
    exact hSound.of_keepsOwners (keepsOwners_confirm _)
  | reset user =>
    cases hStep
    exact hSound.reset user

theorem sound_of_reachable (hReachable : (recoverySystem library).Reachable state) :
    Sound library state := by
  refine hReachable.invariant ?_ (fun _ _ _ hBefore hStep => hBefore.step hStep)
  rintro start ⟨hCodes, hShown, hAccepted, hRetired, hPending⟩
  have hNone : start.codes = [] := by rw [codes, hShown, map_nil]
  constructor <;> simp [hNone, hCodes, hAccepted, hRetired, hPending]

/-
  In every run each code is accepted at most once. An accepted token is, up to separators and case,
  a code that was shown and not accepted before, no committed call revoked it, and the user has a
  confirmed device. A call revokes a stored code exactly if it was shown before its `DELETE`.
-/
theorem recovery_codes_single_use_iff (hReachable : (recoverySystem library).Reachable state) :
    state.accepted.Nodup ∧
      (∀ now user token after, consumeRecoveryCode library now user token state.db =
        .ok (true, after) → normalizedRecoveryCode library token ∈ state.codes.map FreshCode.raw ∧
          normalizedRecoveryCode library token ∉ state.accepted ∧
          normalizedRecoveryCode library token ∉ state.retired ∧
          ∃ device ∈ state.db.mfaDevices, device.userId = user ∧ device.confirmed = true) ∧
      ∀ call ∈ state.pending, ∀ fresh, FreshBatch library (batch fresh) state →
        ∀ row ∈ state.db.recoveryCodes, ∀ text, library.checkPassword text row.codeHash = true →
            (row ∉ (state.replaced call fresh).db.recoveryCodes ↔ text ∈ call.retires) := by
  have hSound := sound_of_reachable hReachable
  refine ⟨hSound.once, ?_, ?_⟩
  · intro now user token after hConsume
    unfold consumeRecoveryCode at hConsume
    split at hConsume
    · simp at hConsume
    rename_i row hMatch
    rcases matchingRecoveryCode_eq_some hMatch with
      ⟨hRow, hUser, hUnused, ⟨device, hDevice, hConfirmed⟩, hCheck⟩
    rcases hSound.rows row hRow with ⟨code, hCode⟩
    rw [(hSound.check_iff hCode).mp hCheck]
    refine ⟨mem_map_of_mem hCode.mem, hCode.unused hUnused, hCode.current, device,
      mem_of_find?_eq_some hDevice, ?_, hConfirmed⟩
    rcases hCode.owns with ⟨device', hDevice', hOwner⟩
    cases hDevice.symm.trans hDevice'
    exact hOwner.trans hUser
  · intro call hCall fresh hFresh row hRow text hCheck
    rcases hSound.rows row hRow with ⟨code, hCode⟩
    rw [(hSound.check_iff hCode).mp hCheck, mem_replaced_iff,
      ← (hSound.calls call hCall).removes row hRow code hCode]
    constructor
    · exact fun hGone => by_contra fun hStays => hGone (.inl ⟨hRow, hStays⟩)
    · rintro hRemoved (⟨_, hStays⟩ | ⟨made, hMade, rfl⟩)
      · exact hStays hRemoved
      · exact hFresh.id_notMem hMade (mem_map.mpr ⟨code, hCode.mem, hCode.sameId.symm⟩)

def recoveryStart : RecoveryState where
  db :=
    { sampleDatabase sampleCredential samplePolicies with
      mfaDevices := [localDevice]
      recoveryCodes := [] }
  shown := []
  accepted := []
  retired := []
  pending := []

/- The codes of a batch begin with a text. -/
def sampleCode (first : Text) (index : Nat) : FreshCode :=
  let raw := first ++ Text.ofString "B12CD34E" ++ ((Text.ofString "0123456789").drop index).take 1
  { id := BitVec.ofNat 128 (first.foldl (fun total point => total + point.val) index)
    raw := raw
    codeHash := raw }

def sampleCall : Replacement := recoveryStart.replacement sampleUser localDevice.id

def calledTwice : RecoveryState :=
  (recoveryStart.started sampleUser localDevice.id).started sampleUser localDevice.id

def replacedOnce : RecoveryState := calledTwice.replaced sampleCall (sampleCode "A")

def replacedTwice : RecoveryState := replacedOnce.replaced sampleCall (sampleCode "0")

theorem freshBatch_sampleCode {first : Text}
    (hTexts : ((state.codes ++ batch (sampleCode first)).map FreshCode.raw).Nodup)
    (hKeys : ((state.codes ++ batch (sampleCode first)).map FreshCode.id).Nodup) :
    FreshBatch sampleMfaLibrary (batch (sampleCode first)) state where
  exact := by
    intro code hCode text
    rcases mem_map.mp hCode with ⟨index, _, rfl⟩
    exact decide_eq_true_iff
  texts := hTexts
  keys := hKeys

theorem reachable_replacedOnce : (recoverySystem sampleMfaLibrary).Reachable replacedOnce := by
  have hOwner : ∀ device, deviceById localDevice.id [localDevice] = some device →
    device.userId = sampleUser := by
    rintro device ⟨⟩
    rfl
  refine ⟨recoveryStart, _, ⟨rfl, rfl, rfl, rfl, rfl⟩, .cons (.delete hOwner)
    (.cons (.delete hOwner) (.cons (.create (by decide)
      (freshBatch_sampleCode (by decide) (by decide)) ⟨localDevice, rfl, rfl⟩) (.nil _)))⟩

theorem recovery_codes_single_use_sample :
    consumeRecoveryCode sampleMfaLibrary 0 sampleUser (sampleCode "A" 3).plain replacedOnce.db =
      .ok (true, markUsed 0 68 replacedOnce.db) ∧
      normalizedRecoveryCode sampleMfaLibrary (sampleCode "A" 3).plain ∉ replacedOnce.accepted ∧
      ∃ device ∈ replacedOnce.db.mfaDevices,
        device.userId = sampleUser ∧ device.confirmed = true := by
  have hConsume :
    consumeRecoveryCode sampleMfaLibrary 0 sampleUser (sampleCode "A" 3).plain replacedOnce.db =
      .ok (true, markUsed 0 68 replacedOnce.db) := rfl
  have hCode := (recovery_codes_single_use_iff reachable_replacedOnce).2.1 _ _ _ _ hConsume
  exact ⟨hConsume, hCode.2.1, hCode.2.2.2⟩

/- Two calls that overlap leave both batches: the codes of the first one are accepted. -/
theorem overlapping_replacements_keep_codes :
    (recoverySystem sampleMfaLibrary).Reachable replacedTwice ∧
      (localDevice.id, sampleCode "A" 3) ∈ replacedOnce.shown ∧
      consumeRecoveryCode sampleMfaLibrary 0 sampleUser (sampleCode "A" 3).plain
        replacedTwice.db = .ok (true, markUsed 0 68 replacedTwice.db) := by
  have hSecond : RecoveryStep sampleMfaLibrary replacedOnce (.create sampleCall (sampleCode "0"))
    replacedTwice :=
    .create (by decide) (freshBatch_sampleCode (by decide) (by decide)) ⟨localDevice, rfl, rfl⟩
  rcases reachable_replacedOnce with ⟨start, labels, hStart, hRun⟩
  refine ⟨⟨start, _, hStart, hRun.append (.cons hSecond (.nil _))⟩, ?_, rfl⟩
  exact mem_map_of_mem (mem_map_of_mem (mem_range.mpr (by decide)))

end PamOlive.Mfa
