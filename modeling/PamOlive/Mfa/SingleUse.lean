import PamOlive.Mfa.Replacement

/-
  Whether a one-time code is accepted once.

  `verify_user_totp` accepts a counter only above the stored one. `confirm_totp_device` compares
  nothing: a confirmed device accepts an old counter again, and stores it.
-/

---- Calls

namespace PamOlive.Mfa

open Foundations Sessions TransitionSystem List

structure TotpCall where
  site : Site
  library : MfaLibrary
  now : Int
  token : Text

inductive TotpRequest where
  | confirm (deviceId : Uuid)
  | verify (user : UserId)

section

variable (call : TotpCall)

/- Each of the two functions is a transaction. -/
def checkTotp : TotpRequest → Database → Except Failure Bool × Database
| .confirm deviceId =>
  commit (confirmTotpDevice call.site call.library call.now deviceId call.token)
| .verify user => commit (verifyUserTotp call.site call.library call.now user call.token)

/- The counter that `confirm_totp_device` finds. -/
def confirmedCounter (deviceId : Uuid) (db : Database) : Except Failure (Option Int) := do
  let locked ← found (deviceById deviceId db.mfaDevices) .doesNotExist
  let secret ← deviceSecret call.site locked
  matchingTotpCounter call.library call.now secret call.token

/- The device and the counter that a call accepts. -/
def acceptance : TotpRequest → Database → Option (Uuid × Int)
| .confirm deviceId, db =>
  match confirmedCounter call deviceId db with
  | .ok (some counter) => some (deviceId, counter)
  | _ => none
| .verify user, db =>
  match acceptedTotp call.site call.library call.now user call.token db with
  | .ok (some (device, counter)) => some (device.id, counter)
  | _ => none

def acceptedRow (counter : Int) : TotpRequest → MFADevice → MFADevice
| .confirm _ => confirmedBy call.now counter
| .verify _ => used call.now counter

end

variable {call : TotpCall} {request : TotpRequest} {db : Database} {device : Uuid}

theorem acceptedRow_id (counter : Int) (row : MFADevice) :
    (acceptedRow call counter request row).id = row.id := by
  cases request with
  | confirm deviceId => rfl
  | verify user => rfl

theorem acceptedRow_counter (counter : Int) (row : MFADevice) :
    (acceptedRow call counter request row).lastAcceptedTotpCounter = some counter := by
  cases request with
  | confirm deviceId => rfl
  | verify user => rfl

theorem confirmTotpDevice_eq (deviceId : Uuid) :
    confirmTotpDevice call.site call.library call.now deviceId call.token db =
      (confirmedCounter call deviceId db).map (fun found =>
          match found with
          | none => (false, db)
          | some counter =>
            (true, changeDevice deviceId (confirmedBy call.now counter) db)) := by
  unfold confirmTotpDevice confirmedCounter
  cases found (deviceById deviceId db.mfaDevices) Failure.doesNotExist with
  | error failure => rfl
  | ok locked =>
    cases hSecret : deviceSecret call.site locked with
    | error failure => simp [hSecret, bind, Except.bind, Except.map]
    | ok secret =>
      cases hCounter : matchingTotpCounter call.library call.now secret call.token with
      | error failure => simp [hSecret, hCounter, bind, Except.bind, Except.map]
      | ok found =>
        cases found with
        | none => simp [hSecret, hCounter, bind, Except.bind, pure, Except.pure, Except.map]
        | some counter => simp [hSecret, hCounter, bind, Except.bind, pure, Except.pure, Except.map]

/- A call accepts a counter, returns `True` and writes the device, or does none of these. -/
theorem checkTotp_cases (call : TotpCall) (request : TotpRequest) (db : Database) :
    (acceptance call request db = none ∧ (checkTotp call request db).1 ≠ .ok true ∧
      (checkTotp call request db).2 = db) ∨
    ∃ id counter, acceptance call request db = some (id, counter) ∧ checkTotp call request db =
      (.ok true, changeDevice id (acceptedRow call counter request) db) := by
  cases request with
  | confirm deviceId =>
    rcases hFound : confirmedCounter call deviceId db with failure | _ | counter
    · refine .inl ?_
      simp [acceptance, checkTotp, commit, confirmTotpDevice_eq, hFound, Except.map]
    · refine .inl ?_
      simp [acceptance, checkTotp, commit, confirmTotpDevice_eq, hFound, Except.map]
    · refine .inr ⟨deviceId, counter, ?_⟩
      simp [acceptance, checkTotp, commit, confirmTotpDevice_eq, hFound, Except.map, acceptedRow]
  | verify user =>
    rcases hFound : acceptedTotp call.site call.library call.now user call.token db with
      failure | _ | ⟨row, counter⟩
    · refine .inl ?_
      simp [acceptance, checkTotp, commit, verifyUserTotp, hFound, bind, Except.bind]
    · refine .inl ?_
      simp [acceptance, checkTotp, commit, verifyUserTotp,
        hFound, bind, Except.bind, pure, Except.pure]
    · refine .inr ⟨row.id, counter, ?_⟩
      simp [acceptance, checkTotp, commit, verifyUserTotp,
        hFound, bind, Except.bind, pure, Except.pure, acceptedRow]

variable {counter : Int} {user : UserId}

theorem acceptance_confirm_iff {deviceId : Uuid} :
    acceptance call (.confirm deviceId) db = some (device, counter) ↔
      deviceId = device ∧ confirmedCounter call deviceId db = .ok (some counter) := by
  rcases hFound : confirmedCounter call deviceId db with failure | _ | found
  · simp [acceptance, hFound]
  · simp [acceptance, hFound]
  · simp [acceptance, hFound]

theorem acceptance_verify_iff : acceptance call (.verify user) db = some (device, counter) ↔
    ∃ row, acceptedTotp call.site call.library call.now user
      call.token db = .ok (some (row, counter)) ∧ row.id = device := by
  rcases hTotp : acceptedTotp call.site call.library call.now user
    call.token db with failure | _ | ⟨row, found⟩
  · simp [acceptance, hTotp]
  · simp [acceptance, hTotp]
  · simp only [acceptance, hTotp, Option.some.injEq, Prod.mk.injEq, Except.ok.injEq]
    constructor
    · rintro ⟨hId, hFound⟩
      exact ⟨row, ⟨rfl, hFound⟩, hId⟩
    · rintro ⟨row', ⟨rfl, hFound⟩, hId⟩
      exact ⟨hId, hFound⟩

---- Stored Counters

/- Primary keys are unique. -/
def UniqueKeys (db : Database) : Prop := (db.mfaDevices.map MFADevice.id).Nodup

/- `last_accepted_totp_counter` of a device. -/
def lastCounter (device : Uuid) (db : Database) : Option Int :=
  (deviceById device db.mfaDevices).bind MFADevice.lastAcceptedTotpCounter

theorem UniqueKeys.changeDevice {id : Uuid} {change : MFADevice → MFADevice} (hKeys : UniqueKeys db)
    (hId : ∀ row, (change row).id = row.id) : UniqueKeys (Mfa.changeDevice id change db) := by
  unfold UniqueKeys Mfa.changeDevice
  rw [Table.map_key_change hId]
  exact hKeys

variable {row : MFADevice}

theorem UniqueKeys.deviceById_eq (hKeys : UniqueKeys db) (hMem : row ∈ db.mfaDevices) :
    deviceById row.id db.mfaDevices = some row := by
  exact Table.find?_key_eq hKeys hMem

theorem lastCounter_changeDevice {id : Uuid} (hRow : deviceById device db.mfaDevices = some row) :
    lastCounter device (changeDevice id (acceptedRow call counter request) db) =
      if id = device then some counter
      else lastCounter device db := by
  unfold lastCounter
  rw [deviceById_changeDevice (acceptedRow_id counter), hRow,
    Option.map_some, Option.bind_some, Option.bind_some, deviceById_id hRow]
  by_cases hSame : id = device
  · rw [if_pos hSame, if_pos hSame.symm, acceptedRow_counter]
  · rw [if_neg hSame, if_neg (fun hEq => hSame hEq.symm)]

theorem lastCounter_lt_of_verify {last : Int} (hKeys : UniqueKeys db)
    (hAccept : acceptance call (.verify user) db = some (device, counter))
    (hLast : lastCounter device db = some last) : last < counter := by
  rcases acceptance_verify_iff.mp hAccept with ⟨row, hTotp, rfl⟩
  unfold acceptedTotp at hTotp
  split at hTotp
  · injection hTotp with hTotp
    exact absurd hTotp.symm (Option.some_ne_none _)
  rename_i first hFirst
  rcases bind_eq_ok_iff.mp hTotp with ⟨secret, _, hTotp⟩
  rcases bind_eq_ok_iff.mp hTotp with ⟨found, _, hTotp⟩
  rw [pure_eq_ok_iff, Option.map_eq_some_iff] at hTotp
  rcases hTotp with ⟨found', hFilter, hPair⟩
  rcases hPair with ⟨rfl, rfl⟩
  have hNew := (Option.filter_eq_some_iff.mp hFilter).2
  have hMem := (mem_filter.mp (mem_of_firstByKey hFirst)).1
  unfold lastCounter at hLast
  rw [hKeys.deviceById_eq hMem, Option.bind_some] at hLast
  unfold isNewCounter at hNew
  rw [hLast] at hNew
  exact of_decide_eq_true hNew

---- Runs

/- The database, the counters accepted for a device, and the values its column has had. -/
structure TotpState where
  db : Database
  accepted : List Int
  stored : List (Option Int)

/- The counter that a call accepts for the device, if any. -/
def acceptedFor (device : Uuid) (call : TotpCall) (request : TotpRequest)
    (db : Database) : List Int :=
  match acceptance call request db with
  | some (id, counter) => if id = device then [counter] else []
  | none => []

def totpSystem (device : Uuid) : TransitionSystem TotpState (TotpCall × TotpRequest) where
  init := fun state =>
    UniqueKeys state.db ∧ (∃ row,
      deviceById device state.db.mfaDevices = some row ∧ row.lastAcceptedTotpCounter = none) ∧
      state.accepted = [] ∧ state.stored = [none]
  step := fun before label after =>
    after.db = (checkTotp label.1 label.2 before.db).2 ∧
      after.accepted = before.accepted ++ acceptedFor device label.1 label.2 before.db ∧
      after.stored = before.stored ++ [lastCounter device after.db]

/- The column holds the counter that was accepted last. -/
structure Tracks (device : Uuid) (state : TotpState) : Prop where
  keys : UniqueKeys state.db
  found : ∃ row, deviceById device state.db.mfaDevices = some row
  last : lastCounter device state.db = state.accepted.getLast?
  current : state.stored.getLast? = some (lastCounter device state.db)
  noted : ∀ counter ∈ state.accepted, some counter ∈ state.stored

variable {before after : TotpState}

theorem step_cases (hTracks : Tracks device before)
    (hStep : (totpSystem device).step before (call, request) after) :
    (acceptedFor device call request before.db = [] ∧ after.accepted = before.accepted ∧
      lastCounter device after.db = lastCounter device before.db) ∨
    ∃ counter, acceptance call request before.db = some (device, counter) ∧
      after.accepted = before.accepted ++ [counter] ∧
      lastCounter device after.db = some counter := by
  rcases hTracks.found with ⟨row, hRow⟩
  rcases hStep with ⟨hDb, hAccepted, _⟩
  rw [hDb]
  unfold acceptedFor at hAccepted ⊢
  rcases checkTotp_cases call request before.db with
    ⟨hNone, _, hSame⟩ | ⟨id, counter, hAccept, hChecked⟩
  · rw [hNone] at hAccepted ⊢
    simp only [append_nil] at hAccepted
    rw [hSame]
    exact .inl ⟨rfl, hAccepted, rfl⟩
  rw [hAccept] at hAccepted ⊢
  dsimp only at hAccepted ⊢
  rw [hChecked, lastCounter_changeDevice hRow]
  by_cases hDevice : id = device
  · rw [if_pos hDevice] at hAccepted
    exact .inr ⟨counter, by rw [hDevice], hAccepted, if_pos hDevice⟩
  · rw [if_neg hDevice, append_nil] at hAccepted
    exact .inl ⟨if_neg hDevice, hAccepted, if_neg hDevice⟩

variable {label : TotpCall × TotpRequest}

theorem Tracks.step (hTracks : Tracks device before)
    (hStep : (totpSystem device).step before label after) : Tracks device after := by
  rcases label with ⟨call, request⟩
  have hCases := step_cases hTracks hStep
  rcases hStep with ⟨hDb, _, hStored⟩
  have hRows : UniqueKeys after.db ∧ ∃ row, deviceById device after.db.mfaDevices = some row := by
    rcases hTracks.found with ⟨row, hRow⟩
    rw [hDb]
    rcases checkTotp_cases call request before.db with ⟨_, _, hSame⟩ | ⟨id, counter, _, hChecked⟩
    · rw [hSame]
      exact ⟨hTracks.keys, row, hRow⟩
    · rw [hChecked]
      refine ⟨hTracks.keys.changeDevice (acceptedRow_id counter), ?_⟩
      rw [deviceById_changeDevice (acceptedRow_id counter), hRow]
      exact ⟨_, rfl⟩
  have hCurrent : after.stored.getLast? = some (lastCounter device after.db) := by
    rw [hStored]
    exact getLast?_concat
  rcases hCases with ⟨_, hAccepted, hLast⟩ | ⟨counter, _, hAccepted, hLast⟩
  · refine ⟨hRows.1, hRows.2, ?_, hCurrent, ?_⟩
    · rw [hLast, hAccepted]
      exact hTracks.last
    · intro counter hMem
      rw [hAccepted] at hMem
      rw [hStored]
      exact mem_append_left _ (hTracks.noted counter hMem)
  · refine ⟨hRows.1, hRows.2, ?_, hCurrent, ?_⟩
    · rw [hLast, hAccepted]
      exact getLast?_concat.symm
    · intro other hMem
      rw [hAccepted] at hMem
      rw [hStored, hLast]
      rcases mem_append.mp hMem with hOld | hNew
      · exact mem_append_left _ (hTracks.noted other hOld)
      · rw [mem_singleton.mp hNew]
        exact mem_append_right _ (mem_singleton_self _)

---- Single Use

/- A column value that is not less than an earlier one. -/
def NotBelow (earlier later : Option Int) : Prop :=
  ∀ last, earlier = some last → ∃ next, later = some next ∧ last ≤ next

/- Every counter was accepted once, and the column did not decrease. -/
structure SingleUse (state : TotpState) : Prop where
  once : state.accepted.Nodup
  rising : state.stored.Pairwise NotBelow

/- A confirmation accepts only a counter above the stored. -/
def ConfirmsAnew (device : Uuid) (before : TotpState) (label : TotpCall × TotpRequest) : Prop :=
  label.2 = .confirm device → ∀ counter last, acceptance label.1 label.2 before.db =
    some (device, counter) → lastCounter device before.db = some last → last < counter

theorem SingleUse.notBelow_last {state : TotpState} (hTracks : Tracks device state)
    (hSingle : SingleUse state) :
    ∀ value ∈ state.stored, NotBelow value (lastCounter device state.db) := by
  intro value hMem last hValue
  rcases eq_nil_or_concat state.stored with hNil | ⟨front, final, hConcat⟩
  · rw [hNil] at hMem
    exact absurd hMem not_mem_nil
  rw [concat_eq_append] at hConcat
  have hFinal := hTracks.current
  rw [hConcat, getLast?_concat] at hFinal
  injection hFinal with hFinal
  have hRising := hSingle.rising
  rw [hConcat, pairwise_append] at hRising
  rw [hConcat] at hMem
  rcases mem_append.mp hMem with hFront | hLast
  · rw [← hFinal]
    exact hRising.2.2 value hFront final (mem_singleton_self _) last hValue
  · rw [← hFinal, ← mem_singleton.mp hLast, hValue]
    exact ⟨last, rfl, Int.le_refl last⟩

theorem singleUse_step_iff (hTracks : Tracks device before)
    (hStep : (totpSystem device).step before label after) :
    SingleUse after ↔ SingleUse before ∧ ConfirmsAnew device before label := by
  rcases label with ⟨call, request⟩
  have hCases := step_cases hTracks hStep
  have hStored := hStep.2.2
  constructor
  · intro hAfter
    have hBefore : SingleUse before := by
      constructor
      · have hOnce := hAfter.once
        rw [hStep.2.1] at hOnce
        exact (nodup_append.mp hOnce).1
      · have hRising := hAfter.rising
        rw [hStored] at hRising
        exact (pairwise_append.mp hRising).1
    refine ⟨hBefore, ?_⟩
    intro _ counter last hAccept hLast
    rcases hCases with ⟨hNone, _⟩ | ⟨counter', hAccept', hAccepted, hCounter⟩
    · unfold acceptedFor at hNone
      rw [hAccept] at hNone
      simp at hNone
    rw [hAccept] at hAccept'
    simp only [Option.some.injEq, Prod.mk.injEq, true_and] at hAccept'
    subst hAccept'
    -- The stored counter was accepted before, and the new
    -- one is neither below it nor the same.
    have hMem : last ∈ before.accepted := by
      apply mem_of_getLast?
      rw [← hTracks.last]
      exact hLast
    have hOnce := hAfter.once
    rw [hAccepted, nodup_append] at hOnce
    have hOther := hOnce.2.2 last hMem counter (mem_singleton_self _)
    have hRising := hAfter.rising
    rw [hStored, pairwise_append] at hRising
    rcases hRising.2.2 (some last) (hTracks.noted last hMem) _ (mem_singleton_self _) last rfl with
      ⟨next, hNext, hLe⟩
    rw [hCounter] at hNext
    injection hNext with hNext
    omega
  · rintro ⟨hBefore, hAnew⟩
    have hBelow := hBefore.notBelow_last hTracks
    rcases hCases with ⟨_, hAccepted, hSame⟩ | ⟨counter, hAccept, hAccepted, hCounter⟩
    · refine ⟨hAccepted ▸ hBefore.once, ?_⟩
      rw [hStored, pairwise_append]
      refine ⟨hBefore.rising, pairwise_singleton _ _, ?_⟩
      intro value hMem value' hMem'
      rw [mem_singleton.mp hMem', hSame]
      exact hBelow value hMem
    · have hLess : ∀ last, lastCounter device before.db = some last → last < counter := by
        intro last hLast
        cases request with
        | confirm deviceId =>
          have hDevice : deviceId = device := (acceptance_confirm_iff.mp hAccept).1
          exact hAnew (by rw [hDevice]) counter last hAccept hLast
        | verify user => exact lastCounter_lt_of_verify hTracks.keys hAccept hLast
      have hAbove :
        ∀ earlier last, earlier ∈ before.stored → earlier = some last → last < counter := by
        intro earlier last hMem hEarlier
        rcases hBelow earlier hMem last hEarlier with ⟨next, hNext, hLe⟩
        have hNextLess := hLess next hNext
        omega
      constructor
      · rw [hAccepted, nodup_append]
        refine ⟨hBefore.once, nodup_singleton _, ?_⟩
        intro other hOther counter' hCounter' hEq
        have hOtherLess := hAbove (some other) other (hTracks.noted other hOther) rfl
        rw [mem_singleton.mp hCounter'] at hEq
        omega
      · rw [hStored, pairwise_append]
        refine ⟨hBefore.rising, pairwise_singleton _ _, ?_⟩
        intro value hMem value' hMem' last hValue
        rw [mem_singleton.mp hMem', hCounter]
        have hLast := hAbove value last hMem hValue
        exact ⟨counter, rfl, by omega⟩

/-
  In every run after an enrollment each counter of the device is accepted at most once and the
  stored counter never decreases, exactly if every confirmation that accepts a counter finds a
  smaller one stored, or none.
-/
theorem totp_single_use_iff {start finish : TotpState} {labels : List (TotpCall × TotpRequest)}
    (hInit : (totpSystem device).init start) (hRun : (totpSystem device).Run start labels finish) :
    (finish.accepted.Nodup ∧ finish.stored.Pairwise NotBelow) ↔
      Guarded (totpSystem device) (ConfirmsAnew device) start labels finish := by
  rcases hInit with ⟨hKeys, ⟨row, hRow, hNone⟩, hAccepted, hStored⟩
  have hColumn : lastCounter device start.db = none := by
    unfold lastCounter
    rw [hRow, Option.bind_some, hNone]
  have hTracks : Tracks device start := by
    refine ⟨hKeys, ⟨row, hRow⟩, ?_, ?_, ?_⟩
    · rw [hColumn, hAccepted]
      rfl
    · rw [hStored, hColumn]
      rfl
    · rw [hAccepted]
      exact forall_mem_nil _
  have hStart : SingleUse start := by
    constructor
    · rw [hAccepted]
      exact nodup_nil
    · rw [hStored]
      exact pairwise_singleton _ _
  have hIff := hRun.iff_guarded_within (fun _ _ _ hBefore hStep => hBefore.step hStep)
    (fun _ _ _ hBefore hStep => singleUse_step_iff hBefore hStep)
    hTracks hStart
  rw [← hIff]
  exact ⟨fun hBoth => ⟨hBoth.1, hBoth.2⟩, fun hSingle => ⟨hSingle.once, hSingle.rising⟩⟩

def enrolledDevice : MFADevice := { localDevice with confirmed := false }

def totpStart : TotpState where
  db :=
    { sampleDatabase sampleCredential samplePolicies with mfaDevices := [enrolledDevice] }
  accepted := []
  stored := [none]

theorem totpStart_init : (totpSystem 7).init totpStart := by
  refine ⟨?_, ⟨enrolledDevice, rfl, rfl⟩, rfl, rfl⟩
  exact nodup_singleton _

def codeCall (now : Int) (code : String) : TotpCall where
  site := sampleSite
  library := sampleMfaLibrary
  now := now
  token := Text.ofString code

def afterTotp (device : Uuid) : TotpState → List (TotpCall × TotpRequest) → TotpState
| state, [] => state
| state, (call, request) :: rest =>
  let db := (checkTotp call request state.db).2
  afterTotp device
    { db := db
      accepted := state.accepted ++ acceptedFor device call request state.db
      stored := state.stored ++ [lastCounter device db] }
    rest

theorem run_afterTotp (device : Uuid) (labels : List (TotpCall × TotpRequest)) (state : TotpState) :
    (totpSystem device).Run state labels (afterTotp device state labels) := by
  induction labels generalizing state with
  | nil => exact Run.nil state
  | cons label rest ih =>
    rcases label with ⟨call, request⟩
    exact Run.cons ⟨rfl, rfl, rfl⟩ (ih _)

def loginLabels : List (TotpCall × TotpRequest) :=
  [(codeCall (seconds 60) "289363", .confirm 7),
    (codeCall (seconds 120) "496930", .verify sampleUser)]

theorem totp_single_use_sample :
    (totpSystem 7).init totpStart ∧ (afterTotp 7 totpStart loginLabels).accepted = [2, 4] ∧
      Guarded (totpSystem 7) (ConfirmsAnew 7) totpStart loginLabels
        (afterTotp 7 totpStart loginLabels) := by
  have hAccepted : (afterTotp 7 totpStart loginLabels).accepted = [2, 4] := by decide
  have hStored : (afterTotp 7 totpStart loginLabels).stored = [none, some 2, some 4] := by decide
  refine ⟨totpStart_init, hAccepted, ?_⟩
  apply (totp_single_use_iff totpStart_init (run_afterTotp 7 loginLabels totpStart)).mp
  rw [hAccepted, hStored]
  refine ⟨by decide, ?_⟩
  simp [NotBelow]

/- Confirmations within one minute, with two codes. -/
def racingLabels : List (TotpCall × TotpRequest) :=
  [(codeCall (seconds 60) "703348", .confirm 7), (codeCall (seconds 60) "662488", .confirm 7),
    (codeCall (seconds 60) "703348", .confirm 7)]

/- The second confirmation stores a smaller counter, and the third accepts the first code again. -/
theorem counter_confirmed_twice :
    (totpSystem 7).init totpStart ∧ ∃ finish, (totpSystem 7).Run totpStart racingLabels finish ∧
      finish.accepted = [3, 1, 3] ∧
      finish.stored = [none, some 3, some 1, some 3] ∧
      ¬ finish.accepted.Nodup ∧
      ¬ finish.stored.Pairwise NotBelow := by
  have hAccepted : (afterTotp 7 totpStart racingLabels).accepted = [3, 1, 3] := by decide
  have hStored : (afterTotp 7 totpStart racingLabels).stored = [none, some 3, some 1, some 3] := by
    decide
  refine ⟨totpStart_init, _, run_afterTotp 7 racingLabels totpStart, hAccepted, hStored, ?_, ?_⟩
  · decide
  · rw [hStored]
    simp [NotBelow]

end PamOlive.Mfa
