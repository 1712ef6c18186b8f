import PamOlive.Sessions.Quota
import PamOlive.Targets.HostKeys

/-
  Trust on first use, over histories of any length.

  Every request leaves the host keys as they are, adds one with a new fingerprint, or revokes some.
  A fingerprint that was revoked is never active again.
-/

---- Active And Revoked Fingerprints

namespace PamOlive.Targets

open Foundations Api Rbac Sessions List

section

variable (targetId : Uuid) (fingerprint : Text) (rows : List TargetHostKey)

def IsActive : Prop :=
  ∃ hostKey ∈ rows,
    hostKey.targetId = targetId ∧ hostKey.fingerprintSha256 = fingerprint ∧ hostKey.revokedAt = none

def IsRevoked : Prop :=
  ∃ hostKey ∈ rows,
    hostKey.targetId = targetId ∧ hostKey.fingerprintSha256 = fingerprint ∧ hostKey.revokedAt ≠ none

end

/- The columns of `unique_target_host_key_fingerprint`. -/
def uniqueColumns (hostKey : TargetHostKey) : Uuid × Text :=
  (hostKey.targetId, hostKey.fingerprintSha256)

def Unique (rows : List TargetHostKey) : Prop := (rows.map uniqueColumns).Nodup

variable {targetId : Uuid} {fingerprint : Text} {rows : List TargetHostKey}

section Rows

variable {after : List TargetHostKey}

theorem Unique.not_isActive (hUnique : Unique rows)
    (hRevoked : IsRevoked targetId fingerprint rows) : ¬ IsActive targetId fingerprint rows := by
  rintro ⟨second, hSecond, hTarget', hPrint', hActive⟩
  rcases hRevoked with ⟨first, hFirst, hTarget, hPrint, hNot⟩
  have hColumns : uniqueColumns first = uniqueColumns second := by
    unfold uniqueColumns
    rw [hTarget, hTarget', hPrint, hPrint']
  have hSame := inj_on_of_nodup_map hUnique hFirst hSecond hColumns
  subst hSame
  exact hNot hActive

/- What a request does to the rows. -/
inductive KeyChange (rows : List TargetHostKey) : List TargetHostKey → Prop
  | same : KeyChange rows rows
  | added {row : TargetHostKey} (hNew : uniqueColumns row ∉ rows.map uniqueColumns) :
    KeyChange rows (rows ++ [row])
  | revoked {keyId : Uuid} {now : Int} {actor : UserId} : KeyChange rows (rows.map (fun row =>
      if row.id = keyId then revokedHostKey now actor row else row))

theorem KeyChange.unique (hChange : KeyChange rows after) (hUnique : Unique rows) :
    Unique after := by
  unfold Unique at hUnique ⊢
  cases hChange with
  | same => exact hUnique
  | added hNew =>
    rw [map_append, map_singleton]
    exact hUnique.append (nodup_singleton _) (disjoint_singleton.mpr hNew)
  | @revoked keyId now actor =>
    rw [map_map, map_congr_left]
    · exact hUnique
    · intro row _
      dsimp only [Function.comp]
      split <;> rfl

theorem KeyChange.isRevoked (hChange : KeyChange rows after)
    (hRevoked : IsRevoked targetId fingerprint rows) : IsRevoked targetId fingerprint after := by
  rcases hRevoked with ⟨hostKey, hMem, hTarget, hPrint, hNot⟩
  cases hChange with
  | same => exact ⟨hostKey, hMem, hTarget, hPrint, hNot⟩
  | added hNew => exact ⟨hostKey, mem_append_left _ hMem, hTarget, hPrint, hNot⟩
  | revoked =>
    refine ⟨_, mem_map_of_mem hMem, ?_⟩
    split
    · exact ⟨hTarget, hPrint, Option.some_ne_none _⟩
    · exact ⟨hTarget, hPrint, hNot⟩

end Rows

---- What The Requests Do

variable {site : Site} {moment : Moment} {library : KeyLibrary} {db after : Database}
variable {session : PrivilegedSession} {status : TrustStatus} {request : TrustRequest}
variable {response : Response (TrustStatus × Text)}

section Requests

variable {keyId : Uuid} {row : TargetHostKey} {parsed : ParsedKey} {target : Target}
variable {payload : TrustPayload} {actor : UserId}

theorem insertHostKey_eq_ok (hInsert : insertHostKey row db = .ok after) :
    uniqueColumns row ∉ db.hostKeys.map uniqueColumns ∧
      after = { db with hostKeys := db.hostKeys ++ [row] } := by
  unfold insertHostKey at hInsert
  rw [require_bind_eq_ok_iff, pure_eq_ok_iff] at hInsert
  rcases hInsert with ⟨hClashes, hAfter⟩
  refine ⟨?_, hAfter.symm⟩
  intro hMem
  rcases mem_map.mp hMem with ⟨other, hOther, hSame⟩
  have hClash := any_eq_false.mp hClashes other hOther
  apply hClash
  rw [Prod.mk.injEq] at hSame
  exact decide_eq_true (.inr ⟨hSame.1.symm, hSame.2.symm⟩)

/- The target whose key a request is about. -/
def requestedTarget (request : TrustRequest) (db : Database) : Option Uuid :=
  match request.payload with
  | .ok payload => (trustedSession payload.sessionId db).toOption.map PrivilegedSession.targetId
  | .error _ => none

/- What a request of the gateway answers and does. -/
inductive Trusts (request : TrustRequest) (db : Database) :
    Response (TrustStatus × Text) → List TargetHostKey → Prop
  | refused {response : Response (TrustStatus × Text)}
    (hNot : ∀ answer, response ≠ .success answer) :
    Trusts request db response db.hostKeys
  | known {targetId : Uuid} {fingerprint : Text}
    (hTarget : requestedTarget request db = some targetId)
    (hActive : IsActive targetId fingerprint db.hostKeys) :
    Trusts request db (.success (.known, fingerprint)) db.hostKeys
  | trusted {targetId : Uuid} {fingerprint : Text} {row : TargetHostKey}
    (hTarget : requestedTarget request db = some targetId)
    (hNone : activeKeys targetId db = [])
    (hNew : uniqueColumns row ∉ db.hostKeys.map uniqueColumns)
    (hColumns : uniqueColumns row = (targetId, fingerprint)) :
    Trusts request db (.success (.trusted, fingerprint)) (db.hostKeys ++ [row])

theorem registerHostKey_eq_ok {value : Text} (hParse : parseSshPublicKey library value = .ok parsed)
    (hRegister :
      registerHostKey site moment library keyId session target parsed db = .ok (status, after)) :
    (status = .known ∧ after = db ∧ IsActive target.id parsed.fingerprint db.hostKeys) ∨
      (status = .trusted ∧ activeKeys target.id db = [] ∧
        ∃ row, uniqueColumns row ∉ db.hostKeys.map uniqueColumns ∧
          uniqueColumns row = (target.id, parsed.fingerprint) ∧
          after.hostKeys = db.hostKeys ++ [row]) := by
  rcases found_bind_eq_ok_iff.mp hRegister with ⟨locked, hLocked, hRegister⟩
  have hId : locked.id = target.id := (Table.get_eq_some_iff.mp hLocked).2
  rw [hId] at hRegister
  split at hRegister
  · rename_i hFound
    rcases return_eq_ok_iff.mp hRegister with ⟨hStatus, hAfter⟩
    refine .inl ⟨hStatus.symm, hAfter.symm, ?_⟩
    rcases any_eq_true.mp hFound with ⟨hostKey, hMem, hPrint⟩
    rcases mem_filter.mp hMem with ⟨hIn, hKept⟩
    rcases of_decide_eq_true hKept with ⟨hTarget, hActive⟩
    exact ⟨hostKey, hIn, hTarget, of_decide_eq_true hPrint, hActive⟩
  · rcases require_bind_eq_ok_iff.mp hRegister with ⟨hNone, hRegister⟩
    rcases bind_eq_ok_iff.mp hRegister with ⟨row, hRow, hRegister⟩
    rcases bind_eq_ok_iff.mp hRegister with ⟨added, hInsert, hRegister⟩
    rcases bind_eq_ok_iff.mp hRegister with ⟨recorded, hRecord, hRegister⟩
    rcases return_eq_ok_iff.mp hRegister with ⟨hStatus, rfl⟩
    rcases Database.recordEvent_eq_ok hRecord with ⟨audit, rfl⟩
    rcases insertHostKey_eq_ok hInsert with ⟨hNew, rfl⟩
    -- the row is parsed again, from the normalized text
    unfold newHostKey at hRow
    rw [parseSshPublicKey_normalized hParse] at hRow
    cases hRow
    exact .inr ⟨hStatus.symm, hNone, _, hNew, rfl, rfl⟩

theorem checkTrust_eq_ok (hCheck : checkTrust library payload db = .ok (session, target, parsed)) :
    trustedSession payload.sessionId db = .ok session ∧ target.id = session.targetId ∧
      parseSshPublicKey library payload.publicKey = .ok parsed := by
  unfold checkTrust at hCheck
  simp only [bind_eq_ok_iff, found_eq_ok_iff, pure_eq_ok_iff, Prod.mk.injEq] at hCheck
  rcases hCheck with ⟨_, hSession, _, hTarget, _, _, _, hParse, rfl, rfl, rfl⟩
  exact ⟨hSession, (Table.get_eq_some_iff.mp hTarget).2, hParse⟩

theorem trustHostKey_eq_error {failure : Failure}
    (hTrust : trustHostKey site moment library keyId payload db = (.error failure, after)) :
    after = db := by
  rcases andThen_eq_error_iff.mp hTrust with hCheck | ⟨checked, middle, hCheck, hRest⟩
  · exact (congrArg Prod.snd hCheck).symm
  · rcases reading_eq_ok_iff.mp hCheck with ⟨_, rfl⟩
    rcases andThen_eq_error_iff.mp hRest with hRegister | ⟨status, last, _, hAnswer⟩
    · exact (commit_eq_error_iff.mp hRegister).2
    · exact nomatch congrArg Prod.fst hAnswer

theorem trustHostKey_eq_ok (hTrust :
    trustHostKey site moment library keyId payload db = (.ok (status, fingerprint), after)) :
    ∃ session target parsed, checkTrust library payload db = .ok (session, target, parsed) ∧
      registerHostKey site moment library keyId session target parsed db = .ok (status, after) ∧
      parsed.fingerprint = fingerprint := by
  rcases andThen_eq_ok_iff.mp hTrust with ⟨⟨session, target, parsed⟩, middle, hCheck, hRest⟩
  rcases reading_eq_ok_iff.mp hCheck with ⟨hChecked, rfl⟩
  rcases andThen_eq_ok_iff.mp hRest with ⟨answered, last, hRegister, hAnswer⟩
  rcases reading_eq_ok_iff.mp hAnswer with ⟨hPair, rfl⟩
  injection hPair with hPair
  rw [Prod.mk.injEq] at hPair
  rcases hPair with ⟨rfl, hPrint⟩
  exact ⟨session, target, parsed, hChecked, commit_eq_ok_iff.mp hRegister, hPrint⟩

theorem gatewayTrustHostKey_trusts
    (hTrust : gatewayTrustHostKey site moment library request db = (response, after)) :
    Trusts request db response after.hostKeys := by
  unfold gatewayTrustHostKey at hTrust
  cases hPayload : request.payload with
  | error failure =>
    rw [hPayload] at hTrust
    rcases Prod.mk.inj hTrust with ⟨rfl, rfl⟩
    exact .refused (fun _ => refuse_ne_success)
  | ok payload =>
    rw [hPayload] at hTrust
    dsimp only at hTrust
    split at hTrust
    · rename_i answer last hOk
      rcases Prod.mk.inj hTrust with ⟨rfl, rfl⟩
      rcases answer with ⟨status, fingerprint⟩
      rcases trustHostKey_eq_ok hOk with ⟨session, target, parsed, hCheck, hRegister, rfl⟩
      rcases checkTrust_eq_ok hCheck with ⟨hSession, hTarget, hParse⟩
      have hRequested : requestedTarget request db = some target.id := by
        unfold requestedTarget
        rw [hPayload, hTarget]
        dsimp only
        rw [toOption_eq_some_iff.mpr hSession, Option.map_some]
      rcases registerHostKey_eq_ok hParse hRegister with ⟨rfl, rfl, hActive⟩ |
        ⟨rfl, hNone, row, hNew, hColumns, hRows⟩
      · exact .known hRequested hActive
      · rw [hRows]
        exact .trusted hRequested hNone hNew hColumns
    · rename_i failure last hError
      rcases Prod.mk.inj hTrust with ⟨rfl, rfl⟩
      rw [trustHostKey_eq_error hError]
      exact .refused (fun _ => refuse_ne_success)

theorem Trusts.keyChange
    (hTrusts : Trusts request db response rows) : KeyChange db.hostKeys rows := by
  cases hTrusts with
  | refused _ => exact .same
  | known _ _ => exact .same
  | trusted _ _ hNew _ => exact .added hNew

theorem keyChange_of_approveHostKey {form : HostKeyForm} {publicKey comment : Text}
    (hApprove : approveHostKey library actor form target publicKey comment db = .ok (row, after)) :
    KeyChange db.hostKeys after.hostKeys := by
  unfold approveHostKey at hApprove
  simp only [bind_eq_ok_iff, return_eq_ok_iff] at hApprove
  rcases hApprove with ⟨_, _, added, hInsert, _, rfl⟩
  rcases insertHostKey_eq_ok hInsert with ⟨hNew, rfl⟩
  exact .added hNew

theorem keyChange_of_saveRevokedKey {now : Int}
    (hRevoke : saveRevokedKey library now actor keyId db = .ok (row, after)) :
    KeyChange db.hostKeys after.hostKeys := by
  unfold saveRevokedKey at hRevoke
  simp only [bind_eq_ok_iff, return_eq_ok_iff] at hRevoke
  rcases hRevoke with ⟨_, _, _, _, _, rfl⟩
  exact .revoked

theorem reportHostKey_eq_ok
    {action : Text} {hostKey : TargetHostKey} {sourceIp : Option IpText} {value : Unit}
    (hReport : reportHostKey site moment actor action hostKey sourceIp db = .ok (value, after)) :
    after.hostKeys = db.hostKeys := by
  rcases bind_eq_ok_iff.mp hReport with ⟨recorded, hRecord, hReturn⟩
  rcases Database.recordEvent_eq_ok hRecord with ⟨audit, rfl⟩
  rw [← (return_eq_ok_iff.mp hReturn).2]

theorem hostKeys_commit_reportHostKey
    (actor : UserId) (action : Text) (hostKey : TargetHostKey) (sourceIp : Option IpText)
    (db : Database) :
    (commit
      (reportHostKey site moment actor action hostKey sourceIp) db).2.hostKeys = db.hostKeys := by
  rcases commit_snd_eq_or_ok
    (reportHostKey site moment actor action hostKey sourceIp) db with hSame | ⟨value, hReport⟩
  · rw [hSame]
  · exact reportHostKey_eq_ok hReport

theorem keyChange_of_andThen {α β : Type} {transaction : Database → Except Failure (α × Database)}
    {next : α → Database → Except Failure β × Database}
    (hChanges :
      ∀ value middle, transaction db = .ok (value, middle) → KeyChange db.hostKeys middle.hostKeys)
    (hKeeps : ∀ value middle, (next value middle).2.hostKeys = middle.hostKeys) :
    KeyChange db.hostKeys (andThen (commit transaction) next db).2.hostKeys := by
  unfold andThen commit
  cases hReturned : transaction db with
  | error failure => exact .same
  | ok result =>
    rcases result with ⟨value, middle⟩
    rw [hKeeps]
    exact hChanges value middle hReturned

theorem keyChange_of_hostKeys (actor : Actor) (form : HostKeyForm) :
    KeyChange db.hostKeys (hostKeys site moment library actor form db).2.hostKeys := by
  unfold hostKeys
  split
  · exact .same
  split
  · exact .same
  refine keyChange_of_andThen ?_ ?_
  · intro row middle hApprove
    exact keyChange_of_approveHostKey hApprove
  intro row middle
  rw [← @hostKeys_commit_reportHostKey site moment actor.id "target.host_key_trusted"
    row form.sourceIp middle]
  unfold andThen
  split
  · rename_i hReport
    rw [hReport]
    rfl
  · rename_i hReport
    rw [hReport]

theorem keyChange_of_revokeHostKey (actor : Actor) (keyId : Uuid) (sourceIp : Option IpText) :
    KeyChange db.hostKeys
      (revokeHostKey site moment library actor keyId sourceIp db).2.hostKeys := by
  unfold revokeHostKey
  split
  · exact .same
  · refine keyChange_of_andThen ?_ ?_
    · intro row middle hRevoke
      exact keyChange_of_saveRevokedKey hRevoke
    · intro row middle
      exact hostKeys_commit_reportHostKey _ _ row _ middle

end Requests

---- Histories

inductive KeyLabel where
  | trust (site : Site) (moment : Moment) (request : TrustRequest)
  | approve (site : Site) (moment : Moment) (actor : Actor) (form : HostKeyForm)
  | revoke (site : Site) (moment : Moment) (actor : Actor) (keyId : Uuid) (sourceIp : Option IpText)
  | edit (after : Database)

/- The last step stands for all requests on other tables. -/
inductive KeyStep (library : KeyLibrary) (db : Database) : KeyLabel → Database → Prop
  | trusted {site : Site} {moment : Moment} {request : TrustRequest} :
    KeyStep library db (.trust site moment request)
      (gatewayTrustHostKey site moment library request db).2
  | approved {site : Site} {moment : Moment} {actor : Actor} {form : HostKeyForm} :
    KeyStep library db (.approve site moment actor form)
      (hostKeys site moment library actor form db).2
  | revoked {site : Site} {moment : Moment} {actor : Actor} {keyId : Uuid}
    {sourceIp : Option IpText} :
    KeyStep library db (.revoke site moment actor keyId sourceIp)
      (revokeHostKey site moment library actor keyId sourceIp db).2
  | edited {after : Database} (hRows : after.hostKeys = db.hostKeys) :
    KeyStep library db (.edit after) after

/- Any rows that the constraint of the table allows. -/
def keySystem (library : KeyLibrary) : TransitionSystem Database KeyLabel where
  init := fun db => Unique db.hostKeys
  step := KeyStep library

section Histories

theorem KeyStep.keyChange {label : KeyLabel} (hStep : KeyStep library db label after) :
    KeyChange db.hostKeys after.hostKeys := by
  cases hStep with
  | trusted => exact (gatewayTrustHostKey_trusts rfl).keyChange
  | approved => exact keyChange_of_hostKeys _ _
  | revoked => exact keyChange_of_revokeHostKey _ _ _
  | edited hRows =>
    rw [hRows]
    exact .same

variable {labels : List KeyLabel}

theorem unique_of_run (hUnique : Unique db.hostKeys)
    (hRun : (keySystem library).Run db labels after) : Unique after.hostKeys := by
  induction hRun with
  | nil => exact hUnique
  | cons hStep _ ih => exact ih (KeyStep.keyChange hStep |>.unique hUnique)

theorem isRevoked_of_run (hRevoked : IsRevoked targetId fingerprint db.hostKeys)
    (hRun : (keySystem library).Run db labels after) :
    IsRevoked targetId fingerprint after.hostKeys := by
  induction hRun with
  | nil => exact hRevoked
  | cons hStep _ ih => exact ih (KeyStep.keyChange hStep |>.isRevoked hRevoked)

/-
  In every history: the gateway adds a key only to a target without an active one, knows only
  active fingerprints, never reactivates a revoked one, and a refused request changes no key.
-/
theorem trust_on_first_use_one_shot
    {start middle : Database} {earlier later : List KeyLabel} {request : TrustRequest}
    {response : Response (TrustStatus × Text)} (hInit : (keySystem library).init start)
    (hEarlier : (keySystem library).Run start earlier middle)
    (hLater : (keySystem library).Run middle later db)
    (hTrust : gatewayTrustHostKey site moment library request db = (response, after)) :
    (after.hostKeys ≠ db.hostKeys → ∃ targetId row, requestedTarget request db = some targetId ∧
      activeKeys targetId db = [] ∧ row.targetId = targetId ∧
      after.hostKeys = db.hostKeys ++ [row]) ∧
      (∀ fingerprint, response = .success (.known, fingerprint) →
        ∃ targetId, requestedTarget request db = some targetId ∧
          IsActive targetId fingerprint db.hostKeys) ∧
      (∀ targetId fingerprint, IsRevoked targetId fingerprint middle.hostKeys →
        ¬ IsActive targetId fingerprint after.hostKeys) ∧
      ((∀ fingerprint, response ≠ .success (.trusted, fingerprint)) →
        after.hostKeys = db.hostKeys) := by
  have hTrusts := gatewayTrustHostKey_trusts hTrust
  refine ⟨?_, ?_, ?_, ?_⟩
  · intro hChanged
    generalize after.hostKeys = rows at hTrusts hChanged ⊢
    cases hTrusts with
    | refused _ => exact absurd rfl hChanged
    | known _ _ => exact absurd rfl hChanged
    | trusted hTarget hNone _ hColumns =>
      exact ⟨_, _, hTarget, hNone, congrArg Prod.fst hColumns, rfl⟩
  · intro fingerprint hKnown
    subst hKnown
    generalize after.hostKeys = rows at hTrusts
    cases hTrusts with
    | refused hNot => exact absurd rfl (hNot _)
    | known hTarget hActive => exact ⟨_, hTarget, hActive⟩
  · intro targetId fingerprint hRevoked
    have hUnique := unique_of_run (unique_of_run hInit hEarlier) hLater
    exact (hTrusts.keyChange.unique hUnique).not_isActive
      (hTrusts.keyChange.isRevoked (isRevoked_of_run hRevoked hLater))
  · intro hNot
    generalize after.hostKeys = rows at hTrusts ⊢
    cases hTrusts with
    | refused _ => rfl
    | known _ _ => rfl
    | trusted _ _ _ _ => exact absurd rfl (hNot _)

/- A blob with the name of its type and nothing else. -/
def bareBlob : List UInt8 := [0, 0, 0, 11, 115, 115, 104, 45, 101, 100, 50, 53, 53, 49, 57]

/- Base64 and SHA-256 on that blob, and on it with one more byte. -/
def sampleLibrary : KeyLibrary where
  b64decode := fun text =>
    if text = "AAAAC3NzaC1lZDI1NTE5" then some bareBlob
    else if text = "AAAAC3NzaC1lZDI1NTE5AQ==" then some (bareBlob ++ [1])
    else none
  digest := fun blob =>
    if blob = bareBlob then "5/gdC8tsZ+1R7UnoiM4pMal9U3M82idPVzt95oIw3hQ"
    else "F1Oj6E+218czm09FOPtfQcbJPeR0MsA2QxD1cRRU+fA"

def sampleKey : Text := "ssh-ed25519 AAAAC3NzaC1lZDI1NTE5"

def samplePrint : Text := "SHA256:5/gdC8tsZ+1R7UnoiM4pMal9U3M82idPVzt95oIw3hQ"

def sampleSession : PrivilegedSession :=
  newSession sampleMoment sampleOpenCall sampleCredential samplePolicy none 60 "maintenance"

def sampleHosts : Database :=
  { sampleDatabase sampleCredential
    samplePolicies with
    sessions := ⟨[sampleSession], by simp⟩ }

def sampleTrust (keyId : Uuid) : TrustRequest where
  payload := .ok
    { sessionId := some (Uuid.str 4), publicKey := sampleKey ++ Text.ofString " host" }
  keyId := keyId

def trusting (keyId : Uuid) : Database → Response (TrustStatus × Text) × Database :=
  gatewayTrustHostKey sampleSite sampleMoment sampleLibrary (sampleTrust keyId)

def revoking : Database → Except Failure Unit × Database :=
  revokeHostKey sampleSite sampleMoment sampleLibrary ⟨sampleUser, true⟩ 5 none

theorem trust_on_first_use_one_shot_sample : ∃ trusted revoked after, trusting 5 sampleHosts =
    (.success (.trusted, samplePrint), trusted) ∧
    revoking trusted = (.ok (), revoked) ∧
    trusting 6 revoked = (.raised .integrityError, after) ∧
    ¬ IsActive 1 samplePrint after.hostKeys ∧
    after.hostKeys = revoked.hostKeys := by
  have hSample : ∃ trusted revoked after row, trusting 5 sampleHosts =
    (.success (.trusted, samplePrint), trusted) ∧
    revoking trusted = (.ok (), revoked) ∧
    trusting 6 revoked = (.raised .integrityError, after) ∧
    revoked.hostKeys = [row] ∧
    row.targetId = 1 ∧
    row.fingerprintSha256 = samplePrint ∧
    row.revokedAt = some 0 :=
    ⟨_, _, _, _, rfl, rfl, rfl, rfl, rfl, rfl, rfl⟩
  rcases hSample with
    ⟨trusted, revoked, after, row, hTrusted, hRevoked, hAgain, hRows, hTarget, hPrint, hAt⟩
  refine ⟨trusted, revoked, after, hTrusted, hRevoked, hAgain, ?_⟩
  have hFirst : KeyStep sampleLibrary sampleHosts
    (.trust sampleSite sampleMoment (sampleTrust 5)) (trusting 5 sampleHosts).2 := .trusted
  have hSecond : KeyStep sampleLibrary trusted
    (.revoke sampleSite sampleMoment ⟨sampleUser, true⟩ 5 none) (revoking trusted).2 := .revoked
  rw [hTrusted] at hFirst
  rw [hRevoked] at hSecond
  have hInit : (keySystem sampleLibrary).init sampleHosts := nodup_nil
  rcases trust_on_first_use_one_shot hInit (.cons hFirst (.cons hSecond (.nil _))) (.nil _) hAgain
    with ⟨_, _, hNever, hSame⟩
  refine ⟨hNever 1 samplePrint ?_, hSame ?_⟩
  · refine ⟨row, ?_, hTarget, hPrint, ?_⟩
    · rw [hRows]
      exact mem_singleton_self row
    · rw [hAt]
      exact Option.some_ne_none 0
  · intro fingerprint hSuccess
    exact nomatch hSuccess

end Histories

end PamOlive.Targets
