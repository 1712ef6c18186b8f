import PamOlive.Api.Gateway
import PamOlive.Audit.Written
import PamOlive.Targets.FirstUse

/-
  What a refused close report leaves behind.

  `gateway_close` saves the reference of the recording before it checks the digest and converts the
  sizes, and seals it before it closes the session; nothing undoes these writes.

  Main declarations:
    * `gatewayCloseBody`
    * `refused_close_report_iff`
-/

namespace PamOlive.Api

open Foundations Sessions Targets

---- Reports As They Arrive

/-
  The fields `gateway_close` reads: the key the lookup makes of `session_id`, if there is one, and
  what `int` makes of each size.
-/
structure CloseBody where
  session : Except Failure (Option Uuid)
  outcome : Text
  reason : Text
  recordingReference : Text
  recordingSha256 : Text
  bytesIn : Except Failure Int
  bytesOut : Except Failure Int

namespace CloseBody

section

variable (body : CloseBody)

def reference : Text := body.recordingReference.take 500

def isRecorded : Bool :=
  decide (body.reference ≠ []) && isRecordingReference body.reference

def sizes : Except Failure (Int × Int) := do
  let bytesIn ← body.bytesIn
  let bytesOut ← body.bytesOut
  return (bytesIn, bytesOut)

/- The report with its session's key and its sizes converted. -/
def report (sessionId : Text) (sizes : Int × Int) : CloseReport where
  sessionId := sessionId
  outcome := body.outcome
  reason := body.reason
  recordingReference := body.recordingReference
  recordingSha256 := body.recordingSha256
  bytesIn := sizes.1
  bytesOut := sizes.2

end

end CloseBody

section

variable (site : Site) (moment : Moment) (clientIp : Option IpText)

/- `gateway_close` on a body whose fields are not converted yet. -/
def gatewayCloseBody
    (payload : Except Failure CloseBody) (db : Database) : Response Unit × Database :=
  match payload with
  | .error failure => (refuse failure, db)
  | .ok body =>
    match body.session with
    | .error failure => (refuse failure, db)
    | .ok key =>
      match key.bind (fun sessionId => db.sessions.get sessionId) with
      | none => (.raised .doesNotExist, db)
      | some session =>
        match andThen (sealRecording site moment clientIp body.reference body.recordingSha256
            body.sizes session.id) (fun _ =>
            commit (closeSession site moment session.id none (body.reason.take 255)
              (decide (body.outcome = "failed"))))
          db with
        | (.ok _, after) => (.success (), after)
        | (.error failure, after) => (refuse failure, after)

end

variable {site : Site} {moment : Moment} {clientIp : Option IpText} {body : CloseBody}
variable {payload : Except Failure CloseBody} {sessionId : Uuid} {session : PrivilegedSession}
variable {db after : Database} {failure : Failure} {sizes : Int × Int}

theorem gatewayCloseBody_of_sizes {text : Text} (hParse : Uuid.parse text = some sessionId)
    (hSession : body.session = .ok (some sessionId)) (hSizes : body.sizes = .ok sizes) :
    gatewayCloseBody site moment clientIp (.ok body) db =
      gatewayClose site moment ⟨.ok (body.report text sizes), clientIp⟩ db := by
  unfold gatewayCloseBody gatewayClose
  simp only [hSession, hSizes]
  have hKey : (body.report text sizes).sessionId = text := rfl
  rw [hKey, hParse]
  cases hGet : db.sessions.get sessionId with
  | none => simp [hGet]
  | some session =>
    have hId : session.id = sessionId := (Table.get_eq_some_iff.mp hGet).2
    simp only [Option.bind_some, hGet, hId]
    rfl

---- Refused Reports

/- The report has the digest of its recording, and sizes that are numbers. -/
def CloseBody.IsComplete (body : CloseBody) : Prop :=
  isSha256 body.recordingSha256 = true ∧ ∃ sizes, body.sizes = .ok sizes

/- The row stays if it has the reference since the same instant. -/
theorem saveReference_eq_self_iff {now : Int} {reference : Text}
    (hSession : db.sessions.get sessionId = some session) :
    saveReference now reference sessionId db = db ↔
      session.recordingReference = reference ∧ session.updatedAt = now := by
  have hTable : saveReference now reference sessionId db = db ↔
    db.sessions.modify sessionId (recordedSession now reference)
      (recordedSession_id now reference) = db.sessions :=
    ⟨fun hSame => congrArg Database.sessions hSame, fun hSame => by rw [saveReference, hSame]⟩
  rw [hTable, Table.modify_eq_self_iff hSession]
  constructor
  · intro hSame
    exact ⟨(congrArg PrivilegedSession.recordingReference hSame).symm,
      (congrArg PrivilegedSession.updatedAt hSame).symm⟩
  · rintro ⟨rfl, rfl⟩
    rfl

/- The report of a request, and the row of its session. -/
def Reports (payload : Except Failure CloseBody) (db : Database) (body : CloseBody)
    (session : PrivilegedSession) : Prop :=
  payload = .ok body ∧ ∃ key, body.session = .ok (some key) ∧ db.sessions.get key = some session

theorem forall_reports_iff {property : CloseBody → PrivilegedSession → Prop}
    (hKey : body.session = .ok (some sessionId))
    (hSession : db.sessions.get sessionId = some session) :
    (∀ body' session', Reports (.ok body) db body' session' → property body' session') ↔
      property body session := by
  constructor
  · exact fun hAll => hAll body session ⟨rfl, sessionId, hKey, hSession⟩
  · rintro hOne _ session' ⟨⟨⟩, key', hKey', hSession'⟩
    cases hKey.symm.trans hKey'
    cases hSession.symm.trans hSession'
    exact hOne

theorem audit_ne_of_recordEvent {actor : Option UserId} {action resourceType resourceId : Text}
    {metadata : Json} {sourceIp : Option IpText}
    (hRecord : db.recordEvent site moment actor action resourceType resourceId metadata sourceIp =
      .ok after) : after.audit ≠ db.audit := by
  unfold Database.recordEvent at hRecord
  dsimp only at hRecord
  split at hRecord
  · rename_i hEvent
    rcases Audit.recordEvent_eq_ok_iff.mp hEvent with ⟨_, _, _, rfl⟩
    cases hRecord
    intro hSame
    have hEvents := congrArg Audit.AuditLog.events hSame
    simp at hEvents
  · cases hRecord

/- What sealing leaves: nothing, the reference, or the reference and the event. -/
theorem sealRecording_cases {result : Except Failure Unit}
    (hSeal : sealRecording site moment clientIp body.reference body.recordingSha256 body.sizes
      sessionId db = (result, after)) :
    (body.isRecorded = false ∧ after = db) ∨ (body.isRecorded = true ∧ ¬ body.IsComplete ∧
        after = saveReference moment.now body.reference sessionId db) ∨
      (body.isRecorded = true ∧ body.IsComplete ∧
        (result = .error .keyringError ∨ after.audit ≠ db.audit)) := by
  unfold sealRecording at hSeal
  split at hSeal
  · rename_i hNone
    cases hSeal
    exact .inl ⟨by simp [CloseBody.isRecorded, hNone], rfl⟩
  rename_i hSome
  split at hSeal
  · rename_i hOther
    cases hSeal
    exact .inl ⟨by simp [CloseBody.isRecorded, hOther], rfl⟩
  rename_i hReference
  have hRecorded : body.isRecorded = true := by
    simpa [CloseBody.isRecorded, hSome] using hReference
  dsimp only at hSeal
  split at hSeal
  · rename_i hDigest
    cases hSeal
    exact .inr (.inl ⟨hRecorded, fun hComplete => by simp [hComplete.1] at hDigest, rfl⟩)
  rename_i hDigest
  split at hSeal
  · rename_i hSizes
    cases hSeal
    refine .inr (.inl ⟨hRecorded, ?_, rfl⟩)
    rintro ⟨_, sizes, hOk⟩
    exact absurd (hSizes.symm.trans hOk) (by simp)
  rename_i hSizes
  refine .inr (.inr ⟨hRecorded, ⟨by simpa using hDigest, _, hSizes⟩, ?_⟩)
  split at hSeal
  · rename_i hRecord
    cases hSeal
    exact .inr (fun hSame => audit_ne_of_recordEvent hRecord hSame)
  · rename_i hRecord
    cases hSeal
    rw [Database.recordEvent_eq_error hRecord]
    exact .inl rfl

/-
  A close report answered with 403 changes nothing exactly if it names no recording that is
  accepted, or is incomplete and names the one that the session got at the same instant.
-/
theorem refused_close_report_iff
    (hForbidden : gatewayCloseBody site moment clientIp payload db = (.forbidden, after)) :
    after = db ↔ ∀ body session, Reports payload db body session → body.isRecorded = true →
      ¬ body.IsComplete ∧ session.recordingReference = body.reference ∧
        session.updatedAt = moment.now := by
  unfold gatewayCloseBody at hForbidden
  split at hForbidden
  · injection hForbidden with _ hAfter
    exact iff_of_true hAfter.symm (by simp [Reports])
  rename_i body
  split at hForbidden
  · rename_i hKey
    injection hForbidden with _ hAfter
    exact iff_of_true hAfter.symm (by rintro _ _ ⟨⟨⟩, _, hOk, _⟩; simp [hKey] at hOk)
  rename_i key hKey
  split at hForbidden
  · simp at hForbidden
  rename_i session hFound
  rcases Option.bind_eq_some_iff.mp hFound with ⟨sessionId, rfl, hSession⟩
  have hId : session.id = sessionId := (Table.get_eq_some_iff.mp hSession).2
  refine Iff.trans ?_ (forall_reports_iff hKey hSession).symm
  split at hForbidden
  · simp at hForbidden
  rename_i failure reached hRun
  injection hForbidden with hRefused hReached
  have hCaught : isCaught failure = true := by
    unfold refuse at hRefused
    split at hRefused
    · assumption
    · simp at hRefused
  subst hReached
  have hSealed : ∃ result, sealRecording site moment clientIp body.reference body.recordingSha256
    body.sizes session.id db = (result, reached) ∧ result ≠ .error .keyringError := by
    rcases andThen_eq_error_iff.mp hRun with hSeal | ⟨_, sealed, hSeal, hClose⟩
    · refine ⟨_, hSeal, ?_⟩
      rintro ⟨⟩
      exact absurd hCaught (by decide)
    · rw [(commit_eq_error_iff.mp hClose).2]
      exact ⟨_, hSeal, by simp⟩
  rcases hSealed with ⟨result, hSeal, hNotKeyring⟩
  rcases sealRecording_cases hSeal with
    ⟨hNot, rfl⟩ | ⟨hRecorded, hPartial, rfl⟩ | ⟨hRecorded, hComplete, hLogged⟩
  · exact iff_of_true rfl (by simp [hNot])
  · rw [hId, saveReference_eq_self_iff hSession]
    simp [hRecorded, hPartial]
  · refine iff_of_false ?_ (fun hAll => (hAll hRecorded).1 hComplete)
    rintro rfl
    exact hLogged.elim hNotKeyring (fun hNe => hNe rfl)

def sampleBody (reference reason : Text) : CloseBody where
  session := .ok (some sampleSession.id)
  outcome := "closed"
  reason := reason
  recordingReference := reference
  recordingSha256 := []
  bytesIn := .ok 12
  bytesOut := .ok 40

theorem refused_close_report_sample : ∃ after, gatewayCloseBody sampleSite sampleMoment none
    (.ok (sampleBody "../../secret.pamrec" "gateway_closed")) sampleHosts = (.forbidden, after) ∧
    after = sampleHosts := by
  have hForbidden : gatewayCloseBody sampleSite sampleMoment none
    (.ok (sampleBody "../../secret.pamrec" "gateway_closed")) sampleHosts =
    (.forbidden, sampleHosts) := rfl
  refine ⟨_, hForbidden, (refused_close_report_iff hForbidden).mpr ?_⟩
  rintro _ _ ⟨⟨⟩, _⟩ hRecorded
  exact absurd hRecorded (by decide)

def sampleReference : Text := "00000000-0000-0000-0000-000000000004.pamrec"

/-
  Without its digest a report is answered with 403, and the row keeps the reference. With it, and a
  lone surrogate for a reason, the sealing event is recorded too.
-/
theorem refused_report_keeps_reference : (∃ after, gatewayCloseBody sampleSite sampleMoment none
        (.ok (sampleBody sampleReference "gateway_closed")) sampleHosts = (.forbidden, after) ∧
      (sampleHosts.sessions.get sampleSession.id).map PrivilegedSession.recordingReference =
        some [] ∧
      (after.sessions.get sampleSession.id).map PrivilegedSession.recordingReference =
        some sampleReference) ∧
    ∃ after, gatewayCloseBody sampleSite sampleMoment none
        (.ok { sampleBody sampleReference [0xD800] with
          recordingSha256 := List.replicate 64 48 }) sampleHosts = (.forbidden, after) ∧
      after.audit.events.length = sampleHosts.audit.events.length + 1 :=
  ⟨⟨_, rfl, by decide +kernel, by decide +kernel⟩, _, rfl, by decide +kernel⟩

end PamOlive.Api
