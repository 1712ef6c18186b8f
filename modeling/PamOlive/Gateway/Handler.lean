import PamOlive.Api.Redemption

/-
  One run of the connection handler of the gateway, with the requests it makes to the web process.

  A run is given by all that is decided outside the handler: whether the ticket, the request and
  the response arrive, how the recorder and the bridge end, and the keyring and clock of each
  request. An administrator may request the termination meanwhile. The handler reports the end of a
  session only if it had accepted an envelope.
-/

---- Runs

namespace PamOlive.Gateway

open Foundations Sessions Vault Api Table List

/- The reasons of the gateway are names. -/
abbrev Reason := { reason : Text // reason.isStorable = true }

inductive Raised where
  | recordingStorageError
  | protocolError (className : Reason)
  | sshPermissionDenied | transportError | other

def Raised.reason : Raised → Reason
| .recordingStorageError => ⟨"recording_storage_unavailable", by decide⟩
| .protocolError className => className
| .sshPermissionDenied => ⟨"ssh_authentication_failed", by decide⟩
| .transportError => ⟨"ssh_connection_failed", by decide⟩
| .other => ⟨"gateway_error", by decide⟩

structure Recording where
  sha256 : Text
  bytesIn : Int
  bytesOut : Int
  hSha256 : isSha256 sha256 = true

/-
  After the authorization: no recorder, or the bridge returns or raises, and then closing the
  recorder does.
-/
inductive Course where
  | unrecorded (raised : Raised)
  | recorded (result : Except Raised Reason) (closing : Option Recording)

/- The request for authorization, as the web process sees it. -/
structure Delivery where
  site : Site
  moment : Moment
  refused : Option Failure
  clientIp : Option IpText
  leaseId : Uuid
  leaseToken : Text
  responseArrives : Bool
  receivedAt : Int

structure Termination where
  site : Site
  moment : Moment
  seenStatus : SessionStatus
  actor : UserId

/- A run for a session id of the path. `ticket` and `delivery` are missing if it fails before. -/
structure HandlerRun where
  sessionId : Text
  hLength : sessionId.length = 36
  hPath : sessionId.all isHexOrDash = true
  sharedKey : Text
  sourceIp : Option IpText
  ticket : Option Text
  delivery : Option Delivery
  termination : Option Termination
  course : Course
  closeSite : Site
  closeMoment : Moment
  closeIp : Option IpText

open HandlerRun

---- The Handler

/- The request `client.authorize` sends. -/
def HandlerRun.request
    (run : HandlerRun) (delivery : Delivery) (ticket : Text) : AuthorizeRequest where
  payload :=
    match delivery.refused with
    | some failure => .error failure
    | none => .ok ⟨run.sessionId, ticket, run.sourceIp⟩
  clientIp := delivery.clientIp
  leaseId := delivery.leaseId
  leaseToken := delivery.leaseToken

/- `client.authorize` on a response, if it returns. -/
def HandlerRun.accept
    (run : HandlerRun) (delivery : Delivery) (response : Response SealedEnvelope) :
    Option Envelope :=
  match delivery.responseArrives, response with
  | true, .success envelope =>
    match decryptEnvelope run.sharedKey delivery.receivedAt envelope with
    | .ok content =>
      if content.sessionId = run.sessionId then some content
      else none
    | .error _ => none
  | _, _ => none

def HandlerRun.meanwhile (run : HandlerRun) (sessionId : Uuid) (db : Database) : Database :=
  match run.termination with
  | some termination =>
    (commit (requestSessionTermination termination.site termination.moment sessionId
      termination.seenStatus termination.actor) db).2
  | none => db

/- `outcome` and `reason` at the end of the `try` block. -/
def outcomeOf : Except Raised Reason → Text × Reason
| .ok reason => ("closed", reason)
| .error raised => ("failed", raised.reason)

def recordingReference (sessionId : Text) : Text := sessionId ++ ".pamrec"

section

variable (run : HandlerRun)

/- The report of the `finally` block, if it gets that far. -/
def HandlerRun.report : Option CloseReport :=
  match run.course with
  | .unrecorded raised =>
    some
      { sessionId := run.sessionId
        outcome := "failed"
        reason := raised.reason
        recordingReference := []
        recordingSha256 := []
        bytesIn := 0
        bytesOut := 0 }
  | .recorded result (some recording) =>
    some
      { sessionId := run.sessionId
        outcome := (outcomeOf result).1
        reason := (outcomeOf result).2
        recordingReference := recordingReference run.sessionId
        recordingSha256 := recording.sha256
        bytesIn := recording.bytesIn
        bytesOut := recording.bytesOut }
  | .recorded _ none => none

def HandlerRun.finish (db : Database) : Database :=
  match run.report with
  | some report => (gatewayClose run.closeSite run.closeMoment ⟨.ok report, run.closeIp⟩ db).2
  | none => db

def HandlerRun.conclude (db : Database) : Database :=
  match Uuid.parse run.sessionId with
  | some sessionId => run.finish (run.meanwhile sessionId db)
  | none => run.finish db

/- `GatewayApplication.__call__` on a websocket. -/
def GatewayApplication.call (db : Database) : Database :=
  match run.ticket, run.delivery with
  | some ticket, some delivery =>
    let answered := gatewayAuthorize delivery.site delivery.moment (run.request delivery ticket) db
    match run.accept delivery answered.1 with
    | some _ => run.conclude answered.2
    | none => answered.2
  | _, _ => db

end

---- Open Sessions

variable {site : Site} {moment : Moment} {sessionId : Uuid} {db after : Database}

def OpenAt (sessionId : Uuid) (db : Database) : Prop :=
  ∃ session, db.sessions.get sessionId = some session ∧ isOpen session = true

theorem openAt_congr (hSessions : after.sessions = db.sessions) :
    OpenAt sessionId after ↔ OpenAt sessionId db := by
  unfold OpenAt
  rw [hSessions]

theorem openAt_modify_iff (change : PrivilegedSession → PrivilegedSession)
    (hKey : ∀ row, (change row).id = row.id)
    (hSessions : after.sessions = db.sessions.modify sessionId change hKey)
    (hChange : ∀ row, db.sessions.get sessionId = some row → isOpen (change row) = isOpen row) :
    OpenAt sessionId after ↔ OpenAt sessionId db := by
  unfold OpenAt
  rw [hSessions]
  cases hGet : db.sessions.get sessionId with
  | none =>
    have hNone : (db.sessions.modify sessionId change hKey).get sessionId = none := by
      rw [get_eq_none_iff] at hGet ⊢
      rw [map_key_modify]
      exact hGet
    rw [hNone]
  | some row =>
    rw [get_modify_self hGet]
    simp [hChange row hGet]

variable {sourceIp : Option IpText}

theorem openAt_of_consumeSessionTicket {token : Text} {user : UserId} {opened : PrivilegedSession}
    (hConsume :
      consumeSessionTicket site moment sessionId token user sourceIp db = .ok (opened, after)) :
    OpenAt sessionId after := by
  rcases redeemed_of_consumeSessionTicket hConsume with ⟨_, session, _, _, _, hSession, _, _, rfl⟩
  exact ⟨openedSession moment.now session, redeemed_sessions_get_self hSession, rfl⟩

theorem not_openAt_of_closeSession
    {actor : Option UserId} {reason : Text} {failed : Bool} {closed : PrivilegedSession}
    (hClose : closeSession site moment sessionId actor reason failed db = .ok (closed, after)) :
    ¬ OpenAt sessionId after := by
  rcases closeSession_eq_ok hClose with ⟨locked, hLocked, ⟨hOver, rfl⟩ | ⟨_, _, rfl⟩⟩
  · rintro ⟨session, hGet, hOpen⟩
    cases Option.mem_unique hLocked hGet
    unfold isOver at hOver
    unfold isOpen at hOpen
    simp only [decide_eq_true_eq] at hOver hOpen
    rcases hOver with hOver | hOver <;> simp [hOver] at hOpen
  · rintro ⟨session, hGet, hOpen⟩
    rw [get_modify_self hLocked] at hGet
    cases hGet
    unfold isOpen endedSession at hOpen
    cases failed with
    | true => simp at hOpen
    | false => simp at hOpen

theorem openAt_of_requestSessionTermination
    {seenStatus : SessionStatus} {actor : UserId} {result : PrivilegedSession × Bool}
    (hRequest :
      requestSessionTermination site moment sessionId seenStatus actor db = .ok (result, after))
    (hOpen : OpenAt sessionId db) : OpenAt sessionId after := by
  rcases requestSessionTermination_eq_ok hRequest with ⟨locked, hLocked, ⟨_, rfl⟩ | ⟨_, hLive, rfl⟩⟩
  · exact hOpen
  refine (openAt_modify_iff (terminatedSession moment.now actor)
  (terminatedSession_id _ _) rfl ?_).mpr hOpen
  intro row hRow
  cases Option.mem_unique hLocked hRow
  unfold isOver at hLive
  unfold isOpen terminatedSession
  cases hStatus : locked.status with
  | created => simp
  | active => simp
  | terminating => simp
  | closed => simp [hStatus] at hLive
  | failed => simp [hStatus] at hLive

theorem openAt_meanwhile (run : HandlerRun) (hOpen : OpenAt sessionId db) :
    OpenAt sessionId (run.meanwhile sessionId db) := by
  unfold meanwhile
  split
  · unfold commit
    split
    · rename_i result after hRequest
      exact openAt_of_requestSessionTermination hRequest hOpen
    · exact hOpen
  · exact hOpen

---- Processing A Report

theorem isRecordingReference_run (run : HandlerRun) :
    isRecordingReference ((recordingReference run.sessionId).take 500) = true := by
  have hShort : (recordingReference run.sessionId).take 500 = recordingReference run.sessionId := by
    apply take_of_length_le
    unfold recordingReference
    rw [length_append, run.hLength]
    decide
  have hTake : (recordingReference run.sessionId).take 36 = run.sessionId := by
    rw [← run.hLength]
    exact take_left
  have hDrop : (recordingReference run.sessionId).drop 36 = ".pamrec" := by
    rw [← run.hLength]
    exact drop_left
  unfold isRecordingReference
  rw [hShort, hTake, hDrop, run.hLength, run.hPath]
  rfl

variable {run : HandlerRun} {report : CloseReport}

theorem sealReport_report (site : Site) (moment : Moment) (request : CloseRequest)
    (hReport : run.report = some report) (hOpen : OpenAt sessionId db) :
    ∃ result after, sealReport site moment request report sessionId db = (result, after) ∧
      OpenAt sessionId after ∧
      (result = .ok () ∨ result = .error .keyringError) := by
  unfold HandlerRun.report at hReport
  split at hReport
  · cases hReport
    exact ⟨.ok (), db, rfl, hOpen, .inl rfl⟩
  · rename_i result recording _
    cases hReport
    have hReference := isRecordingReference_run run
    have hSome : (recordingReference run.sessionId).take 500 ≠ [] := by
      intro hNone
      rw [hNone] at hReference
      exact absurd hReference (by decide)
    unfold sealReport sealRecording
    rw [if_neg hSome, if_neg (by simp [hReference]), if_neg (by simp [recording.hSha256])]
    have hSaved : OpenAt sessionId
      (saveReference moment.now ((recordingReference run.sessionId).take 500) sessionId db) :=
      (openAt_modify_iff _ (recordedSession_id _ _) rfl (fun _ _ => rfl)).mpr hOpen
    dsimp only
    split
    · rename_i after hRecord
      rcases Database.recordEvent_eq_ok hRecord with ⟨audit, rfl⟩
      exact ⟨_, _, rfl, hSaved, .inl rfl⟩
    · rename_i failure hRecord
      have hKeyring := Database.recordEvent_eq_error hRecord
      subst hKeyring
      exact ⟨_, _, rfl, hSaved, .inr rfl⟩
  · simp at hReport

theorem closeSession_cases (site : Site) (moment : Moment) (actor : Option UserId) {reason : Text}
    (failed : Bool) (hReason : reason.isStorable = true) (hOpen : OpenAt sessionId db) :
    (∃ result after, closeSession site moment sessionId actor reason failed
      db = .ok (result, after) ∧ ¬ OpenAt sessionId after) ∨
      closeSession site moment sessionId actor reason failed db = .error .keyringError := by
  rcases hOpen with ⟨session, hSession, _⟩
  cases hClose : closeSession site moment sessionId actor reason failed db with
  | ok result =>
    rcases result with ⟨closed, after⟩
    exact .inl ⟨closed, after, rfl, not_openAt_of_closeSession hClose⟩
  | error failure =>
    rcases closeSession_eq_error hSession hClose with rfl | ⟨_, hLost⟩
    · exact .inr rfl
    · exact absurd (Text.isStorable_take hReason 255) (by simp [hLost])

theorem gatewayClose_report (clientIp : Option IpText)
    (hReport : run.report = some report) (hParse : Uuid.parse run.sessionId = some sessionId)
    (hOpen : OpenAt sessionId db) :
    OpenAt sessionId (gatewayClose site moment ⟨.ok report, clientIp⟩ db).2 ↔
      (gatewayClose site moment ⟨.ok report, clientIp⟩ db).1 = .raised .keyringError := by
  have hId : report.sessionId = run.sessionId := by
    unfold HandlerRun.report at hReport
    split at hReport
    · injection hReport with hReport
      rw [← hReport]
    · injection hReport with hReport
      rw [← hReport]
    · simp at hReport
  have hReason : report.reason.isStorable = true := by
    unfold HandlerRun.report at hReport
    split at hReport
    · injection hReport with hReport
      rw [← hReport]
      exact (Raised.reason _).property
    · injection hReport with hReport
      rw [← hReport]
      exact (outcomeOf _).2.property
    · simp at hReport
  have hRow := hOpen
  rcases hRow with ⟨row, hRow, _⟩
  rw [← hId] at hParse
  rcases sealReport_report site moment ⟨.ok report, clientIp⟩ hReport hOpen with
    ⟨result, sealed, hSeal, hSealed, hResult⟩
  unfold gatewayClose
  simp only [hParse, hRow]
  unfold andThen
  rw [hSeal]
  rcases hResult with rfl | rfl
  · dsimp only
    unfold commit
    rcases closeSession_cases site moment none (decide (report.outcome = "failed"))
      (Text.isStorable_take hReason 255) hSealed with ⟨closed, after, hClose, hClosed⟩ | hClose
    · rw [hClose]
      simp [hClosed]
    · rw [hClose]
      simp [hSealed, refuse, isCaught]
  · simp [hSealed, refuse, isCaught]

theorem closeRefused_open_iff (hOpen : OpenAt sessionId db) :
    OpenAt sessionId (closeRefused site moment sessionId db).2 ↔
      (closeRefused site moment sessionId db).1 = .raised .keyringError := by
  unfold closeRefused commit
  have hReason : Text.isStorable "gateway_authorization_failed" = true := by decide
  rcases closeSession_cases site moment none true hReason hOpen with
    ⟨closed, after, hClose, hClosed⟩ | hClose
  · rw [hClose]
    simp [hClosed]
  · rw [hClose]
    simp [hOpen]

theorem closeRefused_ne_success (envelope : SealedEnvelope) :
    (closeRefused site moment sessionId db).1 ≠ .success envelope := by
  unfold closeRefused
  split <;> simp

---- Accepting An Envelope

/- The response comes in time to a gateway with the same key, for a canonical session id. -/
structure Accepts (run : HandlerRun) (delivery : Delivery) (sessionId : Uuid) : Prop where
  arrives : delivery.responseArrives = true
  sharedKey : run.sharedKey = delivery.site.sharedKey
  inTime : delivery.receivedAt / 1000000 ≤ delivery.moment.now / 1000000 + 60 ∧
    delivery.moment.now / 1000000 ≤ delivery.receivedAt / 1000000 + 60
  spelling : run.sessionId = Uuid.str sessionId

variable {session : PrivilegedSession} {request : AuthorizeRequest} {envelope : SealedEnvelope}
variable {delivery : Delivery}

theorem sealed_of_openEnvelope
    (hOpen : openEnvelope site moment request sourceIp session db = (.ok envelope, after)) :
    32 ≤ site.sharedKey.length ∧ envelope.sharedKey = site.sharedKey ∧
      envelope.sealedAt = moment.now / 1000000 ∧
      envelope.content.sessionId = Uuid.str session.id := by
  rcases openEnvelope_eq_ok_iff.mp hOpen with ⟨_, _, _, _, _, _, _, hSeal⟩
  rcases found_bind_eq_ok_iff.mp hSeal with ⟨_, _, hSeal⟩
  rcases bind_eq_ok_iff.mp hSeal with ⟨_, _, hSeal⟩
  rcases encryptEnvelope_eq_ok_iff.mp hSeal with ⟨hKey, rfl⟩
  exact ⟨hKey, rfl, rfl, rfl⟩

theorem decryptEnvelope_eq_ok_iff {sharedKey : Text} {now : Int} {content : Envelope} :
    decryptEnvelope sharedKey now envelope = .ok content ↔ 32 ≤ sharedKey.length ∧
      sharedKey = envelope.sharedKey ∧
      (now / 1000000 ≤ envelope.sealedAt + 60 ∧ envelope.sealedAt ≤ now / 1000000 + 60) ∧
      content = envelope.content := by
  unfold decryptEnvelope
  simp only [require_bind_eq_ok_iff, pure_eq_ok_iff]
  constructor
  all_goals
    rintro ⟨hLength, hKey, hTime, rfl⟩
    exact ⟨hLength, hKey, hTime, rfl⟩

theorem accept_eq_none {response : Response SealedEnvelope}
    (hOther : ∀ envelope, response ≠ .success envelope) : run.accept delivery response = none := by
  unfold accept
  split
  · rename_i envelope _
    exact absurd rfl (hOther envelope)
  · rfl

theorem accept_isSome_iff (run : HandlerRun)
    (hOpen : openEnvelope delivery.site delivery.moment request
      sourceIp session db = (.ok envelope, after)) :
    (run.accept delivery (.success envelope)).isSome = true ↔ Accepts run delivery session.id := by
  rcases sealed_of_openEnvelope hOpen with ⟨hLength, hKey, hTime, hId⟩
  unfold accept
  constructor
  · intro hSome
    split at hSome
    · rename_i hArrives hResponse
      cases hResponse
      split at hSome
      · rename_i content hDecrypt
        rcases decryptEnvelope_eq_ok_iff.mp hDecrypt with ⟨_, hSame, hWindow, rfl⟩
        split at hSome
        · rename_i hSpelling
          rw [hTime] at hWindow
          exact ⟨hArrives, hSame.trans hKey, hWindow, hSpelling.symm.trans hId⟩
        · simp at hSome
      · simp at hSome
    · simp at hSome
  · intro hAccepts
    have hDecrypt :
      decryptEnvelope run.sharedKey delivery.receivedAt envelope = .ok envelope.content := by
      apply decryptEnvelope_eq_ok_iff.mpr
      rw [hAccepts.sharedKey, hKey, hTime]
      exact ⟨hLength, rfl, hAccepts.inTime, rfl⟩
    rw [hAccepts.arrives]
    dsimp only
    rw [hDecrypt]
    dsimp only
    rw [if_pos (hId.trans hAccepts.spelling.symm)]
    rfl

---- Orphaned Sessions

/- The run presents a ticket and the ticket is consumed. -/
structure Consumes (run : HandlerRun) (db : Database) (ticket : Text) (delivery : Delivery)
    (sessionId : Uuid) (session : PrivilegedSession) (opened : Database) : Prop where
  sent : run.ticket = some ticket
  delivered : run.delivery = some delivery
  authenticated : delivery.refused = none
  parsed : Uuid.parse run.sessionId = some sessionId
  consumed : ∃ row, db.sessions.get sessionId = some row ∧
    consumeSessionTicket delivery.site delivery.moment sessionId ticket row.userId
      (run.sourceIp.or delivery.clientIp) db =
      .ok (session, opened)

/-
  What has to go well once the ticket was consumed: only a refusal stops the authorization, it can
  be recorded, and a granted envelope is accepted, its recorder closed and the report recorded.
-/
def Recovers (run : HandlerRun) (ticket : Text) (delivery : Delivery) (sessionId : Uuid)
    (session : PrivilegedSession) (opened : Database) : Prop :=
  match openEnvelope delivery.site delivery.moment (run.request delivery ticket)
    (run.sourceIp.or delivery.clientIp) session
    opened with
  | (.ok _, granted) =>
    Accepts run delivery sessionId ∧ ∃ report, run.report = some report ∧
      (gatewayClose run.closeSite run.closeMoment ⟨.ok report, run.closeIp⟩
        (run.meanwhile sessionId granted)).1 ≠ .raised .keyringError
  | (.error failure, failed) =>
    isCaught failure = true ∧
      (closeRefused delivery.site delivery.moment sessionId failed).1 ≠ .raised .keyringError

def Settled (run : HandlerRun) (db : Database) : Prop :=
  ∀ ticket delivery sessionId session opened, Consumes run db ticket delivery sessionId session
    opened → Recovers run ticket delivery sessionId session opened

theorem gatewayAuthorize_of_not_consumed
    (hNone : ∀ payload sessionId row result, request.payload = .ok payload →
      Uuid.parse payload.sessionId = some sessionId → db.sessions.get sessionId = some row →
        consumeSessionTicket site moment sessionId payload.ticket row.userId
          (redemptionAddress request payload) db ≠ .ok result) :
    (gatewayAuthorize site moment request db).2 = db ∧
      ∀ envelope, (gatewayAuthorize site moment request db).1 ≠ .success envelope := by
  cases hPayload : request.payload with
  | error failure =>
    unfold gatewayAuthorize
    rw [hPayload]
    exact ⟨rfl, fun _ => refuse_ne_success⟩
  | ok payload =>
    cases hParse : Uuid.parse payload.sessionId with
    | none =>
      unfold gatewayAuthorize
      simp [hPayload, hParse]
    | some sessionId =>
      cases hRow : db.sessions.get sessionId with
      | none =>
        unfold gatewayAuthorize
        simp [hPayload, hParse, hRow]
      | some row =>
        cases hConsume : consumeSessionTicket site moment sessionId payload.ticket row.userId
          (redemptionAddress request payload)
          db with
        | ok result =>
          exact absurd hConsume (hNone payload sessionId row result hPayload hParse hRow)
        | error failure =>
          rw [gatewayAuthorize_of_refused hPayload hParse hRow hConsume]
          exact ⟨rfl, fun _ => refuse_ne_success⟩

theorem call_of_not_consumes (hNone : ∀ ticket delivery sessionId session opened,
    ¬ Consumes run db ticket delivery sessionId session opened) :
    GatewayApplication.call run db = db := by
  unfold GatewayApplication.call
  split
  · rename_i ticket delivery hTicket hDelivery
    have hAuthorize :
      (gatewayAuthorize delivery.site delivery.moment (run.request delivery ticket) db).2 = db ∧
        ∀ envelope, (gatewayAuthorize delivery.site delivery.moment
          (run.request delivery ticket) db).1 ≠ .success envelope := by
      apply gatewayAuthorize_of_not_consumed
      intro payload sessionId row result hPayload hParse hRow hConsume
      unfold request at hPayload
      cases hRefused : delivery.refused with
      | some failure => simp [hRefused] at hPayload
      | none =>
        simp only [hRefused, Except.ok.injEq] at hPayload
        subst hPayload
        exact hNone ticket delivery sessionId result.1
          result.2 ⟨hTicket, hDelivery, hRefused, hParse, row, hRow, hConsume⟩
    dsimp only
    rw [accept_eq_none hAuthorize.2]
    exact hAuthorize.1
  · rfl

theorem openAt_finish_iff (hParse : Uuid.parse run.sessionId = some sessionId)
    (hOpen : OpenAt sessionId db) :
    OpenAt sessionId (run.finish db) ↔ ¬ ∃ report, run.report = some report ∧
      (gatewayClose run.closeSite run.closeMoment
        ⟨.ok report, run.closeIp⟩ db).1 ≠ .raised .keyringError := by
  unfold finish
  cases hReport : run.report with
  | none => simp [hOpen]
  | some report =>
    rw [gatewayClose_report run.closeIp hReport hParse hOpen]
    simp

variable {ticket : Text} {opened : Database}

section

variable (hConsumes : Consumes run db ticket delivery sessionId session opened)

include hConsumes

theorem call_of_consumes : GatewayApplication.call run db =
      let answered := answerConsumed delivery.site delivery.moment (run.request delivery ticket)
        (run.sourceIp.or delivery.clientIp) session opened
      match run.accept delivery answered.1 with
      | some _ => run.finish (run.meanwhile sessionId answered.2)
      | none => answered.2 := by
  rcases hConsumes.consumed with ⟨row, hRow, hConsume⟩
  have hPayload :
    (run.request delivery ticket).payload = .ok ⟨run.sessionId, ticket, run.sourceIp⟩ := by
    unfold request
    rw [hConsumes.authenticated]
  unfold GatewayApplication.call conclude
  simp only [hConsumes.sent, hConsumes.delivered, hConsumes.parsed]
  rw [gatewayAuthorize_of_consumed hPayload hConsumes.parsed hRow hConsume]
  rfl

/- A consumed ticket leaves its session open or recovers. -/
theorem openAt_call_iff : OpenAt sessionId (GatewayApplication.call run db) ↔
    ¬ Recovers run ticket delivery sessionId session opened := by
  rcases hConsumes.consumed with ⟨row, hRow, hConsume⟩
  have hOpened := openAt_of_consumeSessionTicket hConsume
  have hId : session.id = sessionId := by
    rcases redeemed_of_consumeSessionTicket hConsume with ⟨_, _, _, _, _, hSession, _, rfl, _⟩
    exact (get_eq_some_iff.mp hSession).2
  have hFrame :
    LeaseFrame opened (openEnvelope delivery.site delivery.moment (run.request delivery ticket)
      (run.sourceIp.or delivery.clientIp) session opened).2 :=
    openEnvelope_frame _ session opened
  rw [call_of_consumes hConsumes]
  unfold Recovers answerConsumed
  cases hOpen : openEnvelope delivery.site delivery.moment (run.request delivery ticket)
    (run.sourceIp.or delivery.clientIp) session
    opened with
  | mk result final =>
  rw [hOpen] at hFrame
  have hFinal := (openAt_congr hFrame.sessions).mpr hOpened
  cases result with
  | error failure =>
    dsimp only
    cases hCaught : isCaught failure with
    | true =>
      rw [if_pos rfl, hId, accept_eq_none closeRefused_ne_success]
      rw [closeRefused_open_iff hFinal]
      simp
    | false =>
      rw [if_neg Bool.false_ne_true, accept_eq_none (by simp)]
      simp [hFinal]
  | ok envelope =>
    have hAccept := accept_isSome_iff run hOpen
    rw [hId] at hAccept
    dsimp only
    have hKept := openAt_meanwhile run hFinal
    have hFinish := openAt_finish_iff hConsumes.parsed hKept
    cases hAnswer : run.accept delivery (.success envelope) with
    | none =>
      rw [hAnswer] at hAccept
      have hRefused : ¬ Accepts run delivery sessionId := by
        intro hAccepts
        exact absurd (hAccept.mpr hAccepts) (by simp)
      simp [hFinal, hRefused]
    | some content =>
      rw [hAnswer] at hAccept
      have hAccepts := hAccept.mp rfl
      rw [hFinish]
      simp [hAccepts]

end

/-
  A run that starts with no open session leaves none behind exactly if a ticket it consumes is
  settled: no error after that, the envelope accepted, the recorder closed and the end recorded.
-/
theorem no_orphan_iff {run : HandlerRun}
    (hStart : ∀ sessionId, Uuid.parse run.sessionId = some sessionId → ¬ OpenAt sessionId db) :
    (∀ sessionId, Uuid.parse run.sessionId = some sessionId →
        ¬ OpenAt sessionId (GatewayApplication.call run db)) ↔
      Settled run db := by
  constructor
  · intro hEnd ticket delivery sessionId session opened hConsumes
    have hClosed := hEnd sessionId hConsumes.parsed
    rw [openAt_call_iff hConsumes] at hClosed
    exact Classical.not_not.mp hClosed
  intro hSettled sessionId hParse
  by_cases hConsumes : ∃ ticket delivery sessionId session opened,
        Consumes run db ticket delivery sessionId session opened
  · rcases hConsumes with ⟨ticket, delivery, sessionId', session, opened, hConsumes⟩
    have hSame : sessionId' = sessionId := by
      have hParsed := hConsumes.parsed
      rw [hParse] at hParsed
      exact (Option.some.inj hParsed).symm
    subst hSame
    rw [openAt_call_iff hConsumes]
    exact fun hNot => hNot (hSettled _ _ _ _ _ hConsumes)
  · have hNone : ∀ ticket delivery sessionId session opened,
      ¬ Consumes run db ticket delivery sessionId session opened := by
      intro ticket delivery id session opened hConsumed
      exact hConsumes ⟨ticket, delivery, id, session, opened, hConsumed⟩
    rw [call_of_not_consumes hNone]
    exact hStart sessionId hParse

def sampleDelivery : Delivery where
  site := sampleSite
  moment := sampleMoment
  refused := none
  clientIp := none
  leaseId := 5
  leaseToken := "lease"
  responseArrives := true
  receivedAt := 0

def sampleRun : HandlerRun where
  sessionId := Uuid.str 4
  hLength := by decide
  hPath := by decide
  sharedKey := replicate 32 120
  sourceIp := none
  ticket := some "ticket"
  delivery := some sampleDelivery
  termination := none
  course := .recorded (.ok ⟨"remote_exit", by decide⟩) (some ⟨replicate 64 48, 0, 0, by decide⟩)
  closeSite := sampleSite
  closeMoment := sampleMoment
  closeIp := none

theorem not_openAt_sampleIssued (hIssued : sampleIssued = .ok db) (sessionId : Uuid)
    (hParse : Uuid.parse (Uuid.str 4) = some sessionId) : ¬ OpenAt sessionId db := by
  cases hParse
  cases hIssued
  rintro ⟨session, hGet, hOpen⟩
  cases hGet
  exact absurd hOpen (by decide)

theorem no_orphan_sample : ∃ db, sampleIssued = .ok db ∧ Settled sampleRun db ∧
    ∀ sessionId, Uuid.parse sampleRun.sessionId = some sessionId →
      ¬ OpenAt sessionId (GatewayApplication.call sampleRun db) := by
  have hIssued : ∃ db, sampleIssued = .ok db := ⟨_, rfl⟩
  rcases hIssued with ⟨db, hDb⟩
  have hEnd : ∀ sessionId, Uuid.parse sampleRun.sessionId = some sessionId →
    ¬ OpenAt sessionId (GatewayApplication.call sampleRun db) := by
    intro sessionId hParse
    cases (Uuid.parse_str 4).symm.trans hParse
    cases hDb
    rintro ⟨session, ⟨⟩, hOpen⟩
    exact absurd hOpen (by decide)
  have hIff : (∀ sessionId, Uuid.parse sampleRun.sessionId = some sessionId →
    ¬ OpenAt sessionId (GatewayApplication.call sampleRun db)) ↔
    Settled sampleRun db :=
    no_orphan_iff (not_openAt_sampleIssued hDb)
  exact ⟨db, hDb, hIff.mp hEnd, hEnd⟩

/- The response is lost after the ticket was consumed. Nobody closes the session any more. -/
theorem lost_response_orphans :
    ∃ db sessionId, sampleIssued = .ok db ∧ Uuid.parse sampleRun.sessionId = some sessionId ∧
      ¬ OpenAt sessionId db ∧ OpenAt sessionId (GatewayApplication.call { sampleRun with
          delivery := some { sampleDelivery with
              responseArrives := false } } db) := by
  have hIssued : ∃ db, sampleIssued = .ok db := ⟨_, rfl⟩
  rcases hIssued with ⟨db, hDb⟩
  refine ⟨db, 4, hDb, Uuid.parse_str 4, not_openAt_sampleIssued hDb 4 (Uuid.parse_str 4), ?_⟩
  cases hDb
  exact ⟨_, rfl, rfl⟩

end PamOlive.Gateway
