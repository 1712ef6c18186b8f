import PamOlive.Api.Views
import PamOlive.Gateway.Handler
import PamOlive.Rdp.Broker
import PamOlive.Sessions.ExpiredQuota
import PamOlive.Sessions.Lifecycle

/-
  Ending a session from the console.

  `terminate_session` marks an open session and leaves the rest to the components that work for it:
  requests of brokers, handlers of the SSH gateway, launches of the RDP broker, terminals of the
  web process and browser pages, each at a stage of its own.

  Only a handler that accepted an envelope is bound to report the end. Without one a session is
  left in status `TERMINATING`.
-/

---- The View

namespace PamOlive.Console

open Foundations Accounts Rbac Sessions Api Gateway Rdp Vault Table List

structure TerminateCall extends WebRequest where
  isSuperuser : Bool
  browser : BrowserSession
  gatewayAccepts : Bool

inductive TerminateAnswer where
  | forbidden
  | stepUp (answer : StepUp)
  | notFound
  | redirected (message : Text)
  | raised (failure : Failure)
deriving DecidableEq

def terminateLabel : Text := "terminer une session privilégiée"

def terminationMessage (notifyGateway gatewayAccepts : Bool) : Text :=
  if notifyGateway then
    if gatewayAccepts then "La coupure a été transmise au broker SSH."
    else "La terminaison reste en attente : le broker n’a pas répondu."
  else "La session ou son ticket a été fermé."

def terminateSession (web : WebSite) (moment : Moment) (call : TerminateCall) (sessionId : Uuid)
    (db : Database) : TerminateAnswer × Database :=
  if userHasCapability moment.now ⟨call.user, call.isSuperuser⟩ .sessionsTerminate db = false then
    (.forbidden, db)
  else
    match sensitiveMfaRequired web.bypassMfa moment.now
      terminateLabel call.toWebRequest call.browser db with
    | some answer => (.stepUp answer, db)
    | none =>
      match db.sessions.get sessionId with
      | none => (.notFound, db)
      | some session =>
        match commit
          (requestSessionTermination web.toSite moment sessionId session.status call.user)
          db with
        | (.ok result, after) =>
          (.redirected (terminationMessage result.2 call.gatewayAccepts), after)
        | (.error failure, after) => (.raised failure, after)

variable {web : WebSite} {moment : Moment} {call : TerminateCall} {sessionId : Uuid}
variable {answer : TerminateAnswer} {db after : Database}

theorem terminateSession_cases
    (hView : terminateSession web moment call sessionId db = (answer, after)) :
    ((∀ message, answer ≠ .redirected message) ∧ after = db) ∨
      ∃ seenStatus result, requestSessionTermination web.toSite moment
        sessionId seenStatus call.user db = .ok (result, after) := by
  unfold terminateSession at hView
  split at hView
  · cases hView
    exact .inl ⟨by simp, rfl⟩
  split at hView
  · cases hView
    exact .inl ⟨by simp, rfl⟩
  split at hView
  · cases hView
    exact .inl ⟨by simp, rfl⟩
  split at hView
  next session _ result recorded hCommit =>
    cases hView
    exact .inr ⟨_, _, commit_eq_ok_iff.mp hCommit⟩
  next failure recorded hCommit =>
    cases hView
    exact .inl ⟨by simp, (commit_eq_error_iff.mp hCommit).2⟩

---- Components

/- A broker with the session id and ticket it was given. -/
inductive Broker where
  | gateway (sessionId ticket : Text)
  | rdp (form : Option LaunchForm)

/- What a broker asks the web process with. -/
def Broker.asks : Broker → Option (Text × Text)
| .gateway sessionId ticket => some (sessionId, ticket)
| .rdp form => (launchRequest form).toOption

/-
  Where a component is: the authorization runs on; the response is on its way; the bridge runs; the
  handler ended and its report was lost; the connection is handed over; the web terminal is about
  to close; or a page is open.
-/
inductive Stage where
  | authorizing (broker : Broker) (request : AuthorizeRequest) (sourceIp : Option IpText)
    (session : PrivilegedSession)
  | answered (broker : Broker) (envelope : SealedEnvelope)
  | bridging | unreported
  | launching (envelope : Envelope)
  | consuming (user : UserId)
  | page

/- What a broker does with an envelope it accepts. -/
def Broker.holding : Broker → Envelope → Stage
| .gateway _ _, _ => .bridging
| .rdp _, envelope => .launching envelope

structure Component where
  sessionId : Uuid
  stage : Stage

structure Installation where
  db : Database
  components : List Component

/- What brings a component into being, and its session. -/
inductive Opening (db : Database) : Database → Component → Prop
  | web {after : Database} {site : Site} {moment : Moment} {call : OpenCall}
    {session : PrivilegedSession}
    (hStart : startWebSession site moment call db = .ok (session, after)) :
    Opening db after ⟨session.id, .page⟩
  | consumer {after : Database} {site : Site} {moment : Moment} {sessionId : Uuid} {token : Text}
    {user : UserId} {sourceIp : Option IpText} {session : PrivilegedSession}
    (hConsume :
      consumeSessionTicket site moment sessionId token user sourceIp db = .ok (session, after)) :
    Opening db after ⟨sessionId, .consuming user⟩
  | broker {after : Database} {site : Site} {moment : Moment} {broker : Broker}
    {request : AuthorizeRequest} {payload : AuthorizePayload} {sessionId : Uuid}
    {row session : PrivilegedSession}
    (hAsks : broker.asks = some (payload.sessionId, payload.ticket))
    (hPayload : request.payload = .ok payload)
    (hParse : Uuid.parse payload.sessionId = some sessionId)
    (hRow : db.sessions.get sessionId = some row)
    (hConsume : consumeSessionTicket site moment sessionId payload.ticket row.userId
      (redemptionAddress request payload) db = .ok (session, after)) :
    Opening db after
      ⟨sessionId, .authorizing broker request (redemptionAddress request payload) session⟩

/- What a component can do next: what it writes, and where it is then, if it goes on. -/
inductive Move (db : Database) : Component → Database → Option Component → Prop
  | authorized
    {after : Database} {site : Site} {moment : Moment} {sessionId : Uuid} {broker : Broker}
    {request : AuthorizeRequest} {sourceIp : Option IpText} {session : PrivilegedSession}
    {envelope : SealedEnvelope}
    (hAnswer :
      answerConsumed site moment request sourceIp session db = (.success envelope, after)) :
    Move db ⟨sessionId, .authorizing broker request sourceIp session⟩
      after (some ⟨sessionId, .answered broker envelope⟩)
  | refused
    {after : Database} {site : Site} {moment : Moment} {sessionId : Uuid} {broker : Broker}
    {request : AuthorizeRequest} {sourceIp : Option IpText} {session : PrivilegedSession}
    {response : Response SealedEnvelope}
    (hAnswer : answerConsumed site moment request sourceIp session db = (response, after))
    (hRefused : ∀ envelope, response ≠ .success envelope) :
    Move db ⟨sessionId, .authorizing broker request sourceIp session⟩ after none
  | accepted {sessionId : Uuid} {broker : Broker} {envelope : SealedEnvelope}
    {sharedKey ticket : Text} {receivedAt : Int} {content : Envelope}
    (hDecrypt : decryptEnvelope sharedKey receivedAt envelope = .ok content)
    (hAsked : broker.asks = some (content.sessionId, ticket)) :
    Move db ⟨sessionId, .answered broker envelope⟩ db (some ⟨sessionId, broker.holding content⟩)
  | dropped {sessionId : Uuid} {broker : Broker} {envelope : SealedEnvelope} :
    Move db ⟨sessionId, .answered broker envelope⟩ db none
  | reported {after : Database} {site : Site} {moment : Moment} {sessionId : Uuid}
    {report : CloseReport} {clientIp : Option IpText}
    (hParse : Uuid.parse report.sessionId = some sessionId)
    (hClose : gatewayClose site moment ⟨.ok report, clientIp⟩ db = (.success (), after)) :
    Move db ⟨sessionId, .bridging⟩ after none
  | reportFailed {after : Database} {site : Site} {moment : Moment} {sessionId : Uuid}
    {report : CloseReport} {clientIp : Option IpText} {response : Response Unit}
    (hClose : gatewayClose site moment ⟨.ok report, clientIp⟩ db = (response, after))
    (hFailed : response ≠ .success ()) :
    Move db ⟨sessionId, .bridging⟩ after (some ⟨sessionId, .unreported⟩)
  | reportLost {sessionId : Uuid} :
    Move db ⟨sessionId, .bridging⟩ db (some ⟨sessionId, .unreported⟩)
  | launched {sessionId : Uuid} {envelope : Envelope} {env : LaunchEnv}
    {page : HandoffPage}
    (hPage : handOff env envelope = .ok page) :
    Move db ⟨sessionId, .launching envelope⟩ db none
  | launchFailed {after : Database} {site : Site} {moment : Moment} {sessionId : Uuid}
    {envelope : Envelope} {env : LaunchEnv} {failure : LaunchError} {clientIp : Option IpText}
    {response : Response Unit}
    (hFailure : handOff env envelope = .error failure)
    (hClose : gatewayClose site moment ⟨.ok (launchReport (Uuid.str sessionId)), clientIp⟩ db =
      (response, after)) :
    Move db ⟨sessionId, .launching envelope⟩ after none
  | launchReportLost {sessionId : Uuid} {envelope : Envelope} {env : LaunchEnv}
    {failure : LaunchError}
    (hFailure : handOff env envelope = .error failure) :
    Move db ⟨sessionId, .launching envelope⟩ db none
  | consumed
    {after : Database} {site : Site} {moment : Moment} {sessionId : Uuid} {user : UserId}
    {result : Except Failure PrivilegedSession}
    (hClose : commit (closeSession site moment sessionId (some user) "gateway_not_configured"
      true) db = (result, after)) :
    Move db ⟨sessionId, .consuming user⟩ after none
  | pageClosed {sessionId : Uuid} : Move db ⟨sessionId, .page⟩ db none

---- The System

inductive EndingLabel where
  | ticketIssued | viewed | opened | moved | edited

inductive EndingStep : Installation → EndingLabel → Installation → Prop
  | ticketIssued {db after : Database} {components : List Component} {site : Site} {moment : Moment}
    {call : OpenCall} {result : PrivilegedSession × SessionTicket}
    (hIssue : issueSessionTicket site moment call db = .ok (result, after)) :
    EndingStep ⟨db, components⟩ .ticketIssued ⟨after, components⟩
  | viewed {db after : Database} {components : List Component} {web : WebSite} {moment : Moment}
    {call : TerminateCall} {sessionId : Uuid} {answer : TerminateAnswer}
    (hView : terminateSession web moment call sessionId db = (answer, after)) :
    EndingStep ⟨db, components⟩ .viewed ⟨after, components⟩
  | opened {db after : Database} {components : List Component} {component : Component}
    (hOpening : Opening db after component) :
    EndingStep ⟨db, components⟩ .opened ⟨after, component :: components⟩
  | moved {db after : Database} {first rest : List Component} {component : Component}
    {next : Option Component}
    (hMove : Move db component after next) :
    EndingStep ⟨db, first ++ component :: rest⟩ .moved ⟨after, first ++ next.toList ++ rest⟩
  | edited {db after : Database} {components : List Component}
    (hSessions : after.sessions = db.sessions)
    (hTickets : after.tickets = db.tickets) :
    EndingStep ⟨db, components⟩ .edited ⟨after, components⟩

def endingSystem : TransitionSystem Installation EndingLabel where
  init := fun state =>
    state.db.sessions.rows = [] ∧ state.db.tickets.rows = [] ∧ state.components = []
  step := EndingStep

def OverAt (sessionId : Uuid) (db : Database) : Prop :=
  ∃ session, db.sessions.get sessionId = some session ∧ isOver session = true

/- A handler accepted an envelope; its report is due. -/
def Stage.owesReport : Stage → Bool
| .bridging => true
| .unreported => true
| _ => false

def OwesReport (sessionId : Uuid) (components : List Component) : Prop :=
  ∃ component ∈ components, component.sessionId = sessionId ∧ component.stage.owesReport = true

/- All components of the session are done; a handler only once its report was delivered. -/
def Completed (sessionId : Uuid) (state : Installation) : Prop :=
  ∀ component ∈ state.components, component.sessionId ≠ sessionId

---- What No Step Undoes

variable {site : Site} {actor : Option UserId} {reason : Text} {failed : Bool}
variable {closed session : PrivilegedSession} {response : Response SealedEnvelope}
variable {sourceIp : Option IpText} {component : Component} {state' state : Installation}
variable {label : EndingLabel} {result : Except Failure PrivilegedSession} {next : Option Component}
variable {request : AuthorizeRequest}

/- Sessions stay over and tickets consumed. -/
structure Keeps (db after : Database) : Prop where
  closed : ∀ id, OverAt id db → OverAt id after
  consumed : ∀ id, HasConsumed id db → HasConsumed id after

open Keeps

theorem Keeps.refl (db : Database) : Keeps db db :=
  ⟨fun _ hOver => hOver, fun _ hConsumed => hConsumed⟩

theorem Keeps.trans (first second third : Database) (hFirst : Keeps first second)
    (hSecond : Keeps second third) : Keeps first third where
  closed := fun id hOver =>
    hSecond.closed id (hFirst.closed id hOver)
  consumed := fun id hConsumed =>
    hSecond.consumed id (hFirst.consumed id hConsumed)

theorem Keeps.of_tables (hSessions : after.sessions = db.sessions)
    (hTickets : after.tickets = db.tickets) : Keeps db after := by
  constructor
  · intro id hOver
    unfold OverAt
    rw [hSessions]
    exact hOver
  · intro id hConsumed
    unfold HasConsumed
    rw [hTickets]
    exact hConsumed

theorem Keeps.of_rowChange {now : Int} (hChange : RowChanges now db after) : Keeps db after := by
  constructor
  · rintro id ⟨session, hGet, hOver⟩
    have hRow := hChange id
    rw [hGet] at hRow
    rcases hRow.forward with ⟨session', hAfter, hForward, _⟩
    refine ⟨session', hAfter, ?_⟩
    unfold isOver at hOver ⊢
    rw [eq_of_advances (of_decide_eq_true hOver) hForward]
    exact hOver
  · rintro id ⟨ticket, hGet, hConsumed⟩
    have hRow := hChange id
    rw [hGet] at hRow
    exact hRow.consumed hConsumed

theorem keeps_closeSession
    (hClose : closeSession site moment sessionId actor reason failed db = .ok (closed, after)) :
    Keeps db after :=
  .of_rowChange (rowChange_of_closeSession hClose)

theorem keeps_terminateSession
    (hView : terminateSession web moment call sessionId db = (answer, after)) : Keeps db after := by
  rcases terminateSession_cases hView with ⟨_, rfl⟩ | ⟨seenStatus, result, hRequest⟩
  · exact refl _
  · exact .of_rowChange (rowChange_of_requestSessionTermination hRequest)

theorem keeps_sealRecording (clientIp : Option IpText) (reference sha256 : Text)
    (sizes : Except Failure (Int × Int)) (db : Database) :
    Keeps db (sealRecording site moment clientIp reference sha256 sizes sessionId db).2 := by
  have hSaved : ∀ audit, Keeps db { saveReference moment.now reference sessionId db with
      audit := audit } := by
    intro audit
    constructor
    · rintro id ⟨session, hGet, hOver⟩
      by_cases hSame : id = sessionId
      · subst hSame
        have hRow : (saveReference moment.now reference id db).sessions.get id =
          some (recordedSession moment.now reference session) := by
          rw [saveReference, get_modify_self hGet]
        exact ⟨_, hRow, hOver⟩
      · have hRow : (saveReference moment.now reference sessionId db).sessions.get id =
          db.sessions.get id := by
          rw [saveReference, get_modify_of_ne hSame]
        exact ⟨session, hRow.trans hGet, hOver⟩
    · exact fun _ hConsumed => hConsumed
  unfold sealRecording
  dsimp only
  split
  · exact refl db
  split
  · exact refl db
  split
  · exact hSaved db.audit
  split
  · exact hSaved db.audit
  split
  · rename_i recorded hRecord
    rcases Database.recordEvent_eq_ok hRecord with ⟨audit, rfl⟩
    exact hSaved audit
  · exact hSaved db.audit

theorem keeps_gatewayClose {request : CloseRequest} {response : Response Unit}
    (hClose : gatewayClose site moment request db = (response, after)) : Keeps db after := by
  unfold gatewayClose at hClose
  split at hClose
  · cases hClose
    exact refl db
  rename_i report _
  split at hClose
  · cases hClose
    exact refl db
  rename_i sessionId _
  split at hClose
  · cases hClose
    exact refl db
  have hSteps : Keeps db (andThen (sealReport site moment request report sessionId) (fun _ =>
    commit (closeSession site moment sessionId none (report.reason.take 255)
      (decide (report.outcome = "failed")))) db).2 := by
    apply andThen_relates trans
    · exact keeps_sealRecording _ _ _ _
    · intro _
      apply commit_relates refl
      intro before closed final hClosed
      exact keeps_closeSession hClosed
  split at hClose
  all_goals
    rename_i hAnswer
    rw [hAnswer] at hSteps
    cases hClose
    exact hSteps

theorem keeps_commit_closeSession (hCommit :
    commit (closeSession site moment sessionId actor reason failed) db = (result, after)) :
    Keeps db after := by
  have hKeeps :
    Keeps db (commit (closeSession site moment sessionId actor reason failed) db).2 := by
    apply commit_relates refl
    intro before closed final hClose
    exact keeps_closeSession hClose
  rw [hCommit] at hKeeps
  exact hKeeps

theorem keeps_closeRefused (hRefused : closeRefused site moment sessionId db = (response, after)) :
    Keeps db after := by
  unfold closeRefused at hRefused
  split at hRefused
  all_goals
    rename_i hCommit
    cases hRefused
    exact keeps_commit_closeSession hCommit

theorem keeps_answerConsumed
    (hAnswer : answerConsumed site moment request sourceIp session db = (response, after)) :
    Keeps db after := by
  have hFrame : LeaseFrame db (openEnvelope site moment request sourceIp session db).2 :=
    openEnvelope_frame sourceIp session db
  have hOpened := of_tables hFrame.sessions hFrame.tickets
  unfold answerConsumed at hAnswer
  split at hAnswer
  · rename_i hOpen
    rw [hOpen] at hOpened
    cases hAnswer
    exact hOpened
  · rename_i failure opened hOpen
    rw [hOpen] at hOpened
    split at hAnswer
    · exact trans _ _ _ hOpened (keeps_closeRefused hAnswer)
    · cases hAnswer
      exact hOpened

theorem Opening.keeps (hOpening : Opening db after component) : Keeps db after := by
  cases hOpening with
  | web hStart => exact .of_rowChange (rowChange_of_startWebSession hStart)
  | consumer hConsume => exact .of_rowChange (rowChange_of_consumeSessionTicket hConsume)
  | broker _ _ _ _ hConsume => exact .of_rowChange (rowChange_of_consumeSessionTicket hConsume)

theorem Move.keeps (hMove : Move db component after next) : Keeps db after := by
  cases hMove with
  | authorized hAnswer => exact keeps_answerConsumed hAnswer
  | refused hAnswer _ => exact keeps_answerConsumed hAnswer
  | reported _ hClose => exact keeps_gatewayClose hClose
  | reportFailed hClose _ => exact keeps_gatewayClose hClose
  | launchFailed _ hClose => exact keeps_gatewayClose hClose
  | consumed hClose => exact keeps_commit_closeSession hClose
  | _ => exact refl db

theorem EndingStep.keeps (hStep : EndingStep state label state') : Keeps state.db state'.db := by
  cases hStep with
  | ticketIssued hIssue => exact .of_rowChange (rowChange_of_issueSessionTicket hIssue)
  | viewed hView => exact keeps_terminateSession hView
  | opened hOpening => exact hOpening.keeps
  | moved hMove => exact hMove.keeps
  | edited hSessions hTickets => exact .of_tables hSessions hTickets

---- Reports

theorem not_overAt_of_openAt (hOpen : OpenAt sessionId db) : ¬ OverAt sessionId db := by
  rcases hOpen with ⟨session, hGet, hIsOpen⟩
  rintro ⟨other, hSame, hOver⟩
  cases Option.mem_unique hGet hSame
  unfold isOver at hOver
  rcases of_decide_eq_true hIsOpen with hStatus | hStatus <;> simp [hStatus] at hOver

theorem overAt_of_closeSession
    (hClose : closeSession site moment sessionId actor reason failed db = .ok (closed, after)) :
    OverAt sessionId after := by
  rcases closeSession_eq_ok hClose with ⟨locked, hLocked, ⟨hOver, rfl⟩ | ⟨_, _, rfl⟩⟩
  · exact ⟨locked, hLocked, hOver⟩
  · refine ⟨endedSession moment.now reason failed locked, ?_, ?_⟩
    · rw [get_modify_self hLocked]
    · unfold isOver endedSession
      cases failed with
      | true => simp
      | false => simp

theorem overAt_of_gatewayClose {report : CloseReport} {clientIp : Option IpText}
    (hParse : Uuid.parse report.sessionId = some sessionId)
    (hClose : gatewayClose site moment ⟨.ok report, clientIp⟩ db = (.success (), after)) :
    OverAt sessionId after := by
  unfold gatewayClose at hClose
  simp only [hParse] at hClose
  split at hClose
  · exact absurd hClose (by simp)
  · split at hClose
    · rename_i hSteps
      rcases andThen_eq_ok_iff.mp hSteps with ⟨_, middle, _, hCommit⟩
      cases hClose
      exact overAt_of_closeSession (commit_eq_ok_iff.mp hCommit)
    · injection hClose with hAnswer _
      exact absurd hAnswer refuse_ne_success

theorem Move.owesReport (hMove : Move db component after next)
    (hOwes : component.stage.owesReport = true) :
    OverAt component.sessionId after ∨ ∃ component', next = some component' ∧
      component'.sessionId = component.sessionId ∧ component'.stage.owesReport = true := by
  cases hMove with
  | reported hParse hClose => exact .inl (overAt_of_gatewayClose hParse hClose)
  | reportFailed _ _ => exact .inr ⟨_, rfl, rfl, rfl⟩
  | reportLost => exact .inr ⟨_, rfl, rfl, rfl⟩
  | _ => exact nomatch hOwes

/- The session is over, or the end will be reported. -/
def WillEnd (sessionId : Uuid) (state : Installation) : Prop :=
  OverAt sessionId state.db ∨ OwesReport sessionId state.components

theorem WillEnd.step (hWill : WillEnd sessionId state)
    (hStep : EndingStep state label state') : WillEnd sessionId state' := by
  have hKeeps := hStep.keeps
  rcases hWill with hOver | hOwes
  · exact .inl (hKeeps.closed sessionId hOver)
  cases hStep with
  | opened _ =>
    rcases hOwes with ⟨component, hMem, hOwes⟩
    exact .inr ⟨component, mem_cons_of_mem _ hMem, hOwes⟩
  | moved hMove =>
    rcases hOwes with ⟨component, hMem, hSame, hOwes⟩
    -- The handler itself moves, or another component.
    rcases mem_append.mp hMem with hFirst | hMem
    · refine .inr ⟨component, ?_, hSame, hOwes⟩
      simp [hFirst]
    rcases mem_cons.mp hMem with rfl | hRest
    · rcases hMove.owesReport hOwes with hOver | ⟨component', rfl, hId, hStill⟩
      · rw [hSame] at hOver
        exact .inl hOver
      · refine .inr ⟨component', ?_, hId.trans hSame, hStill⟩
        simp
    · refine .inr ⟨component, ?_, hSame, hOwes⟩
      simp [hRest]
  | _ => exact .inr hOwes

theorem overAt_of_completed
    {components : List Component} {final : Installation} {labels : List EndingLabel}
    (hOwes : OwesReport sessionId components)
    (hRun : endingSystem.Run ⟨db, components⟩ labels final)
    (hDone : Completed sessionId final) : OverAt sessionId final.db := by
  have hWill : WillEnd sessionId final := by
    refine hRun.invariant ?_ (.inr hOwes)
    intro before label after hBefore hStep
    exact hBefore.step hStep
  rcases hWill with hOver | ⟨component, hMem, hSame, _⟩
  · exact hOver
  · exact absurd hSame (hDone component hMem)

---- Components That Close Nothing

def withoutSigning (site : Site) : Site :=
  { site with
    services :=
      { site.services with
        keyring :=
          { site.services.keyring with
            sign := fun _ => .error .operationFailed } } }

theorem recordEvent_withoutSigning {action resourceType resourceId : Text} {metadata : Json} :
    db.recordEvent (withoutSigning site) moment actor action
      resourceType resourceId metadata sourceIp = .error .keyringError :=
  rfl

theorem closeSession_withoutSigning (hClose : closeSession (withoutSigning site) moment sessionId
    actor reason failed db = .ok (closed, after)) :
    after = db := by
  rcases found_bind_eq_ok_iff.mp hClose with ⟨locked, _, hClose⟩
  cases hOver : isOver locked with
  | true =>
    rw [hOver, if_pos rfl, pure_eq_ok_iff] at hClose
    injection hClose with _ hAfter
    exact hAfter.symm
  | false =>
    rw [hOver, if_neg Bool.false_ne_true] at hClose
    rcases require_bind_eq_ok_iff.mp hClose with ⟨_, hClose⟩
    rcases bind_eq_ok_iff.mp hClose with ⟨recorded, hRecord, _⟩
    rw [recordEvent_withoutSigning] at hRecord
    exact absurd hRecord (by simp)

theorem commit_closeSession_withoutSigning
    (hCommit : commit (closeSession (withoutSigning site) moment sessionId actor reason failed) db =
      (result, after)) :
    after = db := by
  cases result with
  | ok closed => exact closeSession_withoutSigning (commit_eq_ok_iff.mp hCommit)
  | error failure => exact (commit_eq_error_iff.mp hCommit).2

theorem answerConsumed_withoutSigning (hAnswer :
      answerConsumed (withoutSigning site) moment request sourceIp session db = (response, after)) :
    after.sessions = db.sessions ∧ ∀ envelope, response ≠ .success envelope := by
  have hFrame :
    LeaseFrame db (openEnvelope (withoutSigning site) moment request sourceIp session db).2 :=
    openEnvelope_frame sourceIp session db
  unfold answerConsumed at hAnswer
  split at hAnswer
  · rename_i hOpen
    rcases openEnvelope_eq_ok_iff.mp hOpen with ⟨_, _, _, _, _, hIssue, _, _⟩
    rcases issueSecretLease_eq_ok_iff.mp hIssue with ⟨_, _, _, hRecord⟩
    rw [recordEvent_withoutSigning] at hRecord
    exact absurd hRecord (by simp)
  · rename_i failure opened hOpen
    rw [hOpen] at hFrame
    split at hAnswer
    · unfold closeRefused at hAnswer
      split at hAnswer
      all_goals
        rename_i hCommit
        cases hAnswer
        rw [commit_closeSession_withoutSigning hCommit]
        exact ⟨hFrame.sessions, by simp⟩
    · cases hAnswer
      exact ⟨hFrame.sessions, by simp⟩

def unavailableEnv (site : Site) : LaunchEnv where
  config := ⟨site.sharedKey, [], 15⟩
  nowMs := 0
  guacamole := fun _ => none
  nonce := []

/-
  A component whose report is not due can end without closing its session: the authorization
  raises, a response or report is lost, closing raises, or a page is closed.
-/
theorem exists_quiet_move (site : Site) (moment : Moment)
    (hQuiet : component.stage.owesReport = false) (hOpen : OpenAt sessionId db) :
    ∃ after, Move db component after none ∧ OpenAt sessionId after := by
  rcases component with ⟨id, stage⟩
  cases stage with
  | authorizing broker request sourceIp session =>
    rcases hAnswer : answerConsumed (withoutSigning site) moment request sourceIp session db with
      ⟨response, after⟩
    rcases answerConsumed_withoutSigning hAnswer with ⟨hSessions, hRefused⟩
    exact ⟨after, .refused hAnswer hRefused, (openAt_congr hSessions).mpr hOpen⟩
  | answered broker envelope => exact ⟨db, .dropped, hOpen⟩
  | bridging => exact nomatch hQuiet
  | unreported => exact nomatch hQuiet
  | launching envelope =>
    rcases @handOff_of_unavailable (unavailableEnv site)
      (fun _ => rfl) envelope with ⟨failure, hFailure⟩
    exact ⟨db, .launchReportLost hFailure, hOpen⟩
  | consuming user =>
    rcases hClose : commit (closeSession (withoutSigning site) moment id (some user)
      "gateway_not_configured" true) db with
      ⟨result, after⟩
    have hSame := commit_closeSession_withoutSigning hClose
    exact ⟨after, .consumed hClose, hSame ▸ hOpen⟩
  | page => exact ⟨db, .pageClosed, hOpen⟩

/- All components can be done with the session still open. -/
theorem exists_quiet_run (site : Site) (moment : Moment) {done pending : List Component}
    (hDone : ∀ component ∈ done, component.sessionId ≠ sessionId)
    (hQuiet : ¬ OwesReport sessionId pending) (hOpen : OpenAt sessionId db) :
    ∃ labels final, endingSystem.Run ⟨db, done ++ pending⟩ labels final ∧
        Completed sessionId final ∧ OpenAt sessionId final.db := by
  induction pending generalizing done db with
  | nil =>
    refine ⟨[], _, .nil _, ?_, hOpen⟩
    intro component hMem
    rw [append_nil] at hMem
    exact hDone component hMem
  | cons component rest ih =>
    have hRest : ¬ OwesReport sessionId rest := by
      rintro ⟨other, hMem, hOwes⟩
      exact hQuiet ⟨other, mem_cons_of_mem _ hMem, hOwes⟩
    by_cases hSame : component.sessionId = sessionId
    · have hStage : component.stage.owesReport = false := by
        rw [← Bool.not_eq_true]
        intro hOwes
        exact hQuiet ⟨component, mem_cons_self, hSame, hOwes⟩
      rcases exists_quiet_move site moment hStage hOpen with ⟨middle, hMove, hStill⟩
      rcases ih hDone hRest hStill with ⟨labels, final, hRun, hFinal⟩
      refine ⟨.moved :: labels, final, ?_, hFinal⟩
      refine .cons (EndingStep.moved hMove) ?_
      simpa using hRun
    · have hMore : ∀ other ∈ done ++ [component], other.sessionId ≠ sessionId := by
        intro other hMem
        rcases mem_append.mp hMem with hMem | hMem
        · exact hDone other hMem
        · rw [mem_singleton.mp hMem]
          exact hSame
      rcases ih hMore hRest hOpen with ⟨labels, final, hRun, hFinal⟩
      rw [append_assoc] at hRun
      exact ⟨labels, final, hRun, hFinal⟩

---- Ending A Session

section Ending

variable {message : Text} {terminated : Database}

theorem exists_open_completion (hOpen : OpenAt sessionId state.db) (hView :
    terminateSession web moment call sessionId state.db = (.redirected message, terminated))
    (hQuiet : ¬ OwesReport sessionId state.components) :
    ∃ labels final, endingSystem.Run ⟨terminated, state.components⟩ labels final ∧
      Completed sessionId final ∧ OpenAt sessionId final.db := by
  rcases terminateSession_cases hView with ⟨hNot, _⟩ | ⟨seenStatus, result, hRequest⟩
  · exact absurd rfl (hNot message)
  have hStill := openAt_of_requestSessionTermination hRequest hOpen
  exact exists_quiet_run web.toSite moment (forall_mem_nil _) hQuiet hStill

/-
  Once the termination of an open session was requested, it is over after all its components are
  done if and only if a handler of the SSH gateway had accepted its envelope and not reported yet.
-/
theorem termination_completes_iff (hOpen : OpenAt sessionId state.db) (hView :
    terminateSession web moment call sessionId state.db = (.redirected message, terminated)) :
    (∀ labels final, endingSystem.Run ⟨terminated, state.components⟩ labels final →
      Completed sessionId final → OverAt sessionId final.db) ↔
      OwesReport sessionId state.components := by
  constructor
  · intro hEnds
    by_contra hQuiet
    rcases exists_open_completion hOpen hView hQuiet with ⟨labels, final, hRun, hDone, hFinal⟩
    exact not_overAt_of_openAt hFinal (hEnds labels final hRun hDone)
  · intro hOwes labels final hRun hDone
    exact overAt_of_completed hOwes hRun hDone

end Ending

def sampleTerminate : TerminateCall where
  user := sampleUser
  isServiceAccount := false
  fullPath := "/console/sessions/"
  isHtmx := false
  clientIp := none
  isSuperuser := true
  browser := ⟨some 0, []⟩
  gatewayAccepts := true

theorem termination_completes_sample : ∃ issued opened waiting session terminated message,
    SampleRedeemed issued opened waiting session ∧
    terminateSession sampleWeb sampleMoment sampleTerminate 4 opened =
      (.redirected message, terminated) ∧
    ∀ labels final, endingSystem.Run ⟨terminated, [⟨4, .bridging⟩]⟩ labels final →
      Completed 4 final → OverAt 4 final.db := by
  have hSample : ∃ issued opened waiting session terminated message,
    SampleRedeemed issued opened waiting session ∧
    terminateSession sampleWeb sampleMoment sampleTerminate 4 opened =
      (.redirected message, terminated) :=
    ⟨_, _, _, _, _, _, ⟨rfl, rfl, rfl, rfl, rfl⟩, rfl⟩
  rcases hSample with ⟨issued, opened, waiting, session, terminated, message, hSample, hView⟩
  have hOwes : OwesReport 4 [⟨4, .bridging⟩] := ⟨_, mem_cons_self, rfl, rfl⟩
  have hIff := @termination_completes_iff sampleWeb sampleMoment
    sampleTerminate 4 ⟨opened, [⟨4, .bridging⟩]⟩ message
    terminated ⟨session, hSample.opens, hSample.isOpen⟩ hView
  exact ⟨issued, opened, waiting, session, terminated, message, hSample, hView, hIff.mpr hOwes⟩

/- The page of a terminated web session is closed; it stays in status `TERMINATING`. -/
theorem web_session_stays_open :
    ∃ session opened terminated message row, startWebSession sampleSite sampleMoment sampleOpenCall
      (protocolDatabase .web) = .ok (session, opened) ∧
      endingSystem.Reachable ⟨opened, [⟨session.id, .page⟩]⟩ ∧ OpenAt session.id opened ∧
      terminateSession sampleWeb sampleMoment sampleTerminate session.id opened =
        (.redirected message, terminated) ∧
      endingSystem.Run ⟨terminated, [⟨session.id, .page⟩]⟩ [.moved] ⟨terminated, []⟩ ∧
      Completed session.id ⟨terminated, []⟩ ∧ terminated.sessions.get session.id = some row ∧
      row.status = .terminating ∧ ¬ OverAt session.id terminated := by
  refine ⟨_, _, _, _, _, rfl, ?_, ⟨_, rfl, rfl⟩, rfl, ?_, ?_, rfl, rfl, ?_⟩
  · exact ⟨⟨protocolDatabase .web, []⟩, [.opened], ⟨rfl, rfl, rfl⟩,
      .cons (.opened (@Opening.web _ _ sampleSite sampleMoment sampleOpenCall _ rfl)) (.nil _)⟩
  · exact .cons (@EndingStep.moved _ _ [] [] _ _ Move.pageClosed) (.nil _)
  · exact forall_mem_nil _
  · exact not_overAt_of_openAt ⟨_, rfl, rfl⟩

end PamOlive.Console
