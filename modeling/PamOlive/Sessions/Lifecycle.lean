import Mathlib.Logic.Relation
import PamOlive.Sessions.Quota

/-
  The life of a session.

  What a transaction can do to a session and its ticket is said once, by `RowChange`; all
  statements about runs follow from it. The rest of the database may be edited in between, and
  clocks need not agree.
-/

---- Status Order

namespace PamOlive.Sessions

open Foundations Table

/- The arrows from created to closed or failed. -/
inductive NextStatus : SessionStatus → SessionStatus → Prop
  | activate : NextStatus .created .active
  | terminate : NextStatus .active .terminating
  | close : NextStatus .terminating .closed
  | fail : NextStatus .terminating .failed

/- Forward along the arrows, or not at all. -/
abbrev Advances : SessionStatus → SessionStatus → Prop := Relation.ReflTransGen NextStatus

theorem advances_active_terminating : Advances .active .terminating := .single .terminate

theorem advances_created_terminating : Advances .created .terminating :=
  .head .activate advances_active_terminating

variable {status : SessionStatus}

theorem advances_ended (failed : Bool) (hClosed : status ≠ .closed)
    (hFailed : status ≠ .failed) : Advances status (if failed then .failed else .closed) := by
  have hEnd : NextStatus .terminating (if failed then .failed else .closed) := by
    cases failed with
    | true => exact .fail
    | false => exact .close
  cases status with
  | created => exact advances_created_terminating.tail hEnd
  | active => exact advances_active_terminating.tail hEnd
  | terminating => exact .single hEnd
  | closed => exact absurd rfl hClosed
  | failed => exact absurd rfl hFailed

---- Changes Of A Session And Its Ticket

/- What a transaction does to the session and the ticket with one key. -/
inductive RowChange (now : Int) : Option PrivilegedSession → Option SessionTicket →
      Option PrivilegedSession → Option SessionTicket → Prop
  | same {session : Option PrivilegedSession} {ticket : Option SessionTicket} :
    RowChange now session ticket session ticket
  | issued {session : PrivilegedSession} {ticket : SessionTicket}
    (hStatus : session.status = .created)
    (hStarted : session.startedAt = none)
    (hEnded : session.endedAt = none) :
    RowChange now none none (some session) (some ticket)
  | webOpened {session : PrivilegedSession} {ticket : Option SessionTicket}
    (hStatus : session.status = .active)
    (hStarted : session.startedAt = some now)
    (hEnded : session.endedAt = none) :
    RowChange now none ticket (some session) ticket
  | redeemed {session : PrivilegedSession} {ticket : SessionTicket}
    (hLive : isLive now ticket = true)
    (hCreated : session.status = .created) :
    RowChange now (some session) (some ticket) (some (openedSession now session))
      (some (consumedTicket now ticket))
  | ended {session : PrivilegedSession} {ticket : Option SessionTicket} (reason : Text)
    (failed : Bool)
    (hOpen : isOver session = false) :
    RowChange now (some session) ticket (some (endedSession now reason failed session)) ticket
  | revoked {session : PrivilegedSession} {ticket : Option SessionTicket} (actor : UserId)
    (hCreated : session.status = .created) :
    RowChange now (some session) ticket (some (terminatedSession now actor session))
      (ticket.map (revokeTicket now))
  | terminated {session : PrivilegedSession} {ticket : Option SessionTicket} (actor : UserId)
    (hStarted : session.status = .active ∨ session.status = .terminating) :
    RowChange now (some session) ticket (some (terminatedSession now actor session)) ticket

variable {site : Site} {moment : Moment} {db after : Database} {call : OpenCall}
variable {session opened : PrivilegedSession} {ticket : SessionTicket} {token : Text}
variable {user actor : UserId} {sourceIp : Option IpText} {id : Uuid} {now : Int}

section Transactions

def RowChanges (now : Int) (db after : Database) : Prop :=
  ∀ id, RowChange now (db.sessions.get id) (db.tickets.get id) (after.sessions.get id)
    (after.tickets.get id)

theorem rowChange_of_issueSessionTicket
    (hIssue : issueSessionTicket site moment call db = .ok ((session, ticket), after)) :
    RowChanges moment.now db after := by
  intro id
  rcases issueSessionTicket_eq_ok hIssue with ⟨credential, _, policy, _, hIssued⟩
  have hTickets := (insertTicket_eq_ok_iff.mp hIssued.hasTickets).2
  have hSession := hIssued.hasSession
  have hKey : session.id = ticket.sessionId := by
    rw [hSession, hIssued.hasTicket]
    rfl
  by_cases hSame : id = session.id
  · subst hSame
    have hNew := insert_eq_some_iff.mp hIssued.hasSessions
    have hNew' := insert_eq_some_iff.mp hTickets
    rw [get_eq_none_iff.mpr hNew.1, get_insert_self hIssued.hasSessions, hKey,
      get_eq_none_iff.mpr hNew'.1, get_insert_self hTickets]
    apply RowChange.issued
    all_goals
      rw [hSession]
      rfl
  · rw [get_insert_of_ne hIssued.hasSessions hSame, get_insert_of_ne hTickets (hKey ▸ hSame)]
    exact .same

theorem rowChange_of_startWebSession
    (hStart : startWebSession site moment call db = .ok (session, after)) :
    RowChanges moment.now db after := by
  intro id
  rcases startWebSession_eq_ok hStart with
    ⟨_, credential, _, policy, _, sessions, _, _, _, hSession, hSessions, rfl⟩
  by_cases hSame : id = session.id
  · subst hSame
    have hNew := insert_eq_some_iff.mp hSessions
    rw [get_eq_none_iff.mpr hNew.1, get_insert_self hSessions]
    apply RowChange.webOpened
    all_goals
      rw [hSession]
      rfl
  · rw [get_insert_of_ne hSessions hSame]
    exact .same

variable {sessionId : Uuid}

theorem rowChange_of_consumeSessionTicket (hConsume :
    consumeSessionTicket site moment sessionId token user sourceIp db = .ok (opened, after)) :
    RowChanges moment.now db after := by
  intro id
  rcases redeemed_of_consumeSessionTicket hConsume with
    ⟨ticket, session, _, hTicket, hLive, hSession, hCreated, _, rfl⟩
  by_cases hSame : id = sessionId
  · subst hSame
    rw [redeemed_sessions_get_self hSession, redeemed_tickets_get_self hTicket, hSession, hTicket]
    exact .redeemed hLive hCreated
  · rw [redeemed_tickets_get_of_ne hSame]
    unfold redeemed
    rw [get_modify_of_ne hSame]
    exact .same

theorem rowChange_of_closeSession
    {actor : Option UserId} {reason : Text} {failed : Bool} {closed : PrivilegedSession}
    (hClose : closeSession site moment sessionId actor reason failed db = .ok (closed, after)) :
    RowChanges moment.now db after := by
  intro id
  rcases closeSession_eq_ok hClose with ⟨locked, hLocked, ⟨_, rfl⟩ | ⟨_, hOpen, rfl⟩⟩
  · exact .same
  · by_cases hSame : id = sessionId
    · subst hSame
      rw [get_modify_self hLocked, hLocked]
      exact .ended reason failed hOpen
    · rw [get_modify_of_ne hSame]
      exact .same

theorem status_of_not_isOver (hOpen : isOver session = false) :
    session.status = .created ∨ session.status = .active ∨ session.status = .terminating := by
  unfold isOver at hOpen
  cases hStatus : session.status with
  | created => simp
  | active => simp
  | terminating => simp
  | closed => simp [hStatus] at hOpen
  | failed => simp [hStatus] at hOpen

theorem get_modify_map {tickets : Table SessionTicket.sessionId} :
    (tickets.modify id (revokeTicket now)
      (revokeTicket_sessionId now)).get id = (tickets.get id).map (revokeTicket now) := by
  cases hGet : tickets.get id with
  | none =>
    rw [get_eq_none_iff] at hGet
    apply get_eq_none_iff.mpr
    rw [map_key_modify]
    exact hGet
  | some ticket => exact get_modify_self hGet

theorem rowChange_of_requestSessionTermination
    {seenStatus : SessionStatus} {result : PrivilegedSession × Bool}
    (hRequest :
      requestSessionTermination site moment sessionId seenStatus actor db = .ok (result, after)) :
    RowChanges moment.now db after := by
  intro id
  rcases requestSessionTermination_eq_ok hRequest with ⟨locked, hLocked, ⟨_, rfl⟩ | ⟨_, hOpen, rfl⟩⟩
  · exact .same
  by_cases hSame : id = sessionId
  · subst hSame
    rw [get_modify_self hLocked, hLocked]
    rcases status_of_not_isOver hOpen with hCreated | hStarted
    · rw [if_pos hCreated, get_modify_map]
      exact .revoked actor hCreated
    · have hNot : locked.status ≠ .created := by
        rcases hStarted with hActive | hTerminating
        · simp [hActive]
        · simp [hTerminating]
      rw [if_neg hNot]
      exact .terminated actor hStarted
  · rw [get_modify_of_ne hSame]
    split
    · rw [get_modify_of_ne hSame]
      exact .same
    · exact .same

theorem rowChange_of_perform {call : SessionCall}
    (hPerform : perform site moment call db = .ok after) :
    RowChanges moment.now db after := by
  cases call with
  | issueSessionTicket call =>
    rcases map_eq_ok_iff.mp hPerform with ⟨_, hIssue, rfl⟩
    exact rowChange_of_issueSessionTicket hIssue
  | startWebSession call =>
    rcases map_eq_ok_iff.mp hPerform with ⟨_, hStart, rfl⟩
    exact rowChange_of_startWebSession hStart
  | consumeSessionTicket sessionId token user sourceIp =>
    rcases map_eq_ok_iff.mp hPerform with ⟨_, hConsume, rfl⟩
    exact rowChange_of_consumeSessionTicket hConsume
  | closeSession sessionId actor reason failed =>
    rcases map_eq_ok_iff.mp hPerform with ⟨_, hClose, rfl⟩
    exact rowChange_of_closeSession hClose
  | requestSessionTermination sessionId seen actor =>
    rcases map_eq_ok_iff.mp hPerform with ⟨_, hRequest, rfl⟩
    exact rowChange_of_requestSessionTermination hRequest

end Transactions

def lifecycleSystem : TransitionSystem Database SessionLabel where
  init := fun db =>
    db.sessions.rows = [] ∧ db.tickets.rows = []
  step := SessionStep

theorem rowChange_of_step {label : SessionLabel} (hStep : SessionStep db label after) (id : Uuid) :
    ∃ now, RowChange now (db.sessions.get id) (db.tickets.get id) (after.sessions.get id)
      (after.tickets.get id) := by
  cases hStep with
  | committed hPerform => exact ⟨_, rowChange_of_perform hPerform id⟩
  | refused _ => exact ⟨0, .same⟩
  | edited hSessions hTickets =>
    rw [hSessions, hTickets]
    exact ⟨0, .same⟩

---- What Changes Preserve

section Changes

variable {session' : PrivilegedSession} {rows rows' : Option PrivilegedSession}
variable {tickets tickets' : Option SessionTicket}

/- When the two instants of a session are set. -/
structure RowsValid (session : PrivilegedSession) : Prop where
  ended : session.endedAt ≠ none ↔ session.status = .closed ∨ session.status = .failed
  waiting : session.status = .created → session.startedAt = none
  started : session.status = .active ∨ session.status = .terminating → session.startedAt ≠ none

theorem not_created_of_started
    (hStarted : session.status = .active ∨ session.status = .terminating) :
    session.status ≠ .created := by
  rcases hStarted with hActive | hTerminating
  · simp [hActive]
  · simp [hTerminating]

theorem RowsValid.change (hChange : RowChange now rows tickets (some session') tickets')
    (hValid : ∀ session, rows = some session → RowsValid session) : RowsValid session' := by
  cases hChange with
  | same => exact hValid session' rfl
  | issued hStatus hStarted hEnded =>
    constructor
    · simp [hStatus, hEnded]
    · simp [hStarted]
    · simp [hStatus]
  | webOpened hStatus hStarted hEnded =>
    constructor
    · simp [hStatus, hEnded]
    · simp [hStatus]
    · simp [hStarted]
  | @redeemed session ticket _ hCreated =>
    have hEnded := (hValid session rfl).ended
    rw [hCreated] at hEnded
    constructor
    · unfold openedSession
      simpa using hEnded
    · simp [openedSession]
    · simp [openedSession]
  | ended reason failed _ =>
    constructor
    all_goals
      cases failed with
      | true => simp [endedSession]
      | false => simp [endedSession]
  | revoked actor hCreated =>
    rw [terminatedSession, if_pos hCreated]
    constructor <;> simp
  | @terminated session _ actor hStarted =>
    have hBefore := hValid session rfl
    have hEnded := hBefore.ended
    rw [terminatedSession, if_neg (not_created_of_started hStarted)]
    constructor
    · rcases hStarted with hActive | hTerminating
      · rw [hActive] at hEnded
        simpa using hEnded
      · rw [hTerminating] at hEnded
        simpa using hEnded
    · simp
    · intro _
      exact hBefore.started hStarted

theorem RowChange.forward (hChange : RowChange now (some session) tickets rows' tickets') :
    ∃ session', rows' = some session' ∧ Advances session.status session'.status ∧
      (session.startedAt ≠ none → session'.startedAt ≠ none) := by
  cases hChange with
  | same => exact ⟨session, rfl, .refl, id⟩
  | redeemed _ hCreated =>
    refine ⟨_, rfl, ?_, ?_⟩
    · rw [hCreated]
      exact .single .activate
    · simp [openedSession]
  | ended reason failed hOpen =>
    refine ⟨_, rfl, ?_, id⟩
    unfold isOver at hOpen
    simp only [decide_eq_false_iff_not, not_or] at hOpen
    exact advances_ended failed hOpen.1 hOpen.2
  | revoked actor hCreated =>
    rw [terminatedSession, if_pos hCreated]
    refine ⟨_, rfl, ?_, id⟩
    exact advances_ended false (by simp [hCreated]) (by simp [hCreated])
  | terminated actor hStarted =>
    rw [terminatedSession, if_neg (not_created_of_started hStarted)]
    refine ⟨_, rfl, ?_, id⟩
    rcases hStarted with hActive | hTerminating
    · rw [hActive]
      exact advances_active_terminating
    · rw [hTerminating]

theorem RowChange.consumed (hChange : RowChange now rows (some ticket) rows' tickets')
    (hConsumed : ticket.consumedAt ≠ none) :
    ∃ ticket', tickets' = some ticket' ∧ ticket'.consumedAt ≠ none := by
  cases hChange with
  | redeemed _ _ => exact ⟨_, rfl, by simp [consumedTicket]⟩
  | revoked actor _ =>
    refine ⟨_, rfl, ?_⟩
    unfold revokeTicket
    rw [if_neg (by simp [hConsumed])]
    exact hConsumed
  | _ => exact ⟨ticket, rfl, hConsumed⟩

theorem RowChange.active_of_started (hChange : RowChange now rows tickets (some session') tickets')
    (hBefore : ∀ session, rows = some session → session.startedAt = none)
    (hStarted : session'.startedAt ≠ none) : session'.status = .active := by
  cases hChange with
  | same => exact absurd (hBefore session' rfl) hStarted
  | issued _ hNone _ => exact absurd hNone hStarted
  | webOpened hStatus _ _ => exact hStatus
  | redeemed _ _ => rfl
  | ended _ _ _ => exact absurd (hBefore _ rfl) hStarted
  | revoked actor hCreated =>
    rw [terminatedSession, if_pos hCreated] at hStarted
    exact absurd (hBefore _ rfl) hStarted
  | terminated actor hOpen =>
    rw [terminatedSession, if_neg (not_created_of_started hOpen)] at hStarted
    exact absurd (hBefore _ rfl) hStarted

theorem RowChange.live_of_active
    (hChange : RowChange now (some session) tickets (some session') tickets')
    (hBefore : session.status ≠ .active) (hAfter : session'.status = .active) :
    session.status = .created ∧ ∃ ticket, tickets = some ticket ∧ isLive now ticket = true := by
  cases hChange with
  | same => exact absurd hAfter hBefore
  | redeemed hLive hCreated => exact ⟨hCreated, _, rfl, hLive⟩
  | ended reason failed _ =>
    cases failed with
    | true => simp [endedSession] at hAfter
    | false => simp [endedSession] at hAfter
  | revoked actor hCreated =>
    rw [terminatedSession, if_pos hCreated] at hAfter
    simp at hAfter
  | terminated actor hOpen =>
    rw [terminatedSession, if_neg (not_created_of_started hOpen)] at hAfter
    simp at hAfter

end Changes

---- Runs

section Runs

variable {start state later : Database} {labels : List SessionLabel}

def SessionValid (id : Uuid) (db : Database) : Prop :=
  ∀ session, db.sessions.get id = some session → RowsValid session

/- The session has gone forward and stayed started. -/
def HasAdvanced (id : Uuid) (session : PrivilegedSession) (db : Database) : Prop :=
  ∃ session', db.sessions.get id = some session' ∧ Advances session.status session'.status ∧
    (session.startedAt ≠ none → session'.startedAt ≠ none)

def HasStarted (id : Uuid) (db : Database) : Prop :=
  ∃ session, db.sessions.get id = some session ∧ session.startedAt ≠ none

def HasConsumed (id : Uuid) (db : Database) : Prop :=
  ∃ ticket, db.tickets.get id = some ticket ∧ ticket.consumedAt ≠ none

theorem get_of_init (hInit : lifecycleSystem.init start) : start.sessions.get id = none := by
  apply get_eq_none_iff.mpr
  rw [hInit.1]
  simp

theorem sessionValid_of_run (hInit : lifecycleSystem.init start)
    (hRun : lifecycleSystem.Run start labels state) : SessionValid id state := by
  refine hRun.invariant ?_ ?_
  · intro before label after hBefore hStep session hGet
    rcases rowChange_of_step hStep id with ⟨now, hChange⟩
    rw [hGet] at hChange
    exact RowsValid.change hChange hBefore
  · intro session hGet
    rw [get_of_init hInit] at hGet
    exact absurd hGet (by simp)

theorem hasAdvanced_of_run (hSession : state.sessions.get id = some session)
    (hRun : lifecycleSystem.Run state labels later) : HasAdvanced id session later := by
  refine hRun.invariant ?_ ?_
  · intro before label after hBefore hStep
    rcases hBefore with ⟨middle, hMiddle, hForward, hStarted⟩
    rcases rowChange_of_step hStep id with ⟨now, hChange⟩
    rw [hMiddle] at hChange
    rcases hChange.forward with ⟨session', hAfter, hNext, hKeeps⟩
    exact ⟨session', hAfter, hForward.trans hNext, fun hSome => hKeeps (hStarted hSome)⟩
  · exact ⟨session, hSession, .refl, fun hSome => hSome⟩

theorem hasConsumed_of_run (hConsumed : HasConsumed id state)
    (hRun : lifecycleSystem.Run state labels later) : HasConsumed id later := by
  refine hRun.invariant ?_ hConsumed
  intro before label after hBefore hStep
  rcases hBefore with ⟨ticket, hTicket, hStill⟩
  rcases rowChange_of_step hStep id with ⟨now, hChange⟩
  rw [hTicket] at hChange
  exact hChange.consumed hStill

theorem hasConsumed_of_consumeSessionTicket (hConsume :
      consumeSessionTicket site moment id token user sourceIp state = .ok (opened, later)) :
    HasConsumed id later := by
  rcases redeemed_of_consumeSessionTicket hConsume with ⟨ticket, _, _, hTicket, _, _, _, _, rfl⟩
  refine ⟨consumedTicket moment.now ticket, ?_, ?_⟩
  · exact redeemed_tickets_get_self hTicket
  · simp [consumedTicket]

theorem consumeSessionTicket_ne_ok_of_hasConsumed
    (hConsumed : HasConsumed id state) (result : PrivilegedSession × Database) :
    consumeSessionTicket site moment id token user sourceIp state ≠ .ok result := by
  intro hConsume
  rcases redeemed_of_consumeSessionTicket hConsume with ⟨ticket, _, _, hTicket, hLive, _⟩
  rcases hConsumed with ⟨consumed, hSame, hSet⟩
  cases Option.mem_unique hTicket hSame
  exact hSet (of_decide_eq_true hLive).2.1

theorem eq_of_advances {status' : SessionStatus} (hOver : status = .closed ∨ status = .failed)
    (hForward : Advances status status') : status' = status := by
  rcases Relation.ReflTransGen.cases_head hForward with hSame | ⟨next, hNext, _⟩
  · exact hSame.symm
  · rcases hOver with rfl | rfl <;> cases hNext

def EverActive (id : Uuid) (start : Database) (labels : List SessionLabel)
    (state : Database) : Prop :=
  ∃ first rest middle session, labels = first ++ rest ∧ lifecycleSystem.Run start first middle ∧
    lifecycleSystem.Run middle rest state ∧ middle.sessions.get id = some session ∧
    session.status = .active

theorem startedAt_iff_everActive (hInit : lifecycleSystem.init start)
    (hRun : lifecycleSystem.Run start labels state)
    (hSession : state.sessions.get id = some session) :
    session.startedAt ≠ none ↔ EverActive id start labels state := by
  constructor
  · intro hStarted
    have hNone : ¬ HasStarted id start := by
      rintro ⟨session, hGet, _⟩
      rw [get_of_init hInit] at hGet
      exact absurd hGet (by simp)
    have hSome : HasStarted id state := ⟨session, hSession, hStarted⟩
    rcases hRun.exists_step_of_change hNone hSome with
      ⟨first, label, rest, before, after, hLabels, hFirst,
        hStep, hRest, hBefore, active, hActive, hSet⟩
    rcases rowChange_of_step hStep id with ⟨now, hChange⟩
    rw [hActive] at hChange
    have hStatus : active.status = .active := by
      refine hChange.active_of_started ?_ hSet
      intro session hGet
      by_contra hSome
      exact hBefore ⟨session, hGet, hSome⟩
    refine ⟨first ++ [label], rest, after, active, ?_,
      hFirst.append (.cons hStep (.nil after)), hRest, hActive, hStatus⟩
    rw [hLabels, List.append_assoc]
    rfl
  · rintro ⟨first, rest, middle, active, _, hFirst, hRest, hActive, hStatus⟩
    have hValid := sessionValid_of_run hInit hFirst active hActive
    rcases hasAdvanced_of_run hActive hRest with ⟨session', hSame, _, hKeeps⟩
    cases Option.mem_unique hSession hSame
    exact hKeeps (hValid.started (.inl hStatus))

---- The Life Of A Session

/-
  In every reachable state: a session only goes forward, and one that is over stays so; its end is
  set if and only if it is over, and its start if and only if it has been active; a ticket is
  redeemed once; and a session is activated only while its ticket is neither consumed, revoked nor
  expired.
-/
theorem session_lifecycle (hInit : lifecycleSystem.init start)
    (hRun : lifecycleSystem.Run start labels state) :
    (∀ id session, state.sessions.get id = some session →
      (∀ labels' later, lifecycleSystem.Run state labels' later →
          ∃ session', later.sessions.get id = some session' ∧
              Advances session.status session'.status ∧
              (session.status = .closed ∨ session.status = .failed →
                session'.status = session.status)) ∧
        (session.endedAt ≠ none ↔ session.status = .closed ∨ session.status = .failed) ∧
        (session.startedAt ≠ none ↔ EverActive id start labels state)) ∧
    (∀ site moment id token user sourceIp opened after labels' later,
      consumeSessionTicket site moment id token user sourceIp state = .ok (opened, after) →
        lifecycleSystem.Run after labels' later → ∀ site' moment' token' user' sourceIp' result,
          consumeSessionTicket site' moment' id token' user' sourceIp' later ≠ .ok result) ∧
    ∀ site moment call after id session session', perform site moment call state = .ok after →
        state.sessions.get id = some session → after.sessions.get id = some session' →
        session.status ≠ .active → session'.status = .active → session.status = .created ∧
            ∃ ticket, state.tickets.get id = some ticket ∧ moment.now < ticket.expiresAt ∧
                ticket.consumedAt = none ∧ ticket.revokedAt = none := by
  refine ⟨?_, ?_, ?_⟩
  · intro id session hSession
    have hValid := sessionValid_of_run hInit hRun session hSession
    refine ⟨?_, hValid.ended, startedAt_iff_everActive hInit hRun hSession⟩
    intro labels' later hLater
    rcases hasAdvanced_of_run hSession hLater with ⟨session', hGet, hForward, _⟩
    exact ⟨session', hGet, hForward, fun hOver => eq_of_advances hOver hForward⟩
  · intro site moment id token user sourceIp opened after
      labels' later hConsume hLater site' moment' token'
      user' sourceIp' result
    apply consumeSessionTicket_ne_ok_of_hasConsumed
    exact hasConsumed_of_run (hasConsumed_of_consumeSessionTicket hConsume) hLater
  · intro site moment call after id session session' hPerform hSession hAfter hBefore hActive
    have hChange := rowChange_of_perform hPerform id
    rw [hSession, hAfter] at hChange
    rcases hChange.live_of_active hBefore hActive with ⟨hCreated, ticket, hTicket, hLive⟩
    exact ⟨hCreated, ticket, hTicket, of_decide_eq_true hLive⟩

end Runs

/- The first ticket of the sample installation is redeemed and its session closed. -/
theorem session_lifecycle_sample : ∃ issued opened closed session, sampleIssued = .ok issued ∧
    perform sampleSite sampleMoment sampleRedemption issued = .ok opened ∧
    perform sampleSite sampleMoment (.closeSession 4 none [] false) opened = .ok closed ∧
    closed.sessions.get 4 = some session ∧
    (session.endedAt ≠ none ↔ session.status = .closed ∨ session.status = .failed) ∧
    session.status = .closed ∧ session.startedAt ≠ none := by
  refine ⟨_, _, _, _, rfl, rfl, rfl, rfl, ?_, rfl, Option.some_ne_none 0⟩
  have hRun : lifecycleSystem.Run (sampleDatabase sampleCredential samplePolicies)
    [.call sampleSite sampleMoment (.issueSessionTicket sampleOpenCall),
      .call sampleSite sampleMoment sampleRedemption,
      .call sampleSite sampleMoment (.closeSession 4 none [] false)] _ :=
    .cons (.committed rfl) (.cons (.committed rfl) (.cons (.committed rfl) (.nil _)))
  exact ((session_lifecycle ⟨rfl, rfl⟩ hRun).1 4 _ rfl).2.1

---- The Terms Of A Session

/- A session without its progress: user, target, credential, policy, request, address and expiry. -/
def termsOf (session : PrivilegedSession) : PrivilegedSession :=
  { session with
    status := .created
    startedAt := none
    endedAt := none
    lastActivityAt := none
    recordingReference := []
    terminationReason := []
    terminationRequestedAt := none
    terminationRequestedBy := none
    updatedAt := 0 }

theorem termsOf_terminatedSession (now : Int) (actor : UserId) :
    termsOf (terminatedSession now actor session) = termsOf session := by
  unfold terminatedSession
  split <;> rfl

theorem RowChange.terms {rows' : Option PrivilegedSession}
    {tickets tickets' : Option SessionTicket}
    (hChange : RowChange now (some session) tickets rows' tickets') :
    ∃ session', rows' = some session' ∧ termsOf session' = termsOf session := by
  cases hChange with
  | revoked actor _ => exact ⟨_, rfl, termsOf_terminatedSession now actor⟩
  | terminated actor _ => exact ⟨_, rfl, termsOf_terminatedSession now actor⟩
  | _ => exact ⟨_, rfl, rfl⟩

/- The session still exists, under the same terms. -/
def HasTerms (id : Uuid) (session : PrivilegedSession) (db : Database) : Prop :=
  ∃ session', db.sessions.get id = some session' ∧ termsOf session' = termsOf session

theorem HasTerms.step {before after : Database} {label : SessionLabel}
    (hTerms : HasTerms id session before)
    (hStep : SessionStep before label after) : HasTerms id session after := by
  rcases hTerms with ⟨middle, hMiddle, hTerms⟩
  rcases rowChange_of_step hStep id with ⟨now, hChange⟩
  rw [hMiddle] at hChange
  rcases hChange.terms with ⟨session', hAfter, hSame⟩
  exact ⟨session', hAfter, hSame.trans hTerms⟩

/- No transaction moves a session to another user or target, and none prolongs it. -/
theorem session_terms_fixed {state later : Database} {labels : List SessionLabel}
    (hSession : state.sessions.get id = some session)
    (hRun : lifecycleSystem.Run state labels later) : HasTerms id session later := by
  refine hRun.invariant ?_ ⟨session, hSession, rfl⟩
  intro before label after hBefore hStep
  exact hBefore.step hStep

theorem session_terms_fixed_sample : ∃ issued redeemed waiting session,
    SampleRedeemed issued redeemed waiting session ∧ HasTerms 4 waiting redeemed := by
  have hSample : ∃ issued redeemed waiting session,
    SampleRedeemed issued redeemed waiting session := ⟨_, _, _, _, ⟨rfl, rfl, rfl, rfl, rfl⟩⟩
  rcases hSample with ⟨issued, redeemed, waiting, session, hSample⟩
  refine ⟨issued, redeemed, waiting, session, hSample, ?_⟩
  exact session_terms_fixed hSample.waits (.cons (SessionStep.committed hSample.redeems) (.nil _))

end PamOlive.Sessions
