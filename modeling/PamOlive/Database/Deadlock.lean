import PamOlive.Database.Statements
import PamOlive.Sessions.Quota

/-
  Whether concurrent transactions can wait in a circle.

  Redeeming a ticket, consuming a lease and deciding a request lock with a joined read: users,
  targets, credentials and policies besides their own row, and then the audit chain. Every event
  locks the audit chain and then needs its actor. The other operations lock in one order, so a
  circle passes through a joined read.

  Main declarations:
    * `Transaction.demands`
    * `Transaction.ordered_of_not_joins`
    * `cyclic_wait_free_iff` and `not_cyclicWait_of_no_joins`
-/

---- Transactions

namespace PamOlive.Locks

open Foundations Statements Script List
open Approvals (DecideCall)
open Sessions (OpenCall newSession sessionResourceType sampleIssued sampleMoment sampleSite)

inductive Call where
  | recordEvent (actor : Option UserId) (action resourceType resourceId : Text) (metadata : Json)
    (sourceIp : Option IpText)
  | consumeSessionTicket (sessionId : Uuid) (token : Text) (user : UserId)
    (sourceIp : Option IpText)
  | consumeSecretLease (token : Text) (expectedUser : Option UserId)
    (expectedPurpose : Option LeasePurpose)
  | issueSessionTicket (call : OpenCall)
  | closeSession (sessionId : Uuid) (actor : Option UserId) (reason : Text) (failed : Bool)
  | requestSessionTermination (sessionId : Uuid) (seenStatus : SessionStatus) (actor : UserId)
  | decideAccessRequest (call : DecideCall)

def Call.demands (site : Site) (moment : Moment) : Call → Database → List (Demand Row)
| .recordEvent actor action resourceType resourceId metadata sourceIp =>
  (Statements.recordEvent site moment actor action resourceType resourceId metadata sourceIp).notes
| .consumeSessionTicket sessionId token user sourceIp =>
  (Statements.consumeSessionTicket site moment sessionId token user sourceIp).notes
| .consumeSecretLease token expectedUser expectedPurpose =>
  (Statements.consumeSecretLease site moment token expectedUser expectedPurpose).notes
| .issueSessionTicket call => (Statements.issueSessionTicket site moment call).notes
| .closeSession sessionId actor reason failed =>
  (Statements.closeSession site moment sessionId actor reason failed).notes
| .requestSessionTermination sessionId seenStatus actor =>
  (Statements.requestSessionTermination site moment sessionId seenStatus actor).notes
| .decideAccessRequest call => (Statements.decideAccessRequest site moment call).notes

/- A call, its clock, and the database it reads, which may differ between transactions. -/
structure Transaction where
  call : Call
  moment : Moment
  view : Database

def Transaction.demands (site : Site) (transaction : Transaction) : List (Demand Row) :=
  transaction.call.demands site transaction.moment transaction.view

---- The Order Of Reads Without Joins

def Call.joins : Call → Bool
| .consumeSessionTicket _ _ _ _ => true
| .consumeSecretLease _ _ _ => true
| .decideAccessRequest _ => true
| .recordEvent _ _ _ _ _ _ => false
| .issueSessionTicket _ => false
| .closeSession _ _ _ _ => false
| .requestSessionTermination _ _ _ => false

def OnlyJoined : Row → Prop
| .user _ => True
| .target _ => True
| .credential _ => True
| .accessRequest _ => True
| .lease _ => True
| .auditChain => False
| .policy _ => False
| .session _ => False
| .ticket _ => False

def lockRank : Row → ℕ
| .session _ => 0
| .ticket _ => 1
| .policy _ => 2
| .auditChain => 3
| _ => 4

variable {site : Site} {actor : Option UserId} {sessionId : Uuid} {call : OpenCall}

section Orders

variable {moment : Moment} {db : Database} {low : ℕ} {mine : List (Request Row)} {α : Type}

theorem orderly_forUpdate {row : Row} {next : Unit → Procedure α} (hRow : ¬ OnlyJoined row)
    (hLow : low ≤ lockRank row)
    (hNext : Orderly lockRank OnlyJoined (lockRank row + 1) (⟨row, .update⟩ :: mine)
      ((next ()).notes db)) :
    Orderly lockRank OnlyJoined low mine ((forUpdate [row] >>= next).notes db) := by
  refine Orderly.lock ?_ hRow hLow hNext
  intro hShare
  exact nomatch hShare

theorem orderly_references {rows : List Row} {next : Unit → Procedure α}
    (hRows : ∀ row ∈ rows, OnlyJoined row ∨ ⟨row, .update⟩ ∈ mine)
    (hNext : Orderly lockRank OnlyJoined low mine ((next ()).notes db)) :
    Orderly lockRank OnlyJoined low mine ((references rows >>= next).notes db) := by
  refine Orderly.refer ?_ hNext
  intro request hRequest
  rcases mem_map.mp hRequest with ⟨row, hRow, rfl⟩
  exact ⟨fun hWrites => hWrites rfl, hRows row hRow⟩

theorem orderly_recordEvent
    {action resourceType resourceId : Text} {metadata : Json} {sourceIp : Option IpText}
    (hLow : low ≤ 3) :
    Orderly lockRank OnlyJoined low mine ((recordEvent site moment actor action resourceType
      resourceId metadata sourceIp).notes db) := by
  refine orderly_forUpdate (fun hJoined => hJoined) hLow ?_
  unfold notes
  dsimp only
  split
  · exact .nil
  · refine @orderly_references _ _ _ _ (actor.toList.map .user) (fun _ => pure ()) ?_ .nil
    intro row hRow
    rcases mem_map.mp hRow with ⟨id, _, rfl⟩
    exact .inl trivial

theorem orderly_closeSession {reason : Text} {failed : Bool} : Orderly lockRank OnlyJoined 0 []
    ((closeSession site moment sessionId actor reason failed).notes db) := by
  refine notes_check_bind .nil ?_
  intro locked _
  refine orderly_forUpdate (fun hJoined => hJoined) (Nat.le_refl 0) ?_
  split
  · exact .nil
  · refine notes_check_bind .nil ?_
    intro _ _
    refine notes_write_bind .nil ?_
    intro after _
    rw [notes_bind_pure]
    exact orderly_recordEvent (Nat.le_add_left 1 2)

theorem orderly_revokeTickets {next : Unit → Procedure α} (hNext : ∀ low mine after, low ≤ 3 →
      Orderly lockRank OnlyJoined low mine ((next ()).notes after)) :
    Orderly lockRank OnlyJoined 1 mine ((revokeTickets moment sessionId db >>= next).notes db) := by
  unfold revokeTickets ticketDemand
  split
  · refine Orderly.lock ?_ (fun hJoined => hJoined) (Nat.le_refl 1) ?_
    · intro hShare
      cases hShare
    · exact hNext 2 _ _ (Nat.le_add_left 2 1)
  · exact hNext 1 _ _ (Nat.le_add_left 1 2)

theorem orderly_terminate
    {actor : UserId} {resourceId : Text} {metadata : Json} {result : PrivilegedSession × Bool}
    {change : Database → Except Failure Database}
    (hLow : low ≤ 3) :
    Orderly lockRank OnlyJoined low mine ((do
      .write .privilegedSession change
      references [.user actor]
      recordEvent site moment (some actor) "session.termination_requested" sessionResourceType
        resourceId metadata none
      return result : Procedure (PrivilegedSession × Bool)).notes db) := by
  refine notes_write_bind .nil ?_
  intro after _
  refine orderly_references ?_ ?_
  · intro row hRow
    rw [mem_singleton] at hRow
    subst hRow
    exact .inl trivial
  · rw [notes_bind_pure]
    exact orderly_recordEvent hLow

theorem orderly_requestSessionTermination {seenStatus : SessionStatus} {actor : UserId} :
    Orderly lockRank OnlyJoined 0 []
      ((requestSessionTermination site moment sessionId seenStatus actor).notes db) := by
  refine notes_check_bind .nil ?_
  intro locked _
  refine orderly_forUpdate (fun hJoined => hJoined) (Nat.le_refl 0) ?_
  split
  · exact .nil
  · split
    · refine orderly_revokeTickets ?_
      intro low mine after hLow
      exact orderly_terminate hLow
    · exact orderly_terminate (Nat.le_add_left 1 2)

theorem orderly_reservePlace {refusal : Failure} {credential : Credential} {target : Target}
    {next : AccessPolicy × Option AccessRequest × Nat → Procedure α}
    (hNext :
      ∀ policy accessRequest duration, Orderly lockRank OnlyJoined 3 [⟨.policy policy.id, .update⟩]
        ((next (policy, accessRequest, duration)).notes db)) :
    Orderly lockRank OnlyJoined 0 []
      ((reservePlace site moment call refusal credential target >>= next).notes db) := by
  unfold reservePlace
  simp only [Script.bind_assoc]
  refine notes_check_bind .nil ?_
  rintro ⟨authorizing, accessRequest⟩ _
  refine notes_check_bind .nil ?_
  intro policy _
  refine orderly_forUpdate (fun hJoined => hJoined) (Nat.zero_le 2) ?_
  refine notes_check_bind .nil ?_
  intro _ _
  exact hNext policy accessRequest _

theorem notes_ensurePolicy_bind (next : Unit → Procedure α) :
    (ensurePolicy >>= next).notes db = (next ()).notes (ensured db) := by
  rcases db with ⟨_, _, _, _, _, _, window, _, _, _, _, _, _, _, _, _, _⟩
  cases window with
  | none => rfl
  | some minutes => rfl

theorem orderly_issueSessionTicket :
    Orderly lockRank OnlyJoined 0 [] ((issueSessionTicket site moment call).notes db) := by
  refine notes_check_bind .nil ?_
  intro justification _
  refine notes_check_bind .nil ?_
  intro credential _
  refine notes_check_bind .nil ?_
  intro target _
  refine notes_check_bind .nil ?_
  intro _ _
  rw [notes_ensurePolicy_bind]
  refine orderly_reservePlace ?_
  intro policy accessRequest duration
  refine notes_write_bind .nil ?_
  intro withSession _
  refine orderly_references ?_ ?_
  · -- the new session refers to the policy that is locked
    intro row hRow
    simp only [sessionReferences, newSession, Option.toList_some, map_cons, map_nil,
      mem_cons, mem_append, not_mem_nil, or_false] at hRow
    rcases hRow with rfl | rfl | (rfl | rfl) | hRequest
    · exact .inl trivial
    · exact .inl trivial
    · exact .inl trivial
    · exact .inr mem_cons_self
    · rcases mem_map.mp hRequest with ⟨id, _, rfl⟩
      exact .inl trivial
  · refine notes_write_bind .nil ?_
    intro withTicket _
    rw [notes_bind_pure]
    exact orderly_recordEvent (Nat.le_refl 3)

theorem Transaction.ordered_of_not_joins {transaction : Transaction} {program : List (Request Row)}
    (hJoins : ¬ transaction.call.joins = true)
    (hArranged : Arranged (transaction.demands site) [] program) :
    Ordered lockRank OnlyJoined program := by
  rcases transaction with ⟨call, moment, db⟩
  cases call with
  | recordEvent => exact (orderly_recordEvent (Nat.zero_le 3)).ordered hArranged
  | issueSessionTicket => exact orderly_issueSessionTicket.ordered hArranged
  | closeSession => exact orderly_closeSession.ordered hArranged
  | requestSessionTermination => exact orderly_requestSessionTermination.ordered hArranged
  | consumeSessionTicket => exact absurd rfl hJoins
  | consumeSecretLease => exact absurd rfl hJoins
  | decideAccessRequest => exact absurd rfl hJoins

end Orders

---- Circles

/- Concurrent transactions, each with the order in which its locks come. -/
structure Execution (site : Site) {count : ℕ} (transactions : Fin count → Transaction) where
  programs : Fin count → List (Request Row)
  arranged : ∀ i, Arranged ((transactions i).demands site) [] (programs i)

section Circles

variable {count : ℕ} {transactions : Fin count → Transaction}

theorem Execution.exists_joins_of_cyclicWait
    (execution : Execution site transactions) {placement : Placement execution.programs}
    (hCircle : CyclicWait execution.programs placement.toPositions) :
    ∃ i, (transactions i).call.joins = true ∧
      Relation.TransGen (WaitsFor execution.programs placement.toPositions) i i := by
  rcases hCircle with ⟨first, hCircle⟩
  rcases exists_outside_or_within (fun i => ¬ (transactions i).call.joins = true) hCircle with
    ⟨i, hJoins, hThrough⟩ | hWithin
  · exact ⟨i, not_not.mp hJoins, hThrough⟩
  · have hOrdered : ∀ i, ¬ (transactions i).call.joins = true →
    Ordered lockRank OnlyJoined (execution.programs i) :=
    fun i hJoins =>
      Transaction.ordered_of_not_joins hJoins (execution.arranged i)
    exact absurd hWithin (not_circle_of_ordered placement.compatible hOrdered)

/- Without joined reads no circle of waiting transactions is reached. -/
theorem not_cyclicWait_of_no_joins (execution : Execution site transactions)
    (hJoins : ∀ i, (transactions i).call.joins = false)
    {positions : Positions (Fin count)}
    (hReachable : (lockSystem execution.programs).Reachable positions) :
    ¬ CyclicWait execution.programs positions := by
  intro hCircle
  rcases cyclicWait_reachable_iff.mp ⟨positions, hReachable, hCircle⟩ with ⟨placement, hPlaced⟩
  rcases execution.exists_joins_of_cyclicWait hPlaced with ⟨i, hTrue, _⟩
  rw [hJoins i] at hTrue
  exact nomatch hTrue

/-
  No circle of waiting transactions is reached exactly if no joined read waits for itself in any
  placement.
-/
theorem cyclic_wait_free_iff (execution : Execution site transactions) :
    (∀ positions, (lockSystem execution.programs).Reachable positions →
      ¬ CyclicWait execution.programs positions) ↔
      ¬ ∃ (placement : Placement execution.programs) (i : Fin count),
        (transactions i).call.joins = true ∧
          Relation.TransGen (WaitsFor execution.programs placement.toPositions) i i := by
  constructor
  · rintro hFree ⟨placement, i, _, hCircle⟩
    exact hFree placement.toPositions placement.reachable ⟨i, hCircle⟩
  · intro hNone positions hReachable hCircle
    rcases cyclicWait_reachable_iff.mp ⟨positions, hReachable, hCircle⟩ with ⟨placement, hPlaced⟩
    exact hNone ⟨placement, execution.exists_joins_of_cyclicWait hPlaced⟩

end Circles

---- An Event And A Ticket

open Audit

/- Key shares at the commit, as deferred constraints do. -/
def Execution.deferred (site : Site) {count : ℕ} (transactions : Fin count → Transaction) :
    Execution site transactions where
  programs i := commitOrder ((transactions i).demands site) []
  arranged i := commitOrder_arranged ((transactions i).demands site) []

/- A user changes preferences and redeems a ticket at the same time. -/
def sampleTransactions (db : Database) : Fin 2 → Transaction
| 0 =>
  { call :=
    .recordEvent (some sampleUser) "account.preferences_updated" "accounts.user" "1" .null none
    moment := sampleMoment
    view := db }
| 1 =>
  { call :=
    .consumeSessionTicket 4 "ticket" sampleUser none
    moment := sampleMoment
    view := db }

/-
  The event holds the audit chain and needs its actor, whom the ticket has locked; the ticket needs
  the audit chain.
-/
theorem event_and_ticket_wait_in_circle : ∃ db, sampleIssued = .ok db ∧ ∃ positions, (lockSystem
    (Execution.deferred sampleSite (sampleTransactions db)).programs).Reachable
    positions ∧ CyclicWait (Execution.deferred sampleSite (sampleTransactions db)).programs
      positions := by
  have hIssued : ∃ db, sampleIssued = .ok db := ⟨_, rfl⟩
  rcases hIssued with ⟨db, hIssued⟩
  refine ⟨db, hIssued, ?_⟩
  apply cyclicWait_reachable_iff.mpr
  have hCrossed : Crossed (Execution.deferred sampleSite (sampleTransactions db)).programs 0 1
    [⟨.auditChain, .update⟩]
    [⟨.ticket 4, .update⟩, ⟨.session 4, .update⟩, ⟨.user sampleUser, .update⟩, ⟨.target 1, .update⟩,
      ⟨.policy 3, .update⟩] := by
    cases hIssued
    refine ⟨?_, ?_, ?_, ?_⟩
    · decide
    · decide
    · exact ⟨⟨.user sampleUser, .keyShare⟩, _, rfl, ⟨.user sampleUser, .update⟩, by simp, rfl, rfl⟩
    · exact ⟨⟨.auditChain, .update⟩, _, rfl, ⟨.auditChain, .update⟩, by simp, rfl, rfl⟩
  exact hCrossed.exists_placement

end PamOlive.Locks
