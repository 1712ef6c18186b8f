import PamOlive.Common.Keyring
import PamOlive.Common.Values
import PamOlive.Foundations.DateTime
import Mathlib.Data.List.Sort

/-
  The audit log: writing an event and verifying the chain.

  `recordEvent` is the body of the transaction that appends one event. `verifyAuditChain` reads the
  events and then the head, without a lock; the two reads are two arguments.

  Texts of the database are encodable, so hashing cannot fail. Column widths and the uniqueness of
  hashes can only abort a transaction, which the interleaving model allows anywhere.
-/

---- Tables

namespace PamOlive

namespace Audit

open Foundations

structure AuditEvent where
  id : Uuid
  occurredAt : DateTime
  sequence : Nat
  hashVersion : Nat
  actorId : Option UserId
  action : Text
  resourceType : Text
  resourceId : Text
  sourceIp : Option IpText
  metadata : Json
  previousHash : Text
  eventHash : Text
  signature : Text

structure AuditChainState where
  lastSequence : Nat
  lastHash : Text
deriving DecidableEq

structure AuditLog where
  events : List AuditEvent
  chain : AuditChainState

def AuditLog.empty : AuditLog := ⟨[], ⟨0, []⟩⟩

/- `metadata or {}`. -/
def orEmpty (metadata : Json) : Json :=
  if metadata.truthy then metadata else .obj []

/- `str(actor_id) if actor_id else None`. -/
def actorJson : Option UserId → Json
| some actor => .str (Text.decimal actor)
| none => .null

/- `str(source_ip) if source_ip else None`. -/
def sourceIpJson : Option IpText → Json
| some address => .str address.1
| none => .null

/- The dictionary that is hashed, keys in sorted order. -/
def canonicalPayload (sequence : Nat) (occurredAt : DateTime) (actorId : Option UserId)
    (action resourceType resourceId : Text) (sourceIp : Option IpText) (metadata : Json)
    (previousHash : Text) (hashVersion : Nat) : Json :=
  .obj [("action", .str action), ("actor", actorJson actorId), ("hash_version", .int hashVersion),
    ("metadata", orEmpty metadata), ("occurred_at", .str occurredAt.isoformat),
    ("previous_hash", .str previousHash), ("resource_id", .str resourceId),
    ("resource_type", .str resourceType), ("sequence", .int sequence),
    ("source_ip", sourceIpJson sourceIp)]

def payloadHash (services : Services) (payload : Json) : Text := services.sha256 payload.canonical

def AuditEvent.payload (event : AuditEvent) : Json :=
  canonicalPayload event.sequence event.occurredAt event.actorId event.action event.resourceType
    event.resourceId event.sourceIp event.metadata
    event.previousHash event.hashVersion

/- The arguments of `record_event`, with its clock and fresh key. `metadata=None` is `Json.null`. -/
structure EventCall where
  id : Uuid
  occurredAt : DateTime
  actor : Option UserId
  action : Text
  resourceType : Text
  resourceId : Text
  sourceIp : Option IpText
  metadata : Json

section

variable (services : Services) (call : EventCall) (state : AuditChainState)

def EventCall.eventHash : Text :=
  payloadHash services (canonicalPayload (state.lastSequence + 1)
    call.occurredAt call.actor call.action call.resourceType call.resourceId call.sourceIp
    (orEmpty call.metadata) state.lastHash 2)

/- The row inserted for a call, given its signature. -/
def EventCall.event (signature : Text) : AuditEvent where
  id := call.id
  occurredAt := call.occurredAt
  sequence := state.lastSequence + 1
  hashVersion := 2
  actorId := call.actor
  action := call.action
  resourceType := call.resourceType
  resourceId := call.resourceId
  sourceIp := call.sourceIp
  metadata := orEmpty (orEmpty call.metadata)
  previousHash := state.lastHash
  eventHash := call.eventHash services state
  signature := signature

end

def AuditEvent.head (event : AuditEvent) : AuditChainState := ⟨event.sequence, event.eventHash⟩

/- `record_event`: read the head, sign, insert the row, and move the head, atomically. -/
def recordEvent (services : Services) (call : EventCall) (log : AuditLog) :
    Except KeyringError (AuditEvent × AuditLog) := do
  let signature ← services.keyring.sign (call.eventHash services log.chain)
  let event := call.event services log.chain signature
  return (event, ⟨log.events ++ [event], event.head⟩)

---- Verifying The Chain

structure AuditVerification where
  valid : Bool
  checkedEvents : Nat
  legacyEvents : Nat
  issues : List Text
  headHash : Text

/- The loop variables of `verify_audit_chain`. -/
structure Progress where
  previousHash : Text
  previousSequence : Nat
  issues : List Text
  checkedEvents : Nat
  legacyEvents : Nat

def Progress.initial : Progress := ⟨[], 0, [], 0, 0⟩

def issueAt (finding : String) (event : AuditEvent) : Text :=
  Text.ofString finding ++ " à l’événement " ++ Uuid.str event.id ++ "."

/- The issue of a head that is not the last event. -/
def headIssue : Text := "La tête de chaîne ne correspond pas au dernier événement."

/- `not event.signature or not verify(hash, signature)`. -/
def signatureInvalid (services : Services) (event : AuditEvent) : Except KeyringError Bool :=
  if event.signature = [] then return true
  else do
    let accepted ← services.keyring.verify event.eventHash event.signature
    return !accepted

/- The checks that do not depend on the hash version. -/
def linkIssues (progress : Progress) (event : AuditEvent) : List Text :=
  (if event.sequence ≠ progress.previousSequence + 1 then
    [issueAt "Séquence discontinue" event] else []) ++
  (if event.previousHash ≠ progress.previousHash then [issueAt "Chaînage invalide" event] else [])

def contentIssues (services : Services) (event : AuditEvent) : Except KeyringError (List Text) :=
  if event.hashVersion = 1 then return []
  else if event.hashVersion = 2 then do
    let hashIssues :=
      if event.eventHash ≠ payloadHash services event.payload then
        [issueAt "Empreinte invalide" event]
      else []
    let invalid ← signatureInvalid services event
    return hashIssues ++ (if invalid then [issueAt "Signature invalide" event] else [])
  else return [issueAt "Version de hash inconnue" event]

def Progress.advance (progress : Progress) (event : AuditEvent) (found : List Text) : Progress where
  previousHash := event.eventHash
  previousSequence := event.sequence
  issues := progress.issues ++ linkIssues progress event ++ found
  checkedEvents := progress.checkedEvents + 1
  legacyEvents :=
    if event.hashVersion = 1 then progress.legacyEvents + 1
    else progress.legacyEvents

def verifyEvent (services : Services) (progress : Progress) (event : AuditEvent) :
    Except KeyringError Progress := do
  let found ← contentIssues services event
  return progress.advance event found

def verifyEvents (services : Services) : Progress → List AuditEvent → Except KeyringError Progress
| progress, [] => return progress
| progress, event :: rest => do
    let next ← verifyEvent services progress event
    verifyEvents services next rest

/- `AuditEvent.objects.order_by("sequence")`. -/
def orderBySequence (events : List AuditEvent) : List AuditEvent :=
  events.insertionSort (fun event event' => event.sequence ≤ event'.sequence)

def finishVerification (progress : Progress) (state : AuditChainState) : AuditVerification :=
  let issues :=
    if state.lastSequence ≠ progress.previousSequence ∨ state.lastHash ≠ progress.previousHash then
      progress.issues ++ [headIssue]
    else progress.issues
  { valid := issues.isEmpty
    checkedEvents := progress.checkedEvents
    legacyEvents := progress.legacyEvents
    issues := issues
    headHash := progress.previousHash }

/- `verify_audit_chain`, given the scanned rows and the head read after them. -/
def verifyAuditChain (services : Services) (events : List AuditEvent) (state : AuditChainState) :
    Except KeyringError AuditVerification := do
  let progress ← verifyEvents services Progress.initial (orderBySequence events)
  return finishVerification progress state

end Audit

def sampleUser : UserId := 1

def sampleTime : Foundations.DateTime :=
  ⟨2026, 1, 1, 8, 0, 0, 0, by decide, by decide, by decide,
    by decide, by decide, by decide, by decide⟩

end PamOlive
