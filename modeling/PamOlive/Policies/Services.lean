import PamOlive.Database.Models

/-
  Which access policies apply.

  A policy applies to a user through enabled groups while its validity period, its time frames or
  its own schedule, and its source networks admit the request. Queries keep the table order.
-/

---- Users And Sources

namespace PamOlive.Policies

open Foundations

def policiesForUser (user : UserId) (db : Database) : List AccessPolicy :=
  db.policies.rows.filter (fun policy =>
      policy.enabled && policy.userGroups.any
        (fun group => group.enabled && group.users.contains user))

/- `address in network`. -/
def IpNetwork.contains (network : IpNetwork) (address : IpAddress) : Bool :=
  network.version == address.version &&
    network.value / 2 ^ network.hostBits == address.value / 2 ^ network.hostBits

def sourceIsAllowed (site : Site) (policy : AccessPolicy) (sourceIp : Option IpText) : Bool :=
  if policy.sourceCidrs = [] then true
  else
    match sourceIp with
    | none => false
    | some source =>
      match site.parseAddress source.1, policy.sourceCidrs.mapM site.parseNetwork with
      | some address, some networks =>
        networks.any (fun network => IpNetwork.contains network address)
      | _, _ => false

---- Schedules

def clockIsCurrent (current : Nat) : Option Nat → Option Nat → Bool
| some start, some finish =>
  if start ≤ finish then decide (start ≤ current ∧ current < finish)
  else decide (current ≥ start ∨ current < finish)
| some start, none => decide (current ≥ start)
| none, some finish => decide (current < finish)
| none, none => true

def isValidAt (validFrom validUntil : Option Int) (instant : Int) : Bool :=
  validFrom.all (fun first => decide (first ≤ instant)) &&
    validUntil.all (fun last => decide (instant < last))

/- No weekday listed, or the right one. -/
def weekdayIsCurrent (weekdays : List Nat) (weekday : Nat) : Bool :=
  weekdays.isEmpty || weekdays.contains weekday

/- The dates of a frame are compared by the local clock, which repeats an hour in autumn. -/
def timeFrameIsCurrent (site : Site) (frame : TimeFrame) (instant : Int) : Bool :=
  let wallClock := fun instant => (site.localTime instant).wallClock
  isValidAt (frame.validFrom.map wallClock) (frame.validUntil.map wallClock) (wallClock instant) &&
    weekdayIsCurrent frame.weekdays (site.localTime instant).weekday &&
    clockIsCurrent (site.localTime instant).time frame.startTime frame.endTime

def legacyScheduleIsCurrent (site : Site) (policy : AccessPolicy) (instant : Int) : Bool :=
  weekdayIsCurrent policy.weekdays (site.localTime instant).weekday &&
    clockIsCurrent (site.localTime instant).time policy.accessStartTime policy.accessEndTime

/- Enabled time frames replace the schedule of the policy itself. -/
def scheduleIsCurrent (site : Site) (policy : AccessPolicy) (instant : Int) : Bool :=
  let frames := policy.timeFrames.filter (fun f => f.enabled)
  if frames.isEmpty then legacyScheduleIsCurrent site policy instant
  else frames.any (fun frame => timeFrameIsCurrent site frame instant)

def policyIsCurrent (site : Site) (policy : AccessPolicy) (instant : Int)
    (sourceIp : Option IpText) : Bool :=
  isValidAt policy.validFrom policy.validUntil instant && scheduleIsCurrent site policy instant &&
    sourceIsAllowed site policy sourceIp

def allows (policy : AccessPolicy) (action : Action) : Bool := policy.actions.contains action

def policiesAllowing (site : Site) (user : UserId) (action : Action) (sourceIp : Option IpText)
    (instant : Int) (db : Database) : List AccessPolicy :=
  (policiesForUser user db).filter
    (fun policy => allows policy action && policyIsCurrent site policy instant sourceIp)

section

variable (policy : AccessPolicy)

/- Directly listed, or in an enabled target group. -/
def coversTarget (targetId : Uuid) : Bool :=
  policy.targets.contains targetId || policy.targetGroups.any
    (fun group => group.enabled && group.targets.contains targetId)

def coversProtocol (protocol : Protocol) : Bool :=
  policy.protocols.isEmpty || policy.protocols.contains protocol

def policyAllowsCredential (credential : Credential) (target : Target) : Bool :=
  coversProtocol policy target.protocol &&
    (policy.credentials.isEmpty || policy.credentials.contains credential.id)

end

def credentialAllowsAction (site : Site) (user : UserId) (credential : Credential) (target : Target)
    (action : Action) (sourceIp : Option IpText) (instant : Int) (db : Database) : Bool :=
  (policiesAllowing site user action sourceIp instant db).any (fun policy =>
      coversTarget policy credential.targetId && policyAllowsCredential policy credential target)

def actionsForTarget (site : Site) (user : UserId) (target : Target) (sourceIp : Option IpText)
    (instant : Int) (db : Database) : List Action :=
  ((policiesForUser user db).filter (fun policy =>
      policyIsCurrent site policy instant sourceIp && coversProtocol policy target.protocol &&
        coversTarget policy target.id)).flatMap AccessPolicy.actions

end PamOlive.Policies
