import PamOlive.Sessions.Quota

/-
  The limits of a browser session.

  `SessionSecurityMiddleware` keeps in the session when it started and when it was last active. A
  user whose request comes too late is logged out. Requests for the status page are checked, but
  they are no activity, and a response with a server error does not save the session.

  Main declarations:
    * `applyPolicy`, `serveAll`
    * `served_within_limits_iff`
-/

---- The Middleware

namespace PamOlive.Accounts

open Foundations Sessions List

/- `PlatformSecurityPolicy`, as far as the middleware reads it. -/
structure SessionLimits where
  idleTimeoutMinutes : Nat := 15
  absoluteSessionMinutes : Nat := 480

def SessionLimits.idleSeconds (limits : SessionLimits) : Int := limits.idleTimeoutMinutes * 60

def SessionLimits.absoluteSeconds (limits : SessionLimits) : Int :=
  limits.absoluteSessionMinutes * 60

/- The two keys of the session. -/
structure SessionClock where
  pamSessionStartedAt : Option Int
  pamLastActivityAt : Option Int

/- A request, and whether its response saves the session: Django does not for a status of 500. -/
structure Visit where
  moment : Moment
  user : UserId
  path : Text
  hxRequest : Bool
  saved : Bool

open Visit

/- `int(time.time())`. -/
def Visit.second (visit : Visit) : Int := visit.moment.now / 1000000

def passivePaths : List Text := ["/admin/status/"]

def Visit.passive (visit : Visit) : Bool := passivePaths.contains visit.path

/- What an expired session is answered. -/
inductive ExpiredResponse where
  | json (detail : Text) (status : Nat)
  | redirectToLogin (expired : Text)
deriving DecidableEq

def expiryReason (limits : SessionLimits) (visit : Visit) (clock : SessionClock) : Option Text :=
  let startedAt := clock.pamSessionStartedAt.getD visit.second
  let lastActivityAt := clock.pamLastActivityAt.getD visit.second
  if visit.second - startedAt ≥ limits.absoluteSeconds then some "absolute"
  else if visit.second - lastActivityAt ≥ limits.idleSeconds then some "idle"
  else none

def expiredResponse (visit : Visit) (reason : Text) : ExpiredResponse :=
  if (Text.ofString "/api/").isPrefixOf visit.path || visit.hxRequest then
    .json "Session expired." 401
  else .redirectToLogin reason

/- The event; the session is closed also if it is not recorded. -/
def recordExpiry (site : Site) (visit : Visit) (reason : Text) (db : Database) : Database :=
  match db.recordEvent site visit.moment (some visit.user)
    "authentication.session.expired" "accounts.user"
    (Text.decimal visit.user) (.obj [("reason", .str reason)]) none with
  | .ok after => after
  | .error _ => db

/- `_apply_policy`: a response, or the session of the view. -/
def applyPolicy (site : Site) (limits : SessionLimits) (visit : Visit) (clock : SessionClock)
    (db : Database) : Except ExpiredResponse SessionClock × Database :=
  match expiryReason limits visit clock with
  | some reason => (.error (expiredResponse visit reason), recordExpiry site visit reason db)
  | none =>
    (.ok
      { pamSessionStartedAt := some (clock.pamSessionStartedAt.getD visit.second)
        pamLastActivityAt :=
          if visit.passive then clock.pamLastActivityAt else some visit.second },
      db)

/- The requests of one session; `logout` ends it. The views leave the two keys as they are. -/
def serveAll (site : Site) (limits : SessionLimits) :
    List Visit → SessionClock → Database → Except ExpiredResponse SessionClock × Database
  | [], clock, db => (.ok clock, db)
  | visit :: visits, clock, db =>
    match applyPolicy site limits visit clock db with
    | (.ok clock', db') =>
      serveAll site limits visits (if visit.saved then clock' else clock) db'
    | (.error response, db') => (.error response, db')

def newSession : SessionClock := ⟨none, none⟩

/- Every one of the requests is served. -/
def Served (site : Site) (limits : SessionLimits) (visits : List Visit) (db : Database) : Prop :=
  ∃ clock, (serveAll site limits visits newSession db).1 = .ok clock

---- What Is Served

variable {site : Site} {limits : SessionLimits} {visit : Visit} {clock clock' : SessionClock}
variable {earlier visits : List Visit} {db : Database}

/- The last request that was an activity. -/
def lastActive (visits : List Visit) : Option Visit :=
  visits.reverse.find? (fun visit => !visit.passive)

/- The last activity that is in the session. -/
def lastSaved (visits : List Visit) : Option Visit :=
  visits.reverse.find? (fun visit => visit.saved && !visit.passive)

theorem expiryReason_eq_none_iff : expiryReason limits visit clock = none ↔
    visit.second - clock.pamSessionStartedAt.getD visit.second < limits.absoluteSeconds ∧
      visit.second - clock.pamLastActivityAt.getD visit.second < limits.idleSeconds := by
  unfold expiryReason
  dsimp only
  split_ifs with hAbsolute hIdle
  · simp only [false_iff]
    omega
  · simp only [false_iff]
    omega
  · simp only [true_iff]
    omega

theorem applyPolicy_eq_ok_iff : (applyPolicy site limits visit clock db).1 = .ok clock' ↔
    expiryReason limits visit clock = none ∧ clock' =
      ⟨some (clock.pamSessionStartedAt.getD visit.second),
        if visit.passive then clock.pamLastActivityAt else some visit.second⟩ := by
  unfold applyPolicy
  cases expiryReason limits visit clock with
  | none => simp only [Except.ok.injEq, true_and, eq_comm]
  | some _ => simp only [reduceCtorEq, false_and]

theorem serveAll_concat_eq_ok_iff (start : SessionClock) :
    (serveAll site limits (earlier ++ [visit]) start db).1 = .ok clock' ↔
      ∃ clock next, (serveAll site limits earlier start db).1 = .ok clock ∧
        (applyPolicy site limits visit clock db).1 = .ok next ∧
        clock' = if visit.saved then next else clock := by
  induction earlier generalizing start with
  | nil =>
    simp only [nil_append, serveAll, Except.ok.injEq, exists_and_left, exists_eq_left']
    unfold applyPolicy
    cases expiryReason limits visit start with
    | none =>
      simp only [Except.ok.injEq, exists_eq_left']
      exact eq_comm
    | some _ => simp
  | cons first rest ih =>
    simp only [cons_append, serveAll]
    unfold applyPolicy at ih ⊢
    cases expiryReason limits first start with
    | none => exact ih _
    | some _ => simp

theorem clock_of_serveAll (hServed : (serveAll site limits visits newSession db).1 = .ok clock) :
    clock = ⟨(visits.find? saved).map second, (lastSaved visits).map second⟩ := by
  induction visits using reverseRecOn generalizing clock with
  | nil =>
    cases hServed
    rfl
  | append_singleton earlier visit ih =>
    rcases (serveAll_concat_eq_ok_iff _).mp hServed with ⟨clock, next, hEarlier, hVisit, rfl⟩
    have hNext := (applyPolicy_eq_ok_iff.mp hVisit).2
    rw [ih hEarlier] at hNext ⊢
    unfold lastSaved at hNext ⊢
    rw [hNext, reverse_concat, find?_cons, find?_append]
    cases hSaved : visit.saved with
    | false => simp [hSaved]
    | true =>
      rw [if_pos rfl]
      congr 1
      · cases earlier.find? saved with
        | none => simp [hSaved]
        | some _ => rfl
      · cases visit.passive with
        | false => rfl
        | true => rfl

theorem served_concat_iff :
    Served site limits (earlier ++ [visit]) db ↔ Served site limits earlier db ∧
      visit.second - ((earlier.find? saved).getD visit).second < limits.absoluteSeconds ∧
      visit.second - ((lastSaved earlier).getD visit).second < limits.idleSeconds := by
  constructor
  · rintro ⟨clock', hServed⟩
    rcases (serveAll_concat_eq_ok_iff _).mp hServed with ⟨clock, next, hEarlier, hVisit, _⟩
    have hReason := (applyPolicy_eq_ok_iff.mp hVisit).1
    rw [clock_of_serveAll hEarlier, expiryReason_eq_none_iff, Option.getD_map,
      Option.getD_map] at hReason
    exact ⟨⟨clock, hEarlier⟩, hReason⟩
  · rintro ⟨⟨clock, hEarlier⟩, hLimits⟩
    refine ⟨_, (serveAll_concat_eq_ok_iff _).mpr
      ⟨clock, _, hEarlier, applyPolicy_eq_ok_iff.mpr ⟨?_, rfl⟩, rfl⟩⟩
    rw [clock_of_serveAll hEarlier, expiryReason_eq_none_iff, Option.getD_map, Option.getD_map]
    exact hLimits

---- The Limits

/- Whole seconds are compared: a later second is a second later at least. -/
theorem lt_of_second_lt {visit' : Visit} {limit : Int}
    (hLimit : visit.second - visit'.second < limit) :
    visit.moment.now < visit'.moment.now + limit * 1000000 := by
  unfold second at hLimit
  omega

/- The requests never go back in time. -/
def Forward (visits : List Visit) : Prop :=
  visits.Pairwise (fun first second => first.moment.now ≤ second.moment.now)

/- The last activity is not before the last one that is in the session. -/
theorem lastSaved_le_lastActive {kept : Visit} (hForward : Forward visits)
    (hKept : lastSaved visits = some kept) :
    ∃ active, lastActive visits = some active ∧ kept.moment.now ≤ active.moment.now := by
  induction visits using reverseRecOn with
  | nil => cases hKept
  | append_singleton earlier visit ih =>
    unfold lastSaved lastActive at *
    have hMem : kept ∈ earlier ++ [visit] := mem_reverse.mp (mem_of_find?_eq_some hKept)
    rw [reverse_concat, find?_cons] at hKept ⊢
    cases hPassive : visit.passive with
    | true =>
      rw [hPassive, Bool.not_true, Bool.and_false] at hKept
      exact ih (pairwise_append.mp hForward).1 hKept
    | false =>
      refine ⟨visit, rfl, ?_⟩
      rcases mem_append.mp hMem with hOld | hNew
      · exact (pairwise_append.mp hForward).2.2 kept hOld visit mem_cons_self
      · rw [mem_singleton.mp hNew]

def firstOf (earlier : List Visit) (visit : Visit) : Visit := earlier.head?.getD visit

/-
  A request is served exactly if it is within the limits since the first request and the last
  activity that are in the session. So it is within the absolute limit if the first request was
  saved, and within the idle limit, since the last activity, if some activity was saved.
-/
theorem served_within_limits_iff :
    (Served site limits (earlier ++ [visit]) db ↔ Served site limits earlier db ∧
        visit.second - ((earlier.find? saved).getD visit).second < limits.absoluteSeconds ∧
        visit.second - ((lastSaved earlier).getD visit).second < limits.idleSeconds) ∧
      (Served site limits (earlier ++ [visit]) db → Forward earlier →
        ((∀ first ∈ earlier.head?, first.saved = true) → visit.moment.now <
            (firstOf earlier visit).moment.now + limits.absoluteSeconds * 1000000) ∧
          ((lastSaved earlier).isSome = true → visit.moment.now <
            ((lastActive earlier).getD (firstOf earlier visit)).moment.now +
              limits.idleSeconds * 1000000)) := by
  refine ⟨served_concat_iff, ?_⟩
  intro hServed hForward
  rcases served_concat_iff.mp hServed with ⟨_, hAbsolute, hIdle⟩
  constructor
  · intro hFirst
    refine lt_of_second_lt ?_
    cases earlier with
    | nil => exact hAbsolute
    | cons first rest =>
      rw [find?_cons_of_pos (hFirst first rfl)] at hAbsolute
      exact hAbsolute
  · intro hSome
    rcases Option.isSome_iff_exists.mp hSome with ⟨kept, hKept⟩
    rcases lastSaved_le_lastActive hForward hKept with ⟨active, hActive, hLe⟩
    rw [hKept] at hIdle
    rw [hActive]
    have hLess := lt_of_second_lt hIdle
    simp only [Option.getD_some] at hLess ⊢
    omega

def sampleVisit (saved : Bool) (path : Text) (second : Nat) : Visit :=
  ⟨{ sampleMoment with now := seconds second }, sampleUser, path, false, saved⟩

def sampleLimits : SessionLimits := ⟨5, 30⟩

/- A page, a page that fails, a poll, and a page. -/
theorem served_within_limits_sample :
    let earlier := [sampleVisit true "/" 0, sampleVisit false "/" 100,
      sampleVisit true "/admin/status/" 150]
    let visit := sampleVisit true "/" 200
    Served sampleSite sampleLimits (earlier ++ [visit])
        (sampleDatabase sampleCredential samplePolicies) ∧
      visit.moment.now < (firstOf earlier visit).moment.now + seconds 1800 ∧
      visit.moment.now < ((lastActive earlier).getD visit).moment.now + seconds 300 := by
  intro earlier visit
  have hServed : Served sampleSite sampleLimits (earlier ++ [visit])
    (sampleDatabase sampleCredential samplePolicies) :=
    ⟨_, rfl⟩
  have hLimits := served_within_limits_iff.2 hServed (by unfold Forward; decide)
  exact ⟨hServed, hLimits.1 (by rintro _ ⟨⟩; rfl), hLimits.2 rfl⟩

/-
  A session that only polls is served beyond the idle limit, and one whose first request fails
  beyond both.
-/
theorem polling_never_idle :
    let poll := sampleVisit true "/admin/status/"
    let failing := sampleVisit false "/health/ready/"
    let db := sampleDatabase sampleCredential samplePolicies
    Served sampleSite sampleLimits [poll 0, poll 200, poll 400] db ∧
      lastActive [poll 0, poll 200] = none ∧
      (poll 0).moment.now + sampleLimits.idleSeconds * 1000000 ≤ (poll 400).moment.now ∧
      Served sampleSite sampleLimits [failing 0, poll 2000] db ∧
      (failing 0).moment.now + sampleLimits.absoluteSeconds * 1000000 ≤ (poll 2000).moment.now := by
  refine ⟨⟨_, rfl⟩, rfl, ?_, ⟨_, rfl⟩, ?_⟩
  · decide
  · decide

end PamOlive.Accounts
