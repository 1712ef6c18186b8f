import PamOlive.Foundations.SlidingWindow
import PamOlive.Foundations.Transition
import Mathlib.Algebra.Order.Group.Int
import Mathlib.Tactic.Abel

/-
  The rate limiter of the keyring service under threads.

  `acquire` reads the clock before it waits for the lock, so a call may be decided long after its
  instant. Between two entries there is only what is left of the window after the longest wait.
-/

---- Concurrent Calls

namespace PamOlive.KeyringService

open Foundations List Function SlidingWindow

/- A granted call: what it read, and when it had the lock. -/
structure Grant (Time : Type) where
  readAt : Time
  enteredAt : Time
deriving DecidableEq

/- The waiting calls, and the queues. The grants are a record of the run; nothing reads them. -/
structure Threads (Operation Time : Type) where
  now : Time
  waiting : List (Operation × Time)
  events : Operation → List Time
  granted : Operation → List (Grant Time)

inductive ThreadStep (Operation Time : Type) where
  | passes (time : Time)
  | readsClock (operation : Operation)
  | enters (index : Nat)

variable {Operation Time : Type} [DecidableEq Operation] [AddCommGroup Time] [LinearOrder Time]

section

variable (limits : Operation → Nat) (window : Time)

/- The critical section of a call that waited. -/
def enter (operation : Operation) (readAt : Time)
    (threads : Threads Operation Time) : Threads Operation Time :=
  let answer := SlidingWindow.acquire (limits operation) window readAt (threads.events operation)
  { threads with
    events := update threads.events operation answer.2
    granted :=
      if answer.1 then
        update threads.granted operation (threads.granted operation ++ [⟨readAt, threads.now⟩])
      else threads.granted }

/- Time passes, a thread reads the clock, or one has the lock. -/
def next (threads : Threads Operation Time) :
    ThreadStep Operation Time → Option (Threads Operation Time)
  | .passes time => if threads.now ≤ time then some { threads with now := time } else none
  | .readsClock operation =>
    some { threads with waiting := threads.waiting ++ [(operation, threads.now)] }
  | .enters index =>
    match threads.waiting[index]? with
    | none => none
    | some (operation, readAt) =>
      some (enter limits window operation readAt
        { threads with waiting := threads.waiting.eraseIdx index })

def limiterSystem : TransitionSystem (Threads Operation Time) (ThreadStep Operation Time) where
  init threads := threads.waiting = [] ∧ ∀ operation,
    threads.events operation = [] ∧ threads.granted operation = []
  step threads label after := next limits window threads label = some after

end

---- What Is Kept

/- The queue holds the last grants; the others are out of the window of every call to come. -/
structure Kept
    (limit : Nat) (window now : Time) (events : List Time) (granted : List (Grant Time)) :
    Prop where
  queue : ∃ dropped kept, granted = dropped ++ kept ∧ events = kept.map Grant.readAt ∧
    ∀ grant ∈ dropped, grant.readAt ≤ now - window
  sorted : (granted.map Grant.enteredAt).Pairwise (· ≤ ·)
  entered : ∀ grant ∈ granted, grant.enteredAt ≤ now
  spaced :
    ∀ index earlier later, granted[index]? = some earlier → granted[index + limit]? = some later →
      earlier.readAt + window ≤ later.enteredAt

variable {limits : Operation → Nat} {limit : Nat} {window now : Time} {events : List Time}
variable {granted : List (Grant Time)} {threads after : Threads Operation Time}

theorem kept_nil : Kept limit window now [] [] where
  queue := ⟨[], [], rfl, rfl, fun _ hMem => absurd hMem not_mem_nil⟩
  sorted := .nil
  entered _ hMem := absurd hMem not_mem_nil
  spaced _ _ _ hEarlier := absurd hEarlier (by simp)

variable [IsOrderedAddMonoid Time]

section

variable (hKept : Kept limit window now events granted)

include hKept

theorem Kept.later {now' : Time} (hNow : now ≤ now') : Kept limit window now' events granted where
  queue := by
    rcases hKept.queue with ⟨dropped, kept, hGranted, hEvents, hDropped⟩
    exact ⟨dropped, kept, hGranted, hEvents, fun grant hMem =>
      (hDropped grant hMem).trans (sub_le_sub_right hNow window)⟩
  sorted := hKept.sorted
  entered grant hMem := (hKept.entered grant hMem).trans hNow
  spaced := hKept.spaced

theorem Kept.recent {readAt : Time} (hRead : readAt ≤ now) :
    Kept limit window now (keptAfter (readAt - window) events) granted where
  queue := by
    rcases hKept.queue with ⟨dropped, kept, hGranted, hEvents, hDropped⟩
    let old : Grant Time → Bool := fun grant => decide (grant.readAt ≤ readAt - window)
    refine ⟨dropped ++ kept.takeWhile old, kept.dropWhile old, ?_, ?_, ?_⟩
    · rw [append_assoc, takeWhile_append_dropWhile]
      exact hGranted
    · rw [hEvents]
      unfold keptAfter
      rw [dropWhile_map]
      rfl
    · intro grant hMem
      rcases mem_append.mp hMem with hOld | hGone
      · exact hDropped grant hOld
      · have hTaken : old grant = true := mem_takeWhile_imp hGone
        exact (of_decide_eq_true hTaken).trans (sub_le_sub_right hRead window)
  sorted := hKept.sorted
  entered := hKept.entered
  spaced := hKept.spaced

/- A call is granted below the limit; the grant that is a limit before it was dropped. -/
theorem Kept.grant (readAt : Time) (hFree : events.length < limit) :
    Kept limit window now (events ++ [readAt]) (granted ++ [⟨readAt, now⟩]) where
  queue := by
    rcases hKept.queue with ⟨dropped, kept, hGranted, hEvents, hDropped⟩
    refine ⟨dropped, kept ++ [⟨readAt, now⟩], ?_, ?_, hDropped⟩
    · rw [hGranted, append_assoc]
    · rw [hEvents, map_append, map_singleton]
  sorted := by
    rw [map_append, pairwise_append]
    refine ⟨hKept.sorted, pairwise_singleton _ _, ?_⟩
    intro time hMem time' hLast
    rcases mem_map.mp hMem with ⟨grant, hGrant, rfl⟩
    rw [mem_singleton.mp hLast]
    exact hKept.entered grant hGrant
  entered grant hMem := by
    rcases mem_append.mp hMem with hOld | hNew
    · exact hKept.entered grant hOld
    · rw [mem_singleton.mp hNew]
  spaced index earlier later hEarlier hLater := by
    have hLess : index + limit < granted.length + 1 := by
      simpa using (List.getElem?_eq_some_iff.mp hLater).1
    rw [getElem?_append_left (by omega)] at hEarlier
    by_cases hLast : index + limit < granted.length
    · rw [getElem?_append_left hLast] at hLater
      exact hKept.spaced index earlier later hEarlier hLater
    have hIndex : index + limit = granted.length := by omega
    rw [hIndex, getElem?_concat_length, Option.some.injEq] at hLater
    rcases hKept.queue with ⟨dropped, kept, hGranted, hEvents, hDropped⟩
    have hLength : granted.length = dropped.length + events.length := by
      rw [hGranted, hEvents, length_append, length_map]
    rw [hGranted, getElem?_append_left (by omega)] at hEarlier
    rw [← hLater]
    exact le_sub_iff_add_le.mp (hDropped earlier (mem_of_getElem? hEarlier))

end

---- Steps And Runs

/- Every queue is as described, and no call read ahead of time. -/
structure ThreadsKept
    (limits : Operation → Nat) (window : Time) (threads : Threads Operation Time) : Prop where
  waited : ∀ call ∈ threads.waiting, call.2 ≤ threads.now
  kept : ∀ operation, Kept (limits operation) window threads.now (threads.events operation)
    (threads.granted operation)

theorem ThreadsKept.enter {operation : Operation} {readAt : Time}
    (hThreads : ThreadsKept limits window threads) (hRead : readAt ≤ threads.now) :
    ThreadsKept limits window (enter limits window operation readAt threads) where
  waited := hThreads.waited
  kept other := by
    have hRecent := (hThreads.kept operation).recent hRead
    unfold KeyringService.enter SlidingWindow.acquire offer
    dsimp only
    by_cases hFull :
      limits operation ≤ (keptAfter (readAt - window) (threads.events operation)).length
    · rw [if_pos hFull, if_neg Bool.false_ne_true]
      by_cases hSame : other = operation
      · rw [hSame, update_self]
        exact hRecent
      · rw [update_of_ne hSame]
        exact hThreads.kept other
    · rw [if_neg hFull, if_pos rfl]
      by_cases hSame : other = operation
      · rw [hSame, update_self, update_self]
        exact hRecent.grant readAt (Nat.lt_of_not_le hFull)
      · rw [update_of_ne hSame, update_of_ne hSame]
        exact hThreads.kept other

theorem ThreadsKept.next {label : ThreadStep Operation Time}
    (hThreads : ThreadsKept limits window threads)
    (hNext : next limits window threads label = some after) : ThreadsKept limits window after := by
  cases label with
  | passes time =>
    unfold KeyringService.next at hNext
    dsimp only at hNext
    split_ifs at hNext with hLater
    cases hNext
    exact ⟨fun call hMem => (hThreads.waited call hMem).trans hLater,
      fun operation => (hThreads.kept operation).later hLater⟩
  | readsClock operation =>
    cases hNext
    refine ⟨?_, hThreads.kept⟩
    intro call hMem
    rcases mem_append.mp hMem with hOld | hNew
    · exact hThreads.waited call hOld
    · rw [mem_singleton.mp hNew]
  | enters index =>
    unfold KeyringService.next at hNext
    dsimp only at hNext
    cases hCall : threads.waiting[index]? with
    | none =>
      rw [hCall] at hNext
      cases hNext
    | some call =>
      rw [hCall, Option.some.injEq] at hNext
      rw [← hNext]
      refine ThreadsKept.enter ⟨?_, hThreads.kept⟩ (hThreads.waited call (mem_of_getElem? hCall))
      exact fun other hMem => hThreads.waited other (mem_of_mem_eraseIdx hMem)

theorem kept_of_reachable (hReachable : (limiterSystem limits window).Reachable threads) :
    ThreadsKept limits window threads := by
  refine hReachable.invariant ?_ ?_
  · rintro start ⟨hWaiting, hEmpty⟩
    constructor
    · rw [hWaiting]
      exact fun _ hMem => absurd hMem not_mem_nil
    · intro operation
      rw [(hEmpty operation).1, (hEmpty operation).2]
      exact kept_nil
  · intro before label after hBefore hNext
    exact hBefore.next hNext

/-
  If no granted call waited longer than `delay` for the lock, an interval that is shorter than the
  window by `delay` has at most a limit of grants.
-/
theorem granted_within_window {operation : Operation} {delay : Time}
    (hReachable : (limiterSystem limits window).Reachable threads)
    (hDelay : ∀ grant ∈ threads.granted operation, grant.enteredAt ≤ grant.readAt + delay)
    (start : Time) :
    (threads.granted operation).countP (fun grant =>
        decide (start ≤ grant.enteredAt ∧ grant.enteredAt < start + (window - delay))) ≤
      limits operation := by
  have hKept := (kept_of_reachable hReachable).kept operation
  have hSpaced : Spaced (limits operation) (window - delay)
    ((threads.granted operation).map Grant.enteredAt) := by
    intro index earlier later hEarlier hLater
    rw [getElem?_map, Option.map_eq_some_iff] at hEarlier hLater
    rcases hEarlier with ⟨grant, hGrant, rfl⟩
    rcases hLater with ⟨grant', hGrant', rfl⟩
    calc grant.enteredAt + (window - delay) ≤ grant.readAt + delay + (window - delay) :=
      add_le_add_left (hDelay grant (mem_of_getElem? hGrant)) _
      _ = grant.readAt + window := by abel
      _ ≤ grant'.enteredAt := hKept.spaced index grant grant' hGrant hGrant'
  have hCount := countP_le_of_spaced hKept.sorted hSpaced start
  rw [countP_map] at hCount
  exact hCount

def sampleThreads : Threads Unit Int := ⟨0, [], fun _ => [], fun _ => []⟩

/- Two calls wait five seconds for the lock, the next one is refused, and one comes later. -/
def busySteps : List (ThreadStep Unit Int) :=
  [.readsClock (), .readsClock (), .passes 5, .enters 0, .enters 0, .readsClock (), .enters 0,
    .passes 66, .readsClock (), .enters 0]

theorem granted_within_window_sample :
    ∃ threads, (limiterSystem (fun _ : Unit => 2) (60 : Int)).Reachable threads ∧
      threads.granted () = [⟨0, 5⟩, ⟨0, 5⟩, ⟨66, 66⟩] ∧ (threads.granted ()).countP
        (fun grant => decide (5 ≤ grant.enteredAt ∧ grant.enteredAt < 5 + (60 - 5))) ≤ 2 := by
  have hRun : ∃ threads, (limiterSystem (fun _ : Unit => 2) (60 : Int)).Run sampleThreads
    busySteps threads ∧ threads.granted () = [⟨0, 5⟩, ⟨0, 5⟩, ⟨66, 66⟩] :=
    ⟨_, .cons rfl (.cons rfl (.cons rfl (.cons rfl (.cons rfl (.cons rfl (.cons rfl
      (.cons rfl (.cons rfl (.cons rfl (.nil _)))))))))), rfl⟩
  rcases hRun with ⟨threads, hRun, hGranted⟩
  have hReachable : (limiterSystem (fun _ : Unit => 2) (60 : Int)).Reachable threads :=
    ⟨_, _, ⟨rfl, fun _ => ⟨rfl, rfl⟩⟩, hRun⟩
  refine ⟨threads, hReachable, hGranted, granted_within_window hReachable ?_ 5⟩
  rw [hGranted]
  decide

/- Two calls for one operation, the first one with a long wait. -/
def sampleSteps : List (ThreadStep Unit Int) :=
  [.readsClock (), .passes 100, .enters 0, .passes 101, .readsClock (), .enters 0]

/- The limit is one call in 60 seconds: both calls are granted, one second after the other. -/
theorem two_grants_in_window :
    ∃ threads, (limiterSystem (fun _ : Unit => 1) (60 : Int)).Reachable threads ∧
      threads.granted () = [⟨0, 100⟩, ⟨101, 101⟩] :=
  ⟨_, ⟨sampleThreads, sampleSteps, ⟨rfl, fun _ => ⟨rfl, rfl⟩⟩,
    .cons rfl (.cons rfl (.cons rfl (.cons rfl (.cons rfl (.cons rfl (.nil _))))))⟩, rfl⟩

end PamOlive.KeyringService
