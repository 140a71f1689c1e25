/-
**The functional watchdog of the main loop.**

The hardware watchdog resets the board unless `machine.Watchdog.Update()` comes every eight
seconds, and the only call of it is in `feedWatchdogIfHealthy`, which skips it once
`systemHealthy` is false. Three places write the supervisor's variables: a schedule refresh
that succeeds (`consecutiveFailures = 0`, `lastSuccessfulRefresh = time.Now()`), a refresh whose
every retry failed (`consecutiveFailures++`, then `checkSystemHealth`), and `fatalError`. The
retries of one refresh write none of them, so a refresh is one event, success or failure; the
other tasks only read. `checkSystemHealth` compares `time.Since(lastSuccessfulRefresh).Hours()`,
a `float64`, with `12`; for a duration `d` of nanoseconds, `d.Hours()` is at least `12` exactly
when `d` is at least twelve hours (below, the whole hours are at most 11 and the fraction is
below one by far more than a rounding step), so the model compares durations.

* `Health.step_unhealthy`: a step never makes the system healthy again;
* `runHealth_boot`: from boot at `t0`, the variables hold the failed refreshes since the last
  success and its time, and the system is unhealthy exactly when `fatalError` ran or some
  failed refresh had three failed refreshes since the last success, itself included, or came
  twelve hours or more after it (after `t0` if none);
* `unhealthy_forever`: that, and once unhealthy it stays so and no later
  `feedWatchdogIfHealthy`, from any task, feeds the watchdog.
-/

import Mathlib.Data.List.Basic

namespace Bindicator.Main

/-- `maxConsecutiveFailures = 3`. -/
def maxConsecutiveFailures : Nat := 3

/-- `maxHoursWithoutRefresh = 12`. -/
def maxHoursWithoutRefresh : Nat := 12

/-- `time.Hour`, in nanoseconds. -/
def hour : Int := 3600 * 1000000000

/-- The supervisor's variables. -/
structure Health where
  lastSuccessfulRefresh : Int
  consecutiveFailures : Nat
  systemHealthy : Bool
  deriving DecidableEq, Repr

/-- At boot: `lastSuccessfulRefresh = time.Now()` gives the grace period, `systemHealthy = true`. -/
def bootHealth (t0 : Int) : Health := ⟨t0, 0, true⟩

/-- `checkSystemHealth` at `now`. -/
def checkSystemHealth (now : Int) (st : Health) : Health :=
  if maxConsecutiveFailures ≤ st.consecutiveFailures then { st with systemHealthy := false }
  else if maxHoursWithoutRefresh * hour ≤ now - st.lastSuccessfulRefresh then
    { st with systemHealthy := false }
  else st

/-- What happens to the supervisor's variables. -/
inductive Event where
  /-- A schedule refresh whose fetch succeeded at `now`. -/
  | refreshed (now : Int)
  /-- A schedule refresh whose retries all failed, the last at `now`. -/
  | refreshFailed (now : Int)
  /-- `fatalError`. -/
  | fatal
  /-- `feedWatchdogIfHealthy`, from any task. -/
  | feed
  deriving DecidableEq, Repr

/-- One event. -/
def Health.step (st : Health) : Event → Health
  | .refreshed now => { st with consecutiveFailures := 0, lastSuccessfulRefresh := now }
  | .refreshFailed now =>
    checkSystemHealth now { st with consecutiveFailures := st.consecutiveFailures + 1 }
  | .fatal => { st with systemHealthy := false }
  | .feed => st

/-- `feedWatchdogIfHealthy`: whether `machine.Watchdog.Update()` is called. -/
def feedWatchdogIfHealthy (st : Health) : Bool := st.systemHealthy

/-- The variables after a run of events. -/
def runHealth (st : Health) : List Event → Health
  | [] => st
  | e :: es => runHealth (st.step e) es

/-- The calls of `machine.Watchdog.Update()` in a run. -/
def watchdogUpdates (st : Health) : List Event → Nat
  | [] => 0
  | e :: es => (if e = .feed ∧ feedWatchdogIfHealthy st then 1 else 0) + watchdogUpdates (st.step e) es

theorem runHealth_append (st : Health) (es more : List Event) :
    runHealth st (es ++ more) = runHealth (runHealth st es) more := by
  induction es generalizing st with
  | nil => rfl
  | cons e es ih => exact ih _

/-! ## Once unhealthy, always unhealthy -/

theorem checkSystemHealth_unhealthy (now : Int) (st : Health) (unhealthy : st.systemHealthy = false) :
    (checkSystemHealth now st).systemHealthy = false := by
  unfold checkSystemHealth
  split_ifs <;> first | rfl | exact unhealthy

/-- **A step never makes the system healthy again.** -/
theorem Health.step_unhealthy (st : Health) (e : Event) (unhealthy : st.systemHealthy = false) :
    (st.step e).systemHealthy = false := by
  cases e with
  | refreshFailed now => exact checkSystemHealth_unhealthy now _ unhealthy
  | _ => first | rfl | exact unhealthy

theorem runHealth_unhealthy (st : Health) (es : List Event) (unhealthy : st.systemHealthy = false) :
    (runHealth st es).systemHealthy = false := by
  induction es generalizing st with
  | nil => exact unhealthy
  | cons e es ih => exact ih _ (st.step_unhealthy e unhealthy)

theorem watchdogUpdates_unhealthy (st : Health) (es : List Event)
    (unhealthy : st.systemHealthy = false) : watchdogUpdates st es = 0 := by
  induction es generalizing st with
  | nil => rfl
  | cons e es ih =>
    simp [watchdogUpdates, feedWatchdogIfHealthy, unhealthy, ih _ (st.step_unhealthy e unhealthy)]

/-! ## When the system turns unhealthy -/

/-- The time of a successful refresh. -/
def Event.success? : Event → Option Int
  | .refreshed now => some now
  | _ => none

/-- A failed refresh. -/
def Event.isFailure : Event → Bool
  | .refreshFailed _ => true
  | _ => false

/-- The time of the last successful refresh of a run, or the boot time if none. -/
def lastSuccess (t0 : Int) (es : List Event) : Int := (es.reverse.findSome? Event.success?).getD t0

/-- The failed refreshes since the last successful one. -/
def failuresSince (es : List Event) : Nat :=
  (es.reverse.takeWhile fun e => e.success?.isNone).countP Event.isFailure

/-- Some failed refresh crossed a threshold: with it, three failed refreshes since the last
success, or it came twelve hours or more after that success. -/
def Tripped (t0 : Int) (es : List Event) : Prop :=
  ∃ before now after, es = before ++ .refreshFailed now :: after ∧
    (maxConsecutiveFailures ≤ failuresSince before + 1 ∨
      maxHoursWithoutRefresh * hour ≤ now - lastSuccess t0 before)

theorem lastSuccess_snoc (t0 : Int) (es : List Event) (e : Event) :
    lastSuccess t0 (es ++ [e]) = (e.success?).getD (lastSuccess t0 es) := by
  cases e <;> simp [lastSuccess, Event.success?]

theorem failuresSince_snoc (es : List Event) (e : Event) :
    failuresSince (es ++ [e]) =
      match e with
      | .refreshed _ => 0
      | .refreshFailed _ => failuresSince es + 1
      | _ => failuresSince es := by
  cases e <;> simp [failuresSince, Event.success?, Event.isFailure, List.countP_cons]

theorem tripped_snoc (t0 : Int) (es : List Event) (e : Event) :
    Tripped t0 (es ++ [e]) ↔ Tripped t0 es ∨ ∃ now, e = .refreshFailed now ∧
      (maxConsecutiveFailures ≤ failuresSince es + 1 ∨
        maxHoursWithoutRefresh * hour ≤ now - lastSuccess t0 es) := by
  constructor
  · rintro ⟨before, now, after, split, crossed⟩
    rcases List.eq_nil_or_concat after with rfl | ⟨after, last, rfl⟩
    · obtain ⟨rfl, ⟨⟩⟩ := List.append_inj' split rfl
      exact .inr ⟨now, rfl, crossed⟩
    · rw [List.concat_eq_append, ← List.cons_append, ← List.append_assoc] at split
      obtain ⟨rfl, ⟨⟩⟩ := List.append_inj' split rfl
      exact .inl ⟨before, now, after, rfl, crossed⟩
  · rintro (⟨before, now, after, rfl, crossed⟩ | ⟨now, rfl, crossed⟩)
    · exact ⟨before, now, after ++ [e], by simp, crossed⟩
    · exact ⟨es, now, [], rfl, crossed⟩

/-- The variables along a run from boot: the failures since the last success, its time, and
whether the system is still healthy. -/
theorem runHealth_boot (t0 : Int) (es : List Event) :
    (runHealth (bootHealth t0) es).consecutiveFailures = failuresSince es ∧
      (runHealth (bootHealth t0) es).lastSuccessfulRefresh = lastSuccess t0 es ∧
      ((runHealth (bootHealth t0) es).systemHealthy = false ↔ Event.fatal ∈ es ∨ Tripped t0 es) := by
  induction es using List.reverseRecOn with
  | nil => exact ⟨rfl, rfl, by simp [bootHealth, runHealth, Tripped]⟩
  | append_singleton es e ih =>
    obtain ⟨failures, last, unhealthy⟩ := ih
    rw [runHealth_append, tripped_snoc, lastSuccess_snoc, failuresSince_snoc, List.mem_append,
      List.mem_singleton]
    generalize runHealth (bootHealth t0) es = st at failures last unhealthy
    cases e with
    | refreshed now =>
      refine ⟨rfl, rfl, ?_⟩
      simpa [runHealth, Health.step] using unhealthy
    | refreshFailed now =>
      simp only [runHealth, Health.step, checkSystemHealth, failures, last]
      refine ⟨by split_ifs <;> rfl, by split_ifs <;> rfl, ?_⟩
      split_ifs with many late
      · simp [many]
      · simp [late]
      · simp [unhealthy, many, late]
    | fatal => exact ⟨failures, last, by simp [runHealth, Health.step]⟩
    | feed => exact ⟨failures, last, by simpa [runHealth, Health.step] using unhealthy⟩

/-- **The watchdog supervisor over every run**: from boot at `t0`, `systemHealthy` is false after
a run exactly when `fatalError` ran or some failed refresh had, with itself, three failed
refreshes since the last success or came twelve hours or more after it (after `t0` if none);
from then on it stays false whatever happens, and no `feedWatchdogIfHealthy` feeds the
watchdog. -/
theorem unhealthy_forever (t0 : Int) (es more : List Event) :
    ((runHealth (bootHealth t0) es).systemHealthy = false ↔ Event.fatal ∈ es ∨ Tripped t0 es) ∧
      ((runHealth (bootHealth t0) es).systemHealthy = false →
        (runHealth (bootHealth t0) (es ++ more)).systemHealthy = false ∧
          watchdogUpdates (runHealth (bootHealth t0) es) more = 0) :=
  ⟨(runHealth_boot t0 es).2.2, fun unhealthy =>
    ⟨by rw [runHealth_append]; exact runHealth_unhealthy _ more unhealthy,
      watchdogUpdates_unhealthy _ more unhealthy⟩⟩

end Bindicator.Main
