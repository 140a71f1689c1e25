/-
**The schedule refresh of a wake cycle: MQTT attempts with exponential backoff.**

When a cycle decides to refresh, `main` tries `fetchScheduleViaMQTT` up to `mqttMaxRetries + 1`
times, waiting `mqttBackoff` before every attempt but the first (16 s, doubled after each wait and
capped at 60 s). A failed attempt counts in `wifiStats.mqttFailCount`; only the last one touches
the supervisor (`consecutiveFailures++`, `checkSystemHealth`). A success sets
`lastScheduleFetch` and `lastSuccessfulRefresh` to the time, clears `consecutiveFailures`, and
ends the loop.

* `retryLoop_health`: for every sequence of fetch outcomes, the refresh changes the supervisor's
  variables exactly as one event of the watchdog model, `refreshed` at the first success among
  the first four attempts, else `refreshFailed` at the fourth failure;
* `retryLoop_waits`: a refresh waits once before each attempt after a failure, at most three
  times, 16 s doubled each time and capped at 60 s: 16 s, 32 s and 60 s.
-/

import Bindicator.Main.Watchdog
import Bindicator.Time

namespace Bindicator.Main

/-- `mqttMinBackoff = 16 * time.Second`. -/
def mqttMinBackoff : Int := 16 * second

/-- `mqttMaxBackoff = 60 * time.Second`. -/
def mqttMaxBackoff : Int := 60 * second

/-- `mqttMaxRetries = 3`. -/
def mqttMaxRetries : Nat := 3

/-- What the refresh writes: the supervisor's variables, `lastScheduleFetch` (`none` for the zero
time), the MQTT counters of `wifiStats`, and the `sleepWithWatchdog(mqttBackoff)` waits, in order. -/
structure Refresh where
  health : Health
  lastScheduleFetch : Option Int
  mqttFailCount : Nat
  mqttSuccessCount : Nat
  waits : List Int
  deriving DecidableEq, Repr

/-- The success branch at `now`. -/
def Refresh.fetched (r : Refresh) (now : Int) : Refresh :=
  { r with mqttSuccessCount := r.mqttSuccessCount + 1, lastScheduleFetch := some now,
           health := { r.health with consecutiveFailures := 0, lastSuccessfulRefresh := now } }

/-- A failed attempt at `now`: the last one, `attempt = mqttMaxRetries`, counts for the supervisor. -/
def Refresh.failed (r : Refresh) (attempt : Nat) (now : Int) : Refresh :=
  if attempt < mqttMaxRetries then { r with mqttFailCount := r.mqttFailCount + 1 }
  else { r with mqttFailCount := r.mqttFailCount + 1,
                health := checkSystemHealth now
                  { r.health with consecutiveFailures := r.health.consecutiveFailures + 1 } }

/-- `if attempt > 0 { sleepWithWatchdog(mqttBackoff); ... }`: the wait before an attempt. -/
def Refresh.backoff (r : Refresh) (attempt : Nat) (mqttBackoff : Int) : Refresh :=
  if 0 < attempt then { r with waits := r.waits ++ [mqttBackoff] } else r

/-- `mqttBackoff = mqttBackoff * 2`, capped at `mqttMaxBackoff`, after a wait. -/
def nextBackoff (attempt : Nat) (mqttBackoff : Int) : Int :=
  if 0 < attempt then min (mqttBackoff * 2) mqttMaxBackoff else mqttBackoff

/-- `for attempt := 0; attempt <= mqttMaxRetries; attempt++` from `attempt`, with the backoff
`mqttBackoff`, over the outcomes of `fetchScheduleViaMQTT` (its time, and whether it returned
the jobs); `none` if they run out before the loop ends. -/
def retryLoop : Nat → Int → Refresh → List (Int × Bool) → Option Refresh
  | attempt, mqttBackoff, r, outcomes =>
    if attempt ≤ mqttMaxRetries then
      match outcomes with
      | [] => none
      | (now, ok) :: rest =>
        if ok then some ((r.backoff attempt mqttBackoff).fetched now)
        else retryLoop (attempt + 1) (nextBackoff attempt mqttBackoff)
          ((r.backoff attempt mqttBackoff).failed attempt now) rest
    else some r

/-- The refresh of a cycle: `mqttBackoff := mqttMinBackoff`, then the retry loop. -/
def mqttRefresh (r : Refresh) (outcomes : List (Int × Bool)) : Option Refresh :=
  retryLoop 0 mqttMinBackoff r outcomes

/-- What a refresh is to the supervisor: the first success among the attempts left, or the
failure of the last. -/
def refreshEvent : Nat → List (Int × Bool) → Option Event
  | _, [] => none
  | 0, (now, ok) :: _ => some (if ok then .refreshed now else .refreshFailed now)
  | left + 1, (now, ok) :: rest => if ok then some (.refreshed now) else refreshEvent left rest

/-- The `i`-th wait of a refresh: `mqttMinBackoff` doubled `i` times, at most `mqttMaxBackoff`. -/
def backoffWait (i : Nat) : Int := min (mqttMinBackoff * 2 ^ i) mqttMaxBackoff

section Loop

variable {r : Refresh} {attempt : Nat} {mqttBackoff now : Int}

@[simp] theorem Refresh.backoff_health : (r.backoff attempt mqttBackoff).health = r.health := by
  unfold Refresh.backoff; split <;> rfl

@[simp] theorem Refresh.backoff_lastScheduleFetch :
    (r.backoff attempt mqttBackoff).lastScheduleFetch = r.lastScheduleFetch := by
  unfold Refresh.backoff; split <;> rfl

@[simp] theorem Refresh.backoff_mqttFailCount : (r.backoff attempt mqttBackoff).mqttFailCount = r.mqttFailCount := by
  unfold Refresh.backoff; split <;> rfl

@[simp] theorem Refresh.failed_lastScheduleFetch : (r.failed attempt now).lastScheduleFetch = r.lastScheduleFetch := by
  unfold Refresh.failed; split <;> rfl

@[simp] theorem Refresh.failed_mqttFailCount : (r.failed attempt now).mqttFailCount = r.mqttFailCount + 1 := by
  unfold Refresh.failed; split <;> rfl

@[simp] theorem Refresh.failed_waits : (r.failed attempt now).waits = r.waits := by
  unfold Refresh.failed; split <;> rfl

theorem Refresh.failed_health_early (early : attempt < mqttMaxRetries) : (r.failed attempt now).health = r.health := by
  simp [Refresh.failed, early]

theorem retryLoop_done (attempt : Nat) (mqttBackoff : Int) (r : Refresh) (outcomes : List (Int × Bool))
    (past : mqttMaxRetries < attempt) : retryLoop attempt mqttBackoff r outcomes = some r := by
  rw [retryLoop.eq_def]
  exact if_neg (Nat.not_le.mpr past)

theorem retryLoop_cons {ok : Bool} {rest : List (Int × Bool)} (within : attempt ≤ mqttMaxRetries) :
    retryLoop attempt mqttBackoff r ((now, ok) :: rest) =
      if ok then some ((r.backoff attempt mqttBackoff).fetched now)
      else retryLoop (attempt + 1) (nextBackoff attempt mqttBackoff) ((r.backoff attempt mqttBackoff).failed attempt now)
        rest := by
  rw [retryLoop, if_pos within]

/-- **The retry loop is one supervisor event**: from attempt `attempt` on, for every outcomes, the
loop's effect on the supervisor's variables and on `lastScheduleFetch` is that of
`refreshEvent` over the attempts left. -/
theorem retryLoop_event (attempt : Nat) (mqttBackoff : Int) (r : Refresh) (outcomes : List (Int × Bool))
    (within : attempt ≤ mqttMaxRetries) :
    (retryLoop attempt mqttBackoff r outcomes).map (fun r' => (r'.health, r'.lastScheduleFetch)) =
      (refreshEvent (mqttMaxRetries - attempt) outcomes).map fun e =>
        (r.health.step e, match e with
          | .refreshed now => some now
          | _ => r.lastScheduleFetch) := by
  induction outcomes generalizing attempt mqttBackoff r with
  | nil =>
    rw [retryLoop, if_pos within]
    cases mqttMaxRetries - attempt <;> rfl
  | cons outcome rest ih =>
    obtain ⟨now, ok⟩ := outcome
    rw [retryLoop_cons within]
    obtain ⟨left, hleft⟩ : ∃ left, mqttMaxRetries - attempt = left := ⟨_, rfl⟩
    cases ok
    case true =>
      cases left <;> simp [refreshEvent, hleft, Refresh.fetched, Health.step]
    case false =>
      simp only [Bool.false_eq_true, ↓reduceIte]
      cases left with
      | zero =>
        have last : attempt = mqttMaxRetries := by omega
        rw [retryLoop_done _ _ _ _ (by omega), hleft]
        subst last
        simp [refreshEvent, Refresh.failed, Health.step]
      | succ left =>
        have early : attempt < mqttMaxRetries := by omega
        rw [ih (attempt + 1) _ _ (by omega), hleft, show mqttMaxRetries - (attempt + 1) = left by omega]
        simp [refreshEvent, Refresh.failed_health_early early]

theorem backoffWait_succ (i : Nat) : min (backoffWait i * 2) mqttMaxBackoff = backoffWait (i + 1) := by
  unfold backoffWait
  rw [min_mul_of_nonneg _ _ (by norm_num), min_assoc,
    min_eq_right (show mqttMaxBackoff ≤ mqttMaxBackoff * 2 by unfold mqttMaxBackoff second; norm_num), pow_succ,
    ← mul_assoc]

theorem nextBackoff_backoffWait (attempt : Nat) :
    nextBackoff attempt (backoffWait (attempt - 1)) = backoffWait (attempt + 1 - 1) := by
  unfold nextBackoff
  split
  · rw [backoffWait_succ, Nat.sub_add_cancel ‹_›, Nat.add_sub_cancel]
  · rw [show attempt = 0 by omega]

/-- Before attempt `attempt`, its `attempt - 1` waits: the wait makes them `attempt`. -/
theorem backoff_waits (waits : List Int) (waited : r.waits = waits ++ (List.range (attempt - 1)).map backoffWait) :
    (r.backoff attempt (backoffWait (attempt - 1))).waits = waits ++ (List.range attempt).map backoffWait := by
  unfold Refresh.backoff
  split
  · rw [waited, List.append_assoc, ← List.map_singleton, ← List.map_append, ← List.range_succ,
      Nat.succ_eq_add_one, Nat.sub_add_cancel ‹_›]
  · rw [waited, show attempt = 0 by omega]

/-- The waits as the loop goes: before attempt `attempt`, `attempt - 1` waits and `attempt` failures
behind it, and the backoff at its `attempt - 1`-th value. -/
theorem retryLoop_waits_from (attempt : Nat) (r : Refresh) (outcomes : List (Int × Bool)) (waits : List Int)
    (fails : Nat) (within : attempt ≤ mqttMaxRetries) (waited : r.waits = waits ++ (List.range (attempt - 1)).map backoffWait)
    (failed : r.mqttFailCount = fails + attempt) {r' : Refresh}
    (ran : retryLoop attempt (backoffWait (attempt - 1)) r outcomes = some r') :
    r'.waits = waits ++ (List.range (min (r'.mqttFailCount - fails) mqttMaxRetries)).map backoffWait := by
  induction outcomes generalizing attempt r with
  | nil => simp [retryLoop, within] at ran
  | cons outcome rest ih =>
    obtain ⟨now, ok⟩ := outcome
    have grown := backoff_waits waits waited
    rw [retryLoop_cons within] at ran
    cases ok
    case true =>
      simp only [↓reduceIte, Option.some.injEq] at ran
      subst ran
      simp only [Refresh.fetched, grown, Refresh.backoff_mqttFailCount, failed, Nat.add_sub_cancel_left,
        min_eq_left within]
    case false =>
      simp only [Bool.false_eq_true, ↓reduceIte, nextBackoff_backoffWait] at ran
      by_cases last : attempt = mqttMaxRetries
      · rw [retryLoop_done _ _ _ _ (by omega), Option.some.injEq] at ran
        subst ran
        rw [Refresh.failed_waits, grown, Refresh.failed_mqttFailCount, Refresh.backoff_mqttFailCount, failed,
          show fails + attempt + 1 - fails = mqttMaxRetries + 1 by omega, min_eq_right (Nat.le_succ _), last]
      · refine ih (attempt + 1) _ (by omega) ?_ ?_ ran
        · rw [Refresh.failed_waits, Nat.add_sub_cancel, grown]
        · rw [Refresh.failed_mqttFailCount, Refresh.backoff_mqttFailCount, failed, Nat.add_assoc]

end Loop

/-- **The waits of a refresh**: before each attempt after a failure, at most three, a refresh waits
`mqttMinBackoff` doubled once more each time and capped at `mqttMaxBackoff`. -/
theorem retryLoop_waits (r : Refresh) (outcomes : List (Int × Bool)) {r' : Refresh}
    (ran : mqttRefresh r outcomes = some r') :
    r'.waits = r.waits ++ (List.range (min (r'.mqttFailCount - r.mqttFailCount) mqttMaxRetries)).map backoffWait :=
  retryLoop_waits_from 0 r outcomes r.waits r.mqttFailCount (Nat.zero_le _) (by simp) rfl ran

/-- The three waits are 16 s, 32 s and 60 s. -/
example : (List.range mqttMaxRetries).map backoffWait = [16 * second, 32 * second, 60 * second] := by
  decide

/-- **A refresh changes the supervisor's variables as one event of the watchdog model**: for every
sequence of outcomes of `fetchScheduleViaMQTT`, the refresh of a cycle ends (after at most
`mqttMaxRetries + 1` attempts) exactly when `refreshEvent` finds its event, and then leaves the
supervisor as `Health.step` of that event: `refreshed` at the first success, which also sets
`lastScheduleFetch`, or `refreshFailed` at the fourth failure, the earlier failures changing
nothing. -/
theorem retryLoop_health (r : Refresh) (outcomes : List (Int × Bool)) :
    (mqttRefresh r outcomes).map (fun r' => (r'.health, r'.lastScheduleFetch)) =
      (refreshEvent mqttMaxRetries outcomes).map fun e =>
        (r.health.step e, match e with
          | .refreshed now => some now
          | _ => r.lastScheduleFetch) :=
  retryLoop_event 0 mqttMinBackoff r outcomes (Nat.zero_le _)

end Bindicator.Main
