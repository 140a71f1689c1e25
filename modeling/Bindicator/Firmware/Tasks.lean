/-
**The firmware's cooperative tasks around the telemetry sender.**

TinyGo's scheduler switches tasks only where one blocks or sleeps. Four tasks share the
telemetry package: `senderLoop`, the console task (its `telemetry-flush` command), the OTA
server (`handleOTASession` calls `telemetry.Pause()`, and `Resume()` and `Flush()` before the
reboot and, deferred, when it returns), and the main loop, whose refresh cycle runs `syncNTP`
and then `fetchScheduleViaMQTT`. `mu` is never held across a yield, so each `flushLogs`,
`flushMetrics` and `flushSpans` runs from its `mu.Lock()` to the `sendingWg.Add(1)` that opens
its `sendHTTPPost` without one; inside `sendHTTPPost` it sleeps many times before
`sendingWg.Done()`. A step of the model is one such stretch of one task. A state records where
each task is, whether the next build of each queue writes something, how many payloads have
been built into `BodyBuf`, and the `sendingWg` counter; what the payloads say is in
`Telemetry.Queues` and `Telemetry.Spans`. Telemetry is enabled, as after `Init`.
`SetBindicatorPaused` is not modelled: it only gates `updateLEDsFromSchedule`.

* `Sys.step_move`: what a step of each task can do, once (`Move`);
* `Reachable.invariant`: `sendingWg` counts the sends in progress, the OTA task holds the pause
  from `Pause()` to the end of its session, and while the session runs no send is in progress;
* `no_send_during_session`: from the return of `telemetry.Pause()` to the `VERIFIED` reply and
  the return, no `sendHTTPPost` is in progress, in every interleaving;
* `refresh_during_session`: the main loop reads no pause flag and enters `syncNTP` during a
  session;
* `concurrent_sends`: the console's `telemetry-flush` rebuilds `BodyBuf` and starts a second
  `sendHTTPPost` while the sender's is still writing the first.
-/

import Mathlib.Logic.Function.Basic

namespace Bindicator.Tasks

/-- The three telemetry queues. -/
inductive Queue where
  | logs
  | metrics
  | spans
  deriving DecidableEq, Repr

/-- The telemetry variables the tasks share. -/
structure Shared where
  paused : Bool
  /-- The next build of the queue writes something: `LogCount`, `MetricCount` positive, or a
  slot `BuildSpansJSON` writes. -/
  pending : Queue → Bool
  /-- The payloads built into `BodyBuf` so far. -/
  builds : Nat
  /-- The `sendingWg` counter. -/
  sending : Nat

/-- Where a task is in `Flush()` (`flushLogs`, `flushMetrics`, `flushSpans` in turn): out of it,
before the flush of a queue, or inside the `sendHTTPPost` of the `build`-th payload. -/
inductive Flusher where
  | idle
  | before (q : Queue)
  | posting (q : Queue) (build : Nat)
  deriving DecidableEq, Repr

/-- The flush after the one of `q`. -/
def Flusher.after : Queue → Flusher
  | .logs => .before .metrics
  | .metrics => .before .spans
  | .spans => .idle

/-- One stretch of a task in `Flush()`: a flush up to the first yield of its `sendHTTPPost` (it
returns at once when the queue is empty or telemetry paused), or the rest of `sendHTTPPost`. -/
def Flusher.step (sh : Shared) : Flusher → Flusher × Shared
  | .idle => (.idle, sh)
  | .before q =>
    if !sh.pending q || sh.paused then (Flusher.after q, sh)
    else (.posting q (sh.builds + 1),
      { sh with pending := Function.update sh.pending q false, builds := sh.builds + 1,
                sending := sh.sending + 1 })
  | .posting q _ => (Flusher.after q, { sh with sending := sh.sending - 1 })

/-- The OTA server task. -/
inductive OtaPc where
  /-- Waiting for a connection. -/
  | listening
  /-- In `telemetry.Pause()`: `paused` is set, `sendingWg.Wait()` has not returned. -/
  | pausing
  /-- `Pause()` returned: the session reads, erases and writes. -/
  | session
  /-- The session replied `VERIFIED` and sleeps before its last flush. -/
  | verified
  /-- `Resume()` then `Flush()`: before the reboot, or deferred when the session returns. -/
  | flushing (f : Flusher) (toReboot : Bool)
  /-- The three seconds of sleep before `ota.RebootToPartition`. -/
  | rebooting
  | rebooted
  deriving DecidableEq, Repr

/-- The main loop: asleep or updating the LEDs, or inside one of its network calls. -/
inductive MainPc where
  | idle
  | syncNTP
  | fetchSchedule
  deriving DecidableEq, Repr

/-- The tasks and what they share. `senderLoop` is asleep while its flusher is `idle`, the
console task reads a command while its flusher is. -/
structure Sys where
  shared : Shared
  sender : Flusher
  console : Flusher
  ota : OtaPc
  main : MainPc

/-- After `Init`: nothing queued, nothing sent, every task at its start. -/
def boot : Sys := ⟨⟨false, fun _ => false, 0, 0⟩, .idle, .idle, .listening, .idle⟩

/-- `Log` or `recordMetric` (which do nothing while paused), or `EndSpan` (which counts the span
even then), from any task. -/
def logStep (s : Sys) (q : Queue) : Sys :=
  if q ≠ .spans ∧ s.shared.paused then s
  else { s with shared := { s.shared with pending := Function.update s.shared.pending q true } }

/-- A `StartSpan` (nothing while paused) that takes the slot of the last span waiting to be
written, the loss of `ended_span_overwritten`. -/
def reuseStep (s : Sys) : Sys :=
  if s.shared.paused then s
  else { s with shared := { s.shared with pending := Function.update s.shared.pending .spans false } }

/-- One stretch of `senderLoop`: the sleep ends and it reads `paused`, or a step of its flushes. -/
def senderStep (s : Sys) : Sys :=
  if s.sender = .idle then { s with sender := if s.shared.paused then .idle else .before .logs }
  else { s with shared := (s.sender.step s.shared).2, sender := (s.sender.step s.shared).1 }

/-- One stretch of the console task: `telemetry-flush` is read, or a step of its flush. -/
def consoleStep (s : Sys) : Sys :=
  if s.console = .idle then { s with console := .before .logs }
  else { s with shared := (s.console.step s.shared).2, console := (s.console.step s.shared).1 }

/-- One stretch of the OTA task; `ok` says whether the session verifies, and whether
`RebootToPartition` resets the board (it returns when it fails, into the deferred `Resume()`
and `Flush()`). `sendingWg.Wait()` lets the task on only when no send is in progress. -/
def otaStep (s : Sys) (ok : Bool) : Option Sys :=
  match s.ota with
  | .listening => some { s with shared := { s.shared with paused := true }, ota := .pausing }
  | .pausing => if s.shared.sending = 0 then some { s with ota := .session } else none
  | .session =>
    some (if ok then { s with ota := .verified }
      else { s with shared := { s.shared with paused := false }, ota := .flushing (.before .logs) false })
  | .verified =>
    some { s with shared := { s.shared with paused := false }, ota := .flushing (.before .logs) true }
  | .flushing f toReboot =>
    some { s with
      shared := (f.step s.shared).2
      ota := if (f.step s.shared).1 = .idle then (if toReboot then .rebooting else .listening)
        else .flushing (f.step s.shared).1 toReboot }
  | .rebooting =>
    some (if ok then { s with ota := .rebooted }
      else { s with shared := { s.shared with paused := false }, ota := .flushing (.before .logs) false })
  | .rebooted => none

/-- One stretch of the main loop: a refresh cycle enters `syncNTP`, then
`fetchScheduleViaMQTT`, then goes back to the LEDs and its sleep. No pause flag is read. -/
def mainStep (s : Sys) : Sys :=
  { s with main := match s.main with
    | .idle => .syncNTP
    | .syncNTP => .fetchSchedule
    | .fetchSchedule => .idle }

/-- Which task takes the next stretch. -/
inductive Action where
  | log (q : Queue)
  | reuseSpanSlot
  | sender
  | console
  | ota (ok : Bool)
  | main

def Sys.step (s : Sys) : Action → Option Sys
  | .log q => some (logStep s q)
  | .reuseSpanSlot => some (reuseStep s)
  | .sender => some (senderStep s)
  | .console => some (consoleStep s)
  | .ota ok => otaStep s ok
  | .main => some (mainStep s)

/-- The states of every interleaving. -/
inductive Reachable : Sys → Prop where
  | boot : Reachable boot
  | step {s s' : Sys} (a : Action) : Reachable s → s.step a = some s' → Reachable s'

/-- Replay a schedule. -/
def Sys.run (s : Sys) : List Action → Option Sys
  | [] => some s
  | a :: as => (s.step a).bind fun s' => s'.run as

theorem Reachable.run {s s' : Sys} (reachable : Reachable s) :
    ∀ as : List Action, s.run as = some s' → Reachable s'
  | [], ran => by cases ran; exact reachable
  | a :: as, ran => by
    cases stepped : s.step a with
    | none => simp [Sys.run, stepped] at ran
    | some s1 =>
      simp only [Sys.run, stepped, Option.bind_some] at ran
      exact (Reachable.step a reachable stepped).run as ran

/-! ## What a step can do -/

/-- A task inside `sendHTTPPost` counts one send. -/
def Flusher.posts : Flusher → Nat
  | .idle => 0
  | .before _ => 0
  | .posting _ _ => 1

def OtaPc.posts : OtaPc → Nat
  | .flushing f _ => f.posts
  | _ => 0

/-- The sends in progress. -/
def Sys.posts (s : Sys) : Nat := s.sender.posts + s.console.posts + s.ota.posts

/-- The OTA task holds the pause from `Pause()` to the end of its session. -/
def OtaPc.holdsPause : OtaPc → Bool
  | .pausing | .session | .verified => true
  | _ => false

/-- From the return of `Pause()` to the end of the session. -/
def OtaPc.inSession : OtaPc → Bool
  | .session | .verified => true
  | _ => false

theorem OtaPc.holdsPause_of_inSession (pc : OtaPc) (inSession : pc.inSession = true) :
    pc.holdsPause = true := by
  cases pc <;> first | rfl | cases inSession

@[simp] theorem Flusher.after_posts (q : Queue) : (Flusher.after q).posts = 0 := by
  cases q <;> rfl

/-- One flush step changes the sends in progress and `sendingWg` alike, leaves `paused`, and
starts no send while paused. -/
theorem Flusher.step_posts (sh : Shared) (f : Flusher) (others : Nat)
    (counted : sh.sending = others + f.posts) :
    (f.step sh).2.sending = others + (f.step sh).1.posts ∧ (f.step sh).2.paused = sh.paused ∧
      (sh.paused = true → (f.step sh).1.posts ≤ f.posts) := by
  cases f with
  | idle => exact ⟨counted, rfl, fun _ => Nat.le_refl _⟩
  | before q =>
    simp only [Flusher.step]
    split
    · exact ⟨by rw [Flusher.after_posts]; exact counted, rfl,
        fun _ => by rw [Flusher.after_posts]; exact Nat.zero_le _⟩
    · rename_i active
      refine ⟨by simp only [Flusher.posts] at counted ⊢; omega, rfl, fun paused => ?_⟩
      simp [paused] at active
  | posting q build =>
    simp only [Flusher.posts] at counted
    exact ⟨by simp only [Flusher.step, Flusher.after_posts]; omega, rfl,
      fun _ => by simp [Flusher.step]⟩

/-- What one step of a task can do to the sends in progress, `sendingWg`, `paused` and the OTA
task. -/
inductive Move (s s' : Sys) : Prop where
  /-- A step of no flush and not of the OTA task's pause. -/
  | frame (sending : s'.shared.sending = s.shared.sending) (paused : s'.shared.paused = s.shared.paused)
      (posts : s'.posts = s.posts) (ota : s'.ota = s.ota)
  /-- A step of a flush, with the sends of the other tasks `others`. -/
  | flush (f : Flusher) (others : Nat) (before : s.posts = others + f.posts)
      (after : s'.posts = others + (f.step s.shared).1.posts) (shared : s'.shared = (f.step s.shared).2)
      (ota : s'.ota = s.ota ∨ s'.ota.holdsPause = false)
  /-- `Pause()` sets `paused`. -/
  | pause (ota : s'.ota = .pausing) (paused : s'.shared.paused = true)
      (sending : s'.shared.sending = s.shared.sending) (posts : s'.posts = s.posts)
  /-- `sendingWg.Wait()` returns. -/
  | wait (pausing : s.ota = .pausing) (ota : s'.ota = .session) (drained : s.shared.sending = 0)
      (shared : s'.shared = s.shared) (posts : s'.posts = s.posts)
  /-- The session replies `VERIFIED`. -/
  | reply (session : s.ota = .session) (ota : s'.ota = .verified) (shared : s'.shared = s.shared)
      (posts : s'.posts = s.posts)
  /-- The OTA task leaves the pause, or reboots. -/
  | release (ota : s'.ota.holdsPause = false) (sending : s'.shared.sending = s.shared.sending)
      (posts : s'.posts = s.posts)

/-- **Every step is one of the moves.** -/
theorem Sys.step_move {s s' : Sys} (a : Action) (stepped : s.step a = some s') : Move s s' := by
  cases a with
  | log q =>
    cases stepped
    unfold logStep
    split <;> exact .frame rfl rfl rfl rfl
  | reuseSpanSlot =>
    cases stepped
    unfold reuseStep
    split <;> exact .frame rfl rfl rfl rfl
  | main => cases stepped; exact .frame rfl rfl rfl rfl
  | sender =>
    cases stepped
    unfold senderStep
    split
    · rename_i asleep
      refine .frame rfl rfl ?_ rfl
      simp only [Sys.posts, asleep]
      split <;> rfl
    · exact .flush s.sender (s.console.posts + s.ota.posts) (by simp only [Sys.posts]; omega)
        (by simp only [Sys.posts]; omega) rfl (.inl rfl)
  | console =>
    cases stepped
    unfold consoleStep
    split
    · rename_i reading
      exact .frame rfl rfl (by simp only [Sys.posts, reading]; rfl) rfl
    · exact .flush s.console (s.sender.posts + s.ota.posts) (by simp only [Sys.posts]; omega)
        (by simp only [Sys.posts]; omega) rfl (.inl rfl)
  | ota ok =>
    simp only [Sys.step, otaStep] at stepped
    split at stepped
    all_goals rename_i pc
    · cases stepped
      exact .pause rfl rfl rfl (by simp only [Sys.posts, pc]; rfl)
    · split at stepped
      · cases stepped
        exact .wait pc rfl ‹_› rfl (by simp only [Sys.posts, pc]; rfl)
      · cases stepped
    · cases stepped
      split
      · exact .reply pc rfl rfl (by simp only [Sys.posts, pc]; rfl)
      · exact .release rfl rfl (by simp only [Sys.posts, pc]; rfl)
    · cases stepped
      exact .release rfl rfl (by simp only [Sys.posts, pc]; rfl)
    · rename_i f toReboot
      cases stepped
      refine .flush f (s.sender.posts + s.console.posts) (by simp only [Sys.posts, pc]; rfl) ?_ rfl
        (.inr (by split <;> (try split) <;> rfl))
      simp only [Sys.posts]
      split
      · rename_i done
        rw [done]
        split <;> rfl
      · rfl
    · cases stepped
      split <;> exact .release rfl rfl (by simp only [Sys.posts, pc]; rfl)
    · cases stepped

/-! ## While a session runs, no send is in progress -/

/-- The invariant of every interleaving: `sendingWg` counts the sends in progress, the OTA task
holds the pause from `Pause()` to the end of its session, and during the session no send is in
progress. -/
structure Invariant (s : Sys) : Prop where
  counted : s.shared.sending = s.posts
  held : s.ota.holdsPause = true → s.shared.paused = true
  quiet : s.ota.inSession = true → s.posts = 0

/-- **Every move keeps the invariant.** -/
theorem Invariant.move {s s' : Sys} (inv : Invariant s) : Move s s' → Invariant s'
  | .frame sending paused posts ota =>
    ⟨by rw [sending, posts, inv.counted], fun holds => by rw [paused]; exact inv.held (ota ▸ holds),
      fun inSession => by rw [posts]; exact inv.quiet (ota ▸ inSession)⟩
  | .flush f others before after shared ota => by
    obtain ⟨sending, paused, fewer⟩ := f.step_posts s.shared others (inv.counted.trans before)
    have same : s'.ota.holdsPause = true → s'.ota = s.ota := fun holds =>
      ota.resolve_right (by rw [holds]; exact Bool.noConfusion)
    refine ⟨by rw [after, shared, sending], fun holds => ?_, fun inSession => ?_⟩
    · rw [shared, paused]
      exact inv.held (same holds ▸ holds)
    · have was : s.ota.inSession = true := same (s'.ota.holdsPause_of_inSession inSession) ▸ inSession
      have none := inv.quiet was
      have kept := fewer (inv.held (s.ota.holdsPause_of_inSession was))
      omega
  | .pause ota paused sending posts =>
    ⟨by rw [sending, posts, inv.counted], fun _ => paused,
      fun inSession => by rw [ota] at inSession; cases inSession⟩
  | .wait pausing ota drained shared posts =>
    ⟨by rw [shared, posts, inv.counted], fun _ => by rw [shared]; exact inv.held (by rw [pausing]; rfl),
      fun _ => by rw [posts, ← inv.counted, drained]⟩
  | .reply session ota shared posts =>
    ⟨by rw [shared, posts, inv.counted], fun _ => by rw [shared]; exact inv.held (by rw [session]; rfl),
      fun _ => by rw [posts]; exact inv.quiet (by rw [session]; rfl)⟩
  | .release ota sending posts =>
    ⟨by rw [sending, posts, inv.counted], fun holds => (by rw [ota] at holds; cases holds),
      fun inSession => by rw [s'.ota.holdsPause_of_inSession inSession] at ota; cases ota⟩

/-- **The invariant holds in every interleaving.** -/
theorem Reachable.invariant {s : Sys} (reachable : Reachable s) : Invariant s := by
  induction reachable with
  | boot => exact ⟨rfl, fun holds => (by cases holds), fun inSession => (by cases inSession)⟩
  | step a _ stepped inv => exact inv.move (Sys.step_move a stepped)

/-- **No send during an OTA session**: in every interleaving of the four tasks, from the return
of `telemetry.Pause()` until the session replies `VERIFIED` and sleeps, or returns, no task is
inside `sendHTTPPost` and `sendingWg` is zero. -/
theorem no_send_during_session (s : Sys) (reachable : Reachable s) (inSession : s.ota.inSession = true) :
    s.posts = 0 ∧ s.shared.sending = 0 :=
  ⟨reachable.invariant.quiet inSession, reachable.invariant.counted.trans (reachable.invariant.quiet inSession)⟩

/-- The first state of a session, reached by `Pause()` with nothing to wait for. -/
theorem no_send_during_session_first :
    ∃ s, Reachable s ∧ s.ota.inSession = true ∧ s.posts = 0 ∧ s.shared.sending = 0 :=
  ⟨_, Reachable.run .boot [.ota true, .ota true] rfl, rfl,
    no_send_during_session _ (Reachable.run .boot [.ota true, .ota true] rfl) rfl⟩

/-! ## What the pause does not stop -/

/-- **The main loop refreshes during a session**: the OTA task pauses telemetry and its session
starts, and the main loop, which reads no pause flag, enters `syncNTP`. -/
theorem refresh_during_session :
    ∃ s, Reachable s ∧ s.ota = .session ∧ s.main = .syncNTP :=
  ⟨_, Reachable.run .boot [.ota true, .ota true, .main] rfl, rfl, rfl⟩

/-- **Two sends at once**: a log is queued and `senderLoop` starts sending it; while it sleeps in
`sendHTTPPost`, another log is queued and the console's `telemetry-flush` builds a second
payload into `BodyBuf` and starts a second `sendHTTPPost`. -/
theorem concurrent_sends :
    ∃ s, Reachable s ∧ s.sender = .posting .logs 1 ∧ s.console = .posting .logs 2 ∧
      s.shared.builds = 2 ∧ s.shared.sending = 2 :=
  ⟨_, Reachable.run .boot [.log .logs, .sender, .sender, .log .logs, .console, .console] rfl,
    rfl, rfl, rfl, rfl⟩

end Bindicator.Tasks
