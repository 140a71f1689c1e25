/-
**The main loop's wake cycle and the console's `refresh` command.**

The main loop wakes, decides whether to refresh the schedule (`needsScheduleRefresh`: the refresh
interval has passed since `lastScheduleFetch`, or `forceScheduleRefresh` is set, which it clears),
refreshes if so, updates the LEDs, and sleeps in `sleepWithRefreshCheck`: in steps of
`checkInterval`, each a `select` between `<-refreshChan` and `time.After(checkInterval)`. The
console's `refresh` command, on its own goroutine, sends on `refreshChan`, a channel of one slot,
with a `select` whose `default` answers "Refresh already pending"; a receive in the sleep sets
`forceScheduleRefresh` and ends the sleep. TinyGo's tasks scheduler switches goroutines only at
blocking points, so each event below is atomic. A send to a loop blocked in the sleep's `select`
is handed to it; once the timer case is taken, a send before the loop runs again is buffered, and
stays in the channel if that timer step ends the sleep.

* `Loop.step_flags`: what a step does to a request's traces (the count of refreshing cycles,
  `forceScheduleRefresh`, the channel);
* `Loop.run_recorded`, `Loop.run_served`: a request is served, or held in the channel or in
  `forceScheduleRefresh`, and once a sleep has started, held in `forceScheduleRefresh`;
* `refresh_never_lost`: from every state, in every interleaving of both goroutines, a `refresh`
  command is followed by a cycle that refreshes the schedule, at the latest the first one to
  decide after the main loop next starts a sleep, when the wake interval is positive;
* `sleep_whole_pieces`: in every run, a sleep that ends on its timer has lasted the first whole
  number of `checkInterval` pieces at or past its duration, up to five seconds more than asked
  unless the duration is under five seconds or a multiple of them.
-/

import Bindicator.Console.Duration

namespace Bindicator.Main

/-- Where the main loop is. -/
inductive MainPc where
  /-- At the top of the `for` loop, before the refresh decision. -/
  | top
  /-- Past the decision: the refresh, the LEDs, up to `sleepWithRefreshCheck`. -/
  | working
  /-- Blocked in the `select` of `sleepWithRefreshCheck`, `elapsed` of `duration` slept. -/
  | sleeping (elapsed duration : Int)
  /-- The `select` took `time.After`: runnable, at `elapsed += checkInterval`, no longer receiving. -/
  | woken (elapsed duration : Int)
  deriving DecidableEq, Repr

/-- The variables the main loop and the console share for refreshes, and the count of cycles
that decided to refresh (a counter the firmware does not keep). -/
structure Loop where
  pc : MainPc
  /-- The one slot of `refreshChan = make(chan struct{}, 1)`. -/
  refreshPending : Bool
  forceScheduleRefresh : Bool
  debugSleepDuration : Int
  /-- `lastScheduleFetch`, `none` for the zero `time.Time` it starts at. -/
  lastScheduleFetch : Option Int
  refreshes : Nat
  deriving DecidableEq, Repr

/-- At boot: no request, no override, and `lastScheduleFetch = time.Time{}` so the first cycle
refreshes. -/
def bootLoop : Loop := ⟨.top, false, false, 0, none, 0⟩

/-- What the two goroutines do. -/
inductive LoopEvent where
  /-- The console's `refresh` command. -/
  | refresh
  /-- The console's `sleep <dur>`: `debugSleepDuration = dur`. -/
  | setSleep (dur : Int)
  /-- The main loop's refresh decision at `now`. -/
  | decide (now : Int)
  /-- A refresh of this cycle whose fetch succeeded at `now`: `lastScheduleFetch = time.Now()`. -/
  | fetched (now : Int)
  /-- The cycle ends: `sleepWithRefreshCheck` starts. -/
  | sleep
  /-- The timer of the sleep's `select` fires: it takes the `time.After(checkInterval)` case. -/
  | tick
  /-- The main loop runs again after a timer step: `elapsed += checkInterval`, and the loop's head. -/
  | resume
  deriving DecidableEq, Repr

/-- `checkInterval`: five seconds, or the duration when shorter. -/
def checkInterval (duration : Int) : Int := if duration < 5 * second then duration else 5 * second

/-- `needsScheduleRefresh := time.Since(lastScheduleFetch) >= scheduleRefreshInterval ||
forceScheduleRefresh`; `time.Since` of the zero time is past every interval. -/
def needsScheduleRefresh (scheduleRefreshInterval now : Int) (s : Loop) : Bool :=
  (match s.lastScheduleFetch with
    | none => true
    | some last => decide (scheduleRefreshInterval ≤ now - last)) || s.forceScheduleRefresh

/-- The head of the sleep's loop, `for elapsed < duration { feedWatchdogIfHealthy(); select ... }`:
a `select` with a value in `refreshChan` receives it at once and returns. -/
def Loop.sleepLoop (s : Loop) (elapsed duration : Int) : Loop :=
  if elapsed < duration then
    if s.refreshPending then { s with refreshPending := false, forceScheduleRefresh := true, pc := .top }
    else { s with pc := .sleeping elapsed duration }
  else { s with pc := .top }

/-- The console's `select { case refreshChan <- struct\x7b\x7d\x7b\x7d: ...; default: ... }`: whether the
send went through, and the state after it. A full channel takes nothing; a loop blocked in the
sleep's `select` receives the value at once. -/
def Loop.refreshSend (s : Loop) : Bool × Loop :=
  if s.refreshPending then (false, s)
  else match s.pc with
    | .sleeping _ _ => (true, { s with forceScheduleRefresh := true, pc := .top })
    | .top | .working | .woken _ _ => (true, { s with refreshPending := true })

/-- One event, `none` where the main loop is not at the point the event needs. -/
def Loop.step (wakeInterval scheduleRefreshInterval : Int) (s : Loop) : LoopEvent → Option Loop
  | .refresh => some s.refreshSend.2
  | .setSleep dur => some { s with debugSleepDuration := dur }
  | .decide now =>
    if s.pc = .top then
      let needs := needsScheduleRefresh scheduleRefreshInterval now s
      some { s with forceScheduleRefresh := false, pc := .working,
                    refreshes := if needs then s.refreshes + 1 else s.refreshes }
    else none
  | .fetched now => if s.pc = .working then some { s with lastScheduleFetch := some now } else none
  | .sleep =>
    if s.pc = .working then some (s.sleepLoop 0 (Console.sleepOverride s.debugSleepDuration wakeInterval))
    else none
  | .tick =>
    match s.pc with
    | .sleeping elapsed duration => some { s with pc := .woken (elapsed + checkInterval duration) duration }
    | .top | .working | .woken _ _ => none
  | .resume =>
    match s.pc with
    | .woken elapsed duration => some (s.sleepLoop elapsed duration)
    | .top | .working | .sleeping _ _ => none

/-- A run of events, `none` if one cannot happen. -/
def Loop.run (wakeInterval scheduleRefreshInterval : Int) (s : Loop) : List LoopEvent → Option Loop
  | [] => some s
  | e :: es => (s.step wakeInterval scheduleRefreshInterval e).bind fun s' =>
    s'.run wakeInterval scheduleRefreshInterval es

section Refresh

variable {wakeInterval scheduleRefreshInterval : Int} {s s' : Loop}

theorem Loop.sleepLoop_cases (elapsed duration : Int) :
    (elapsed < duration ∧ s.refreshPending = true ∧
        s.sleepLoop elapsed duration = { s with refreshPending := false, forceScheduleRefresh := true, pc := .top }) ∨
      (elapsed < duration ∧ s.refreshPending = false ∧
        s.sleepLoop elapsed duration = { s with pc := .sleeping elapsed duration }) ∨
      (¬elapsed < duration ∧ s.sleepLoop elapsed duration = { s with pc := .top }) := by
  unfold Loop.sleepLoop
  split
  · cases s.refreshPending <;> simp_all
  · simp_all

theorem Loop.step_refresh_cases (stepped : s.step wakeInterval scheduleRefreshInterval .refresh = some s') :
    (s.refreshPending = true ∧ s' = s) ∨
    (s.refreshPending = false ∧ (∃ elapsed duration, s.pc = .sleeping elapsed duration) ∧
      s' = { s with forceScheduleRefresh := true, pc := .top }) ∨
    (s.refreshPending = false ∧ (∀ elapsed duration, s.pc ≠ .sleeping elapsed duration) ∧
      s' = { s with refreshPending := true }) := by
  simp only [Loop.step, Loop.refreshSend, Option.some.injEq] at stepped
  split at stepped
  · exact .inl ⟨‹_›, stepped.symm⟩
  · split at stepped <;> simp_all

theorem Loop.step_decide_cases {now : Int}
    (stepped : s.step wakeInterval scheduleRefreshInterval (.decide now) = some s') :
    s.pc = .top ∧
      s' = { s with forceScheduleRefresh := false, pc := .working,
                    refreshes := if needsScheduleRefresh scheduleRefreshInterval now s then s.refreshes + 1
                      else s.refreshes } := by
  simp only [Loop.step] at stepped
  split at stepped
  · exact ⟨‹_›, (Option.some.inj stepped).symm⟩
  · cases stepped

theorem Loop.step_fetched_cases {now : Int}
    (stepped : s.step wakeInterval scheduleRefreshInterval (.fetched now) = some s') :
    s.pc = .working ∧ s' = { s with lastScheduleFetch := some now } := by
  simp only [Loop.step] at stepped
  split at stepped
  · exact ⟨‹_›, (Option.some.inj stepped).symm⟩
  · cases stepped

theorem Loop.step_sleep_cases (stepped : s.step wakeInterval scheduleRefreshInterval .sleep = some s') :
    s.pc = .working ∧ s' = s.sleepLoop 0 (Console.sleepOverride s.debugSleepDuration wakeInterval) := by
  simp only [Loop.step] at stepped
  split at stepped
  · exact ⟨‹_›, (Option.some.inj stepped).symm⟩
  · cases stepped

theorem Loop.step_tick_cases (stepped : s.step wakeInterval scheduleRefreshInterval .tick = some s') :
    ∃ elapsed duration, s.pc = .sleeping elapsed duration ∧
      s' = { s with pc := .woken (elapsed + checkInterval duration) duration } := by
  simp only [Loop.step] at stepped
  split at stepped
  · exact ⟨_, _, ‹_›, (Option.some.inj stepped).symm⟩
  all_goals cases stepped

theorem Loop.step_resume_cases (stepped : s.step wakeInterval scheduleRefreshInterval .resume = some s') :
    ∃ elapsed duration, s.pc = .woken elapsed duration ∧ s' = s.sleepLoop elapsed duration := by
  simp only [Loop.step] at stepped
  split at stepped
  · exact ⟨_, _, ‹_›, (Option.some.inj stepped).symm⟩
  all_goals cases stepped

/-- The sleep's loop head keeps the count and `forceScheduleRefresh`, and empties the channel only
into `forceScheduleRefresh`. -/
theorem Loop.sleepLoop_flags (elapsed duration : Int) :
    (s.sleepLoop elapsed duration).refreshes = s.refreshes ∧
    (s.forceScheduleRefresh = true → (s.sleepLoop elapsed duration).forceScheduleRefresh = true) ∧
    (s.refreshPending = true →
      (s.sleepLoop elapsed duration).refreshPending = true ∨ (s.sleepLoop elapsed duration).forceScheduleRefresh = true) := by
  rcases Loop.sleepLoop_cases (s := s) elapsed duration with ⟨-, -, loop⟩ | ⟨-, -, loop⟩ | ⟨-, loop⟩ <;> rw [loop]
  · exact ⟨rfl, fun _ => rfl, fun _ => .inr rfl⟩
  all_goals exact ⟨rfl, id, .inl⟩

/-- **What a step does to a request**: the count of refreshing cycles never goes down, a set
`forceScheduleRefresh` is only cleared by a cycle that refreshes, and a full `refreshChan` is only
emptied into `forceScheduleRefresh`. -/
theorem Loop.step_flags {e : LoopEvent} (stepped : s.step wakeInterval scheduleRefreshInterval e = some s') :
    s.refreshes ≤ s'.refreshes ∧
    (s.forceScheduleRefresh = true → s'.forceScheduleRefresh = true ∨ s.refreshes < s'.refreshes) ∧
    (s.refreshPending = true → s'.refreshPending = true ∨ s'.forceScheduleRefresh = true) := by
  cases e with
  | refresh =>
    rcases Loop.step_refresh_cases stepped with ⟨-, rfl⟩ | ⟨-, -, rfl⟩ | ⟨-, -, rfl⟩
    · exact ⟨le_rfl, .inl, .inl⟩
    · exact ⟨le_rfl, fun _ => .inl rfl, fun _ => .inr rfl⟩
    · exact ⟨le_rfl, .inl, fun _ => .inl rfl⟩
  | setSleep dur =>
    cases stepped
    exact ⟨le_rfl, .inl, .inl⟩
  | decide now =>
    obtain ⟨-, rfl⟩ := Loop.step_decide_cases stepped
    refine ⟨?_, fun forced => .inr ?_, .inl⟩
    · split <;> simp
    · simp [needsScheduleRefresh, forced]
  | fetched now =>
    obtain ⟨-, rfl⟩ := Loop.step_fetched_cases stepped
    exact ⟨le_rfl, .inl, .inl⟩
  | sleep =>
    obtain ⟨-, rfl⟩ := Loop.step_sleep_cases stepped
    obtain ⟨same, forced, pending⟩ := Loop.sleepLoop_flags (s := s) 0 (Console.sleepOverride s.debugSleepDuration wakeInterval)
    exact ⟨same.ge, fun force => .inl (forced force), pending⟩
  | tick =>
    obtain ⟨_, _, -, rfl⟩ := Loop.step_tick_cases stepped
    exact ⟨le_rfl, .inl, .inl⟩
  | resume =>
    obtain ⟨elapsed, duration, -, rfl⟩ := Loop.step_resume_cases stepped
    obtain ⟨same, forced, pending⟩ := Loop.sleepLoop_flags (s := s) elapsed duration
    exact ⟨same.ge, fun force => .inl (forced force), pending⟩

/-- A request made when `n` cycles had refreshed: served since, or held in `forceScheduleRefresh`
or in `refreshChan`. -/
def Recorded (n : Nat) (s : Loop) : Prop :=
  n ≤ s.refreshes ∧ (n < s.refreshes ∨ s.forceScheduleRefresh = true ∨ s.refreshPending = true)

/-- The same request once the main loop has slept: served, or held in `forceScheduleRefresh`. -/
def Served (n : Nat) (s : Loop) : Prop := n ≤ s.refreshes ∧ (n < s.refreshes ∨ s.forceScheduleRefresh = true)

/-- A `refresh` command is recorded: the channel was full, or it is now, or the sleeping loop
received it. -/
theorem Loop.step_refresh_recorded (stepped : s.step wakeInterval scheduleRefreshInterval .refresh = some s') :
    Recorded s.refreshes s' := by
  rcases Loop.step_refresh_cases stepped with ⟨pending, rfl⟩ | ⟨-, -, rfl⟩ | ⟨-, -, rfl⟩
  · exact ⟨le_rfl, .inr (.inr pending)⟩
  · exact ⟨le_rfl, .inr (.inl rfl)⟩
  · exact ⟨le_rfl, .inr (.inr rfl)⟩

/-- **Every event keeps a recorded request recorded.** -/
theorem Loop.step_recorded {n : Nat} {e : LoopEvent} (recorded : Recorded n s)
    (stepped : s.step wakeInterval scheduleRefreshInterval e = some s') : Recorded n s' := by
  obtain ⟨more, forced, pending⟩ := Loop.step_flags stepped
  obtain ⟨before, done | force | full⟩ := recorded
  · exact ⟨before.trans more, .inl (Nat.lt_of_lt_of_le done more)⟩
  · rcases forced force with still | done
    · exact ⟨before.trans more, .inr (.inl still)⟩
    · exact ⟨before.trans more, .inl (Nat.lt_of_le_of_lt before done)⟩
  · rcases pending full with still | force
    · exact ⟨before.trans more, .inr (.inr still)⟩
    · exact ⟨before.trans more, .inr (.inl force)⟩

/-- **Every event keeps a served request served.** -/
theorem Loop.step_served {n : Nat} {e : LoopEvent} (served : Served n s)
    (stepped : s.step wakeInterval scheduleRefreshInterval e = some s') : Served n s' := by
  obtain ⟨more, forced, -⟩ := Loop.step_flags stepped
  obtain ⟨before, done | force⟩ := served
  · exact ⟨before.trans more, .inl (Nat.lt_of_lt_of_le done more)⟩
  · rcases forced force with still | done
    · exact ⟨before.trans more, .inr still⟩
    · exact ⟨before.trans more, .inl (Nat.lt_of_le_of_lt before done)⟩

/-- **Once a sleep of positive length starts, a recorded request is held in
`forceScheduleRefresh`**: the sleep's first `select` receives what the channel holds. -/
theorem Loop.step_sleep_served {n : Nat} (awake : 0 < wakeInterval) (recorded : Recorded n s)
    (stepped : s.step wakeInterval scheduleRefreshInterval .sleep = some s') : Served n s' := by
  have positive : 0 < Console.sleepOverride s.debugSleepDuration wakeInterval := by
    unfold Console.sleepOverride
    split <;> omega
  obtain ⟨-, rfl⟩ := Loop.step_sleep_cases stepped
  obtain ⟨before, held⟩ := recorded
  rcases Loop.sleepLoop_cases (s := s) 0 (Console.sleepOverride s.debugSleepDuration wakeInterval) with
    ⟨-, -, loop⟩ | ⟨-, empty, loop⟩ | ⟨short, -⟩
  · rw [loop]
    exact ⟨before, .inr rfl⟩
  · rw [loop]
    rcases held with done | force | full
    · exact ⟨before, .inl done⟩
    · exact ⟨before, .inr force⟩
    · exact absurd (empty.symm.trans full) Bool.false_ne_true
  · exact absurd positive short

/-- A decision on a served request refreshes, unless an earlier cycle did. -/
theorem Loop.step_decide_served {n : Nat} {now : Int} (served : Served n s)
    (stepped : s.step wakeInterval scheduleRefreshInterval (.decide now) = some s') : n < s'.refreshes := by
  obtain ⟨before, done | force⟩ := served
  · exact Nat.lt_of_lt_of_le done (Loop.step_flags stepped).1
  · obtain ⟨-, rfl⟩ := Loop.step_decide_cases stepped
    simp [needsScheduleRefresh, force, Nat.lt_succ_of_le before]

theorem Loop.run_cons_some {e : LoopEvent} {es : List LoopEvent} {final : Loop}
    (ran : s.run wakeInterval scheduleRefreshInterval (e :: es) = some final) :
    ∃ s', s.step wakeInterval scheduleRefreshInterval e = some s' ∧
      s'.run wakeInterval scheduleRefreshInterval es = some final :=
  Option.bind_eq_some.mp ran

theorem Loop.run_append_some {es more : List LoopEvent} {final : Loop}
    (ran : s.run wakeInterval scheduleRefreshInterval (es ++ more) = some final) :
    ∃ mid, s.run wakeInterval scheduleRefreshInterval es = some mid ∧
      mid.run wakeInterval scheduleRefreshInterval more = some final := by
  induction es generalizing s with
  | nil => exact ⟨s, rfl, ran⟩
  | cons e es ih =>
    obtain ⟨s', stepped, rest⟩ := Loop.run_cons_some ran
    obtain ⟨mid, first, second⟩ := ih rest
    exact ⟨mid, by rw [Loop.run, stepped, Option.some_bind, first], second⟩

/-- A whole run keeps a recorded request recorded. -/
theorem Loop.run_recorded {n : Nat} (es : List LoopEvent) {final : Loop} (recorded : Recorded n s)
    (ran : s.run wakeInterval scheduleRefreshInterval es = some final) : Recorded n final := by
  induction es generalizing s with
  | nil => cases ran; exact recorded
  | cons e es ih =>
    obtain ⟨s', stepped, rest⟩ := Loop.run_cons_some ran
    exact ih (Loop.step_recorded recorded stepped) rest

/-- A whole run keeps a served request served. -/
theorem Loop.run_served {n : Nat} (es : List LoopEvent) {final : Loop} (served : Served n s)
    (ran : s.run wakeInterval scheduleRefreshInterval es = some final) : Served n final := by
  induction es generalizing s with
  | nil => cases ran; exact served
  | cons e es ih =>
    obtain ⟨s', stepped, rest⟩ := Loop.run_cons_some ran
    exact ih (Loop.step_served served stepped) rest

/-- Blocked in the sleep's `select`, the main loop has an empty channel: a `select` receives what
the channel holds before it blocks. -/
def Loop.Settled (s : Loop) : Prop :=
  ∀ elapsed duration, s.pc = .sleeping elapsed duration → s.refreshPending = false

theorem Loop.sleepLoop_settled (elapsed duration : Int) : (s.sleepLoop elapsed duration).Settled := by
  rcases Loop.sleepLoop_cases (s := s) elapsed duration with ⟨-, -, loop⟩ | ⟨-, empty, loop⟩ | ⟨-, loop⟩ <;>
    rw [loop] <;> intro _ _ asleep
  · cases asleep
  · exact empty
  · cases asleep

/-- **Every event keeps the sleeping loop's channel empty.** -/
theorem Loop.step_settled {e : LoopEvent} (settled : s.Settled)
    (stepped : s.step wakeInterval scheduleRefreshInterval e = some s') : s'.Settled := by
  cases e with
  | refresh =>
    rcases Loop.step_refresh_cases stepped with ⟨-, rfl⟩ | ⟨-, -, rfl⟩ | ⟨-, awake, rfl⟩
    · exact settled
    · intro _ _ asleep; cases asleep
    · intro elapsed duration asleep; exact absurd asleep (awake elapsed duration)
  | setSleep dur =>
    cases stepped
    exact settled
  | decide now =>
    obtain ⟨-, rfl⟩ := Loop.step_decide_cases stepped
    intro _ _ asleep; cases asleep
  | fetched now =>
    obtain ⟨working, rfl⟩ := Loop.step_fetched_cases stepped
    intro _ _ asleep; exact absurd (working.symm.trans asleep) MainPc.noConfusion
  | sleep =>
    obtain ⟨-, rfl⟩ := Loop.step_sleep_cases stepped
    exact Loop.sleepLoop_settled _ _
  | tick =>
    obtain ⟨_, _, -, rfl⟩ := Loop.step_tick_cases stepped
    intro _ _ asleep; cases asleep
  | resume =>
    obtain ⟨_, _, -, rfl⟩ := Loop.step_resume_cases stepped
    exact Loop.sleepLoop_settled _ _

theorem Loop.run_settled (es : List LoopEvent) {final : Loop} (settled : s.Settled)
    (ran : s.run wakeInterval scheduleRefreshInterval es = some final) : final.Settled := by
  induction es generalizing s with
  | nil => cases ran; exact settled
  | cons e es ih =>
    obtain ⟨s', stepped, rest⟩ := Loop.run_cons_some ran
    exact ih (Loop.step_settled settled stepped) rest

theorem bootLoop_settled : bootLoop.Settled := by
  intro _ _ asleep
  cases asleep

end Refresh

/-- **A `refresh` command is never lost**: from every state of the main loop and the console, in
every interleaving of their steps, a `refresh` (answered "Refresh triggered" or "Refresh already
pending") is followed by a cycle that refreshes the schedule, at the latest the first one to
decide after the main loop next starts to sleep, when the wake interval is positive (a
`debugSleepDuration` override counts only when positive). -/
theorem refresh_never_lost (wakeInterval scheduleRefreshInterval : Int) (awake : 0 < wakeInterval) (s : Loop)
    (middle rest : List LoopEvent) (now : Int) (final : Loop)
    (ran : s.run wakeInterval scheduleRefreshInterval (.refresh :: middle ++ .sleep :: rest ++ [.decide now]) =
      some final) :
    s.refreshes < final.refreshes := by
  simp only [List.cons_append, List.append_assoc] at ran
  obtain ⟨requested, stepped, ran⟩ := Loop.run_cons_some ran
  obtain ⟨beforeSleep, toSleep, ran⟩ := Loop.run_append_some ran
  obtain ⟨slept, sleepStep, ran⟩ := Loop.run_cons_some ran
  obtain ⟨beforeDecide, toDecide, decided⟩ := Loop.run_append_some ran
  obtain ⟨decision, decideStep, done⟩ := Loop.run_cons_some decided
  cases done
  have recorded := Loop.run_recorded middle (Loop.step_refresh_recorded stepped) toSleep
  have served := Loop.run_served rest (Loop.step_sleep_served awake recorded sleepStep) toDecide
  exact Loop.step_decide_served served decideStep


/-- A `refresh` while the cycle works, with the schedule fetched and not due: the sleep's first
`select` takes it from the channel, and the next decision refreshes. -/
theorem refresh_never_lost_working :
    (0 : Int) < 15 * minute ∧
    (⟨.working, false, false, 0, some 0, 0⟩ : Loop).run (15 * minute) (180 * minute)
        (.refresh :: [] ++ .sleep :: [] ++ [.decide (5 * minute)]) = some ⟨.working, false, false, 0, some 0, 1⟩ ∧
    (⟨.working, false, false, 0, some 0, 0⟩ : Loop).refreshes < (⟨.working, false, false, 0, some 0, 1⟩ : Loop).refreshes :=
  have ran : (⟨.working, false, false, 0, some 0, 0⟩ : Loop).run (15 * minute) (180 * minute)
      (.refresh :: [] ++ .sleep :: [] ++ [.decide (5 * minute)]) = some ⟨.working, false, false, 0, some 0, 1⟩ := by
    decide
  ⟨by decide, ran, refresh_never_lost _ _ (by decide) _ [] [] _ _ ran⟩

/-- **A `refresh` ends a sleep at once**: in every state reached from boot in which the main loop is
blocked in the sleep's `select`, the console's `refresh` is received there, which sets
`forceScheduleRefresh` and returns to the top of the loop; the next decision refreshes. -/
theorem refresh_ends_sleep (wakeInterval scheduleRefreshInterval : Int) (before : List LoopEvent) (s : Loop)
    (reached : bootLoop.run wakeInterval scheduleRefreshInterval before = some s) (elapsed duration : Int)
    (asleep : s.pc = .sleeping elapsed duration) :
    s.step wakeInterval scheduleRefreshInterval .refresh = some { s with forceScheduleRefresh := true, pc := .top } ∧
    ∀ middle now final, s.run wakeInterval scheduleRefreshInterval (.refresh :: middle ++ [.decide now]) = some final →
      s.refreshes < final.refreshes := by
  have empty := Loop.run_settled before bootLoop_settled reached elapsed duration asleep
  have received : s.step wakeInterval scheduleRefreshInterval .refresh =
      some { s with forceScheduleRefresh := true, pc := .top } := by
    simp only [Loop.step, Loop.refreshSend, empty, asleep]
    rfl
  refine ⟨received, fun middle now final ran => ?_⟩
  obtain ⟨requested, stepped, ran⟩ := Loop.run_cons_some ran
  rw [received, Option.some.injEq] at stepped
  have served : Served s.refreshes requested := stepped ▸ ⟨le_rfl, .inr rfl⟩
  obtain ⟨beforeDecide, toDecide, decided⟩ := Loop.run_append_some ran
  obtain ⟨decision, decideStep, done⟩ := Loop.run_cons_some decided
  cases done
  exact Loop.step_decide_served (Loop.run_served middle served toDecide) decideStep

/-- The first cycle after boot refreshes and sleeps; a `refresh` during that sleep ends it. -/
theorem refresh_ends_sleep_boot :
    bootLoop.run (15 * minute) (180 * minute) [.decide 0, .sleep] = some ⟨.sleeping 0 (15 * minute), false, false, 0, none, 1⟩ ∧
    (⟨.sleeping 0 (15 * minute), false, false, 0, none, 1⟩ : Loop).pc = .sleeping 0 (15 * minute) ∧
    ((⟨.sleeping 0 (15 * minute), false, false, 0, none, 1⟩ : Loop).step (15 * minute) (180 * minute) .refresh =
        some ⟨.top, false, true, 0, none, 1⟩ ∧
      ∀ middle now final, (⟨.sleeping 0 (15 * minute), false, false, 0, none, 1⟩ : Loop).run (15 * minute) (180 * minute)
        (.refresh :: middle ++ [.decide now]) = some final → 1 < final.refreshes) :=
  have reached : bootLoop.run (15 * minute) (180 * minute) [.decide 0, .sleep] =
      some ⟨.sleeping 0 (15 * minute), false, false, 0, none, 1⟩ := by
    decide
  ⟨reached, rfl, refresh_ends_sleep _ _ _ _ reached _ _ rfl⟩


/-! ## How long a sleep lasts -/

/-- Where a sleep's timer stands: asleep, `elapsed` is a whole number of `checkInterval` pieces
short of `duration`; woken, one more piece has run. -/
def MainPc.Timed : MainPc → Prop
  | .sleeping elapsed duration => 0 ≤ elapsed ∧ elapsed < duration ∧ checkInterval duration ∣ elapsed
  | .woken elapsed duration =>
    0 ≤ elapsed - checkInterval duration ∧ elapsed - checkInterval duration < duration ∧
      checkInterval duration ∣ elapsed
  | .top | .working => True

section Pieces

variable {wakeInterval scheduleRefreshInterval : Int} {s s' : Loop}

theorem checkInterval_pos {duration : Int} (pos : 0 < duration) : 0 < checkInterval duration := by
  simp only [checkInterval, second]
  split <;> omega

/-- The sleep's loop head waits only short of the duration. -/
theorem Loop.sleepLoop_timed {elapsed : Int} (duration : Int) (nonneg : 0 ≤ elapsed)
    (whole : checkInterval duration ∣ elapsed) : (s.sleepLoop elapsed duration).pc.Timed := by
  rcases Loop.sleepLoop_cases (s := s) elapsed duration with ⟨-, -, loop⟩ | ⟨short, -, loop⟩ | ⟨-, loop⟩ <;>
    rw [loop]
  · trivial
  · exact ⟨nonneg, short, whole⟩
  · trivial

/-- **Every event keeps the sleep's timer at whole pieces**: a timer step adds one piece to a sleep
short of its duration, and the loop head sleeps again only while it is still short. -/
theorem Loop.step_timed {e : LoopEvent} (timed : s.pc.Timed)
    (stepped : s.step wakeInterval scheduleRefreshInterval e = some s') : s'.pc.Timed := by
  cases e with
  | refresh =>
    rcases Loop.step_refresh_cases stepped with ⟨-, rfl⟩ | ⟨-, -, rfl⟩ | ⟨-, -, rfl⟩
    · exact timed
    · trivial
    · exact timed
  | setSleep dur =>
    cases stepped
    exact timed
  | decide now =>
    obtain ⟨-, rfl⟩ := Loop.step_decide_cases stepped
    trivial
  | fetched now =>
    obtain ⟨-, rfl⟩ := Loop.step_fetched_cases stepped
    exact timed
  | sleep =>
    obtain ⟨-, rfl⟩ := Loop.step_sleep_cases stepped
    exact Loop.sleepLoop_timed _ le_rfl (dvd_zero _)
  | tick =>
    obtain ⟨elapsed, duration, asleep, rfl⟩ := Loop.step_tick_cases stepped
    rw [asleep] at timed
    obtain ⟨nonneg, short, whole⟩ := timed
    simp only [MainPc.Timed, add_sub_cancel_right]
    exact ⟨nonneg, short, dvd_add whole dvd_rfl⟩
  | resume =>
    obtain ⟨elapsed, duration, awake, rfl⟩ := Loop.step_resume_cases stepped
    rw [awake] at timed
    obtain ⟨before, short, whole⟩ := timed
    have piece := checkInterval_pos (show 0 < duration by omega)
    exact Loop.sleepLoop_timed _ (by omega) whole

theorem Loop.run_timed (events : List LoopEvent) {final : Loop} (timed : s.pc.Timed)
    (ran : s.run wakeInterval scheduleRefreshInterval events = some final) : final.pc.Timed := by
  induction events generalizing s with
  | nil =>
    cases ran
    exact timed
  | cons e es ih =>
    obtain ⟨s', stepped, rest⟩ := Loop.run_cons_some ran
    exact ih (Loop.step_timed timed stepped) rest

end Pieces

/-- A whole number of pieces of `duration`, at least `duration` and less than two pieces, is one. -/
theorem one_piece {duration elapsed : Int} (pos : 0 < duration) (whole : duration ∣ elapsed)
    (ending : duration ≤ elapsed) (short : elapsed - duration < duration) : elapsed = duration := by
  obtain ⟨k, rfl⟩ := whole
  have atLeast : 1 ≤ k := le_of_mul_le_mul_left (by rwa [mul_one]) pos
  have below : k < 2 := lt_of_mul_lt_mul_left (by linarith) pos.le
  rw [show k = 1 by omega, mul_one]

/-- **A sleep runs to whole pieces**: in every state reached from boot, in every interleaving with
the console, once a timer step has taken a sleep of `duration` to its end (the loop head returns
to the top), the main loop has slept the first whole number of `checkInterval` pieces at or past
`duration`, less than a piece, so less than five seconds, more; exactly `duration` when that is
under five seconds or a multiple of them, and more otherwise. -/
theorem sleep_whole_pieces (wakeInterval scheduleRefreshInterval : Int) (events : List LoopEvent) (s : Loop)
    (reached : bootLoop.run wakeInterval scheduleRefreshInterval events = some s) (elapsed duration : Int)
    (awake : s.pc = .woken elapsed duration) (ending : duration ≤ elapsed) :
    checkInterval duration ∣ elapsed ∧ elapsed < duration + checkInterval duration ∧
      (elapsed = duration ↔ duration < 5 * second ∨ 5 * second ∣ duration) := by
  have timed := Loop.run_timed events (s := bootLoop) trivial reached
  rw [awake] at timed
  obtain ⟨before, short, whole⟩ := timed
  refine ⟨whole, by omega, ?_⟩
  by_cases small : duration < 5 * second
  · rw [checkInterval, if_pos small] at short whole
    exact ⟨fun _ => .inl small, fun _ => one_piece (by omega) whole ending short⟩
  · rw [checkInterval, if_neg small] at short whole
    simp only [second] at small short whole ⊢
    constructor <;> intro <;> omega

/-- A twelve-second wake interval sleeps three five-second pieces, fifteen seconds. -/
theorem sleep_whole_pieces_twelve :
    bootLoop.run (12 * second) (180 * minute) [.decide 0, .sleep, .tick, .resume, .tick, .resume, .tick] =
      some ⟨.woken (15 * second) (12 * second), false, false, 0, none, 1⟩ ∧
    (⟨.woken (15 * second) (12 * second), false, false, 0, none, 1⟩ : Loop).pc = .woken (15 * second) (12 * second) ∧
    12 * second ≤ 15 * second ∧
    (checkInterval (12 * second) ∣ 15 * second ∧ 15 * second < 12 * second + checkInterval (12 * second) ∧
      (15 * second = 12 * second ↔ 12 * second < 5 * second ∨ 5 * second ∣ 12 * second)) :=
  have reached : bootLoop.run (12 * second) (180 * minute) [.decide 0, .sleep, .tick, .resume, .tick, .resume, .tick] =
      some ⟨.woken (15 * second) (12 * second), false, false, 0, none, 1⟩ := by
    decide
  ⟨reached, rfl, by decide, sleep_whole_pieces _ _ _ _ reached _ _ rfl (by decide)⟩

end Bindicator.Main
