/-
**The OTA access window.**

The server listens only while `OTAIsEnabled()`. `OTAEnable(d)` opens the window for `d`, or for
`otaDefaultTimeout` when `d = 0`; `OTADisable` closes it; the expiry is lazy: `OTAIsEnabled`
clears `otaEnabled` when it finds `time.Since(otaEnabledAt) > otaTimeout`. Times are the
monotonic clock and durations are `time.Duration` nanoseconds, as integers. Each call holds
`otaMu` for its whole body, so the calls are atomic and a run is a list of timed calls; the log
lines are not modelled.

* `Window.call_agrees`: **one call** answers what the last enable or disable says, and keeps
  the window agreeing with it;
* `runWindow_eq_runSpec`: **every run** at non-decreasing times answers as `runSpec`: open
  while `now - t0 ≤ eff(d)` after `OTAEnable(d)` at `t0`, with `eff(d) - (now - t0)` remaining;
  the lazy clearing is never seen;
* `windowOpen_iff`: the window is open exactly while time is left, and at its last instant
  `now - t0 = eff(d)`;
* `window_last_instant`: at that instant `OTAIsEnabled()` is still true while
  `OTATimeRemaining()` is already `0`.
-/

import Mathlib.Tactic.SplitIfs

namespace Bindicator.Ota

/-- `otaDefaultTimeout = 10 * time.Minute`, in nanoseconds. -/
def otaDefaultTimeout : Int := 10 * 60 * 1000000000

/-- The variables `otaEnabled`, `otaEnabledAt` and `otaTimeout`. -/
structure Window where
  enabled : Bool
  enabledAt : Int
  timeout : Int
  deriving DecidableEq, Repr

/-- At boot: the zero values, disabled. -/
def bootWindow : Window := ⟨false, 0, 0⟩

/-- `OTAEnable(timeout)` at `now`. -/
def otaEnable (now timeout : Int) : Window :=
  ⟨true, now, if timeout = 0 then otaDefaultTimeout else timeout⟩

/-- `OTADisable()`. -/
def Window.otaDisable (w : Window) : Window := { w with enabled := false }

/-- `OTAIsEnabled()` at `now`: the answer and the variables after it. -/
def Window.otaIsEnabled (w : Window) (now : Int) : Bool × Window :=
  if !w.enabled then (false, w)
  else if now - w.enabledAt > w.timeout then (false, { w with enabled := false })
  else (true, w)

/-- `OTATimeRemaining()` at `now`. -/
def Window.otaTimeRemaining (w : Window) (now : Int) : Int :=
  if !w.enabled then 0
  else
    let remaining := w.timeout - (now - w.enabledAt)
    if remaining < 0 then 0 else remaining

theorem Window.otaIsEnabled_off {w : Window} {now : Int} (off : w.enabled = false) :
    w.otaIsEnabled now = (false, w) := by
  simp [Window.otaIsEnabled, off]

theorem Window.otaIsEnabled_on {w : Window} {now : Int} (enabled : w.enabled = true) :
    w.otaIsEnabled now = if now - w.enabledAt ≤ w.timeout then (true, w) else (false, w.otaDisable) := by
  simp only [Window.otaIsEnabled, enabled, Bool.not_true, Bool.false_eq_true, if_false, Window.otaDisable]
  split_ifs <;> first | rfl | omega

theorem Window.otaTimeRemaining_off {w : Window} {now : Int} (off : w.enabled = false) :
    w.otaTimeRemaining now = 0 := by
  simp [Window.otaTimeRemaining, off]

/-- While on, the time left is what is left of the timeout, `0` once past it. -/
theorem Window.otaTimeRemaining_on {w : Window} {now : Int} (enabled : w.enabled = true) :
    w.otaTimeRemaining now =
      if now - w.enabledAt ≤ w.timeout then w.timeout - (now - w.enabledAt) else 0 := by
  simp only [Window.otaTimeRemaining, enabled, Bool.not_true, Bool.false_eq_true, if_false]
  split_ifs <;> omega

/-- The four calls. -/
inductive Call where
  | enable (timeout : Int)
  | disable
  | isEnabled
  | timeRemaining
  deriving DecidableEq, Repr

/-- What a call returns: nothing, a `bool`, or a duration. -/
inductive Answer where
  | none
  | enabled (answer : Bool)
  | remaining (duration : Int)
  deriving DecidableEq, Repr

/-- One call at `now`, under `otaMu`. -/
def Window.call (w : Window) (now : Int) : Call → Answer × Window
  | .enable timeout => (.none, otaEnable now timeout)
  | .disable => (.none, w.otaDisable)
  | .isEnabled => (.enabled (w.otaIsEnabled now).1, (w.otaIsEnabled now).2)
  | .timeRemaining => (.remaining (w.otaTimeRemaining now), w)

/-- The answers of a run of timed calls. -/
def runWindow (w : Window) : List (Int × Call) → List Answer
  | [] => []
  | (now, c) :: calls => (w.call now c).1 :: runWindow (w.call now c).2 calls

/-! ## The window as meant: the last enable or disable decides -/

/-- `eff(d)`: the duration asked for, or the default when none is. -/
def effTimeout (d : Int) : Int := if 0 < d then d else otaDefaultTimeout

/-- Open at `now` after `OTAEnable(d)` at `t0`. -/
def windowOpen (t0 d now : Int) : Bool := now - t0 ≤ effTimeout d

/-- The time left at `now` after `OTAEnable(d)` at `t0`. -/
def windowLeft (t0 d now : Int) : Int := if windowOpen t0 d now then effTimeout d - (now - t0) else 0

/-- The answer of a call, given the last enable (`some (t0, d)`) or a disable (`none`). -/
def specAnswer (last : Option (Int × Int)) (now : Int) : Call → Answer
  | .enable _ | .disable => .none
  | .isEnabled => .enabled (match last with | some (t0, d) => windowOpen t0 d now | none => false)
  | .timeRemaining => .remaining (match last with | some (t0, d) => windowLeft t0 d now | none => 0)

/-- The last enable or disable after a call. -/
def specLast (last : Option (Int × Int)) (now : Int) : Call → Option (Int × Int)
  | .enable d => some (now, d)
  | .disable => none
  | _ => last

/-- The answers the window is meant to give. -/
def runSpec (last : Option (Int × Int)) : List (Int × Call) → List Answer
  | [] => []
  | (now, c) :: calls => specAnswer last now c :: runSpec (specLast last now c) calls

/-! ## The variables against the last enable or disable -/

/-- After a disable the window is off; after `OTAEnable(d)` at `t0` it holds `t0` and `eff(d)`,
and is off only once past its end. -/
def Agrees (w : Window) (now : Int) : Option (Int × Int) → Prop
  | none => w.enabled = false
  | some (t0, d) => w.enabledAt = t0 ∧ w.timeout = effTimeout d ∧ t0 ≤ now ∧
      (w.enabled = false → effTimeout d < now - t0)

/-- Agreement survives the clock moving on. -/
theorem Agrees.later {w : Window} {now later : Int} {last : Option (Int × Int)}
    (agrees : Agrees w now last) (moved : now ≤ later) : Agrees w later last := by
  match last, agrees with
  | none, off => exact off
  | some (t0, d), ⟨at0, timeout, started, expired⟩ =>
    exact ⟨at0, timeout, by omega, fun off => by have := expired off; omega⟩

/-- The code's timeout for a duration that is not negative is `eff(d)`. -/
theorem enable_timeout (d : Int) (nonneg : 0 ≤ d) :
    (if d = 0 then otaDefaultTimeout else d) = effTimeout d := by
  unfold effTimeout
  split_ifs <;> first | rfl | omega

/-- **One call answers what the last enable or disable says**, and keeps the window agreeing
with its successor. -/
theorem Window.call_agrees {w : Window} {now : Int} {last : Option (Int × Int)} (c : Call)
    (agrees : Agrees w now last) (nonneg : ∀ d, c = .enable d → 0 ≤ d) :
    (w.call now c).1 = specAnswer last now c ∧ Agrees (w.call now c).2 now (specLast last now c) := by
  cases c with
  | enable d => exact ⟨rfl, rfl, enable_timeout d (nonneg d rfl), Int.le_refl _, nofun⟩
  | disable => exact ⟨rfl, rfl⟩
  | isEnabled =>
    rcases last with _ | ⟨t0, d⟩
    · have off : w.enabled = false := agrees
      simp only [Window.call, Window.otaIsEnabled_off off]
      exact ⟨rfl, off⟩
    obtain ⟨enabledAt, timeout, started, expired⟩ := agrees
    cases enabled : w.enabled
    · simp only [Window.call, Window.otaIsEnabled_off enabled, specAnswer, specLast, windowOpen]
      exact ⟨by simp [Int.not_le.mpr (expired enabled)], enabledAt, timeout, started, expired⟩
    · simp only [Window.call, Window.otaIsEnabled_on enabled, enabledAt, timeout, specAnswer,
        specLast, windowOpen]
      split_ifs with within
      · exact ⟨by simpa using within, enabledAt, timeout, started, by simp [enabled]⟩
      · exact ⟨by simpa using within, enabledAt, timeout, started, fun _ => by omega⟩
  | timeRemaining =>
    refine ⟨?_, agrees⟩
    rcases last with _ | ⟨t0, d⟩
    · simp only [Window.call, Window.otaTimeRemaining_off (show w.enabled = false from agrees)]
      rfl
    obtain ⟨enabledAt, timeout, started, expired⟩ := agrees
    cases enabled : w.enabled
    · simp only [Window.call, Window.otaTimeRemaining_off enabled, specAnswer, windowLeft, windowOpen,
        decide_eq_true_eq]
      rw [if_neg (Int.not_le.mpr (expired enabled))]
    · simp only [Window.call, Window.otaTimeRemaining_on enabled, enabledAt, timeout, specAnswer,
        windowLeft, windowOpen, decide_eq_true_eq]

/-- **Every run at non-decreasing times answers as the window is meant to**, from any variables
that agree with the last enable or disable. -/
theorem runWindow_agrees (calls : List (Int × Call)) (w : Window) (now : Int)
    (last : Option (Int × Int)) (agrees : Agrees w now last)
    (later : ∀ c ∈ calls, now ≤ c.1) (sorted : calls.Pairwise fun a b => a.1 ≤ b.1)
    (nonneg : ∀ t d, (t, Call.enable d) ∈ calls → 0 ≤ d) :
    runWindow w calls = runSpec last calls := by
  induction calls generalizing w now last with
  | nil => rfl
  | cons call calls ih =>
    obtain ⟨t, c⟩ := call
    obtain ⟨after, sorted⟩ := List.pairwise_cons.mp sorted
    have step := Window.call_agrees c ((agrees.later (later _ (List.mem_cons_self _ _))))
      fun d same => nonneg t d (same ▸ List.mem_cons_self _ _)
    rw [runWindow, runSpec, step.1, ih _ t _ step.2 after sorted
      fun t' d mem => nonneg t' d (List.mem_cons_of_mem _ mem)]

/-- The window is open exactly while time is left, and at its last instant. -/
theorem windowOpen_iff (t0 d now : Int) :
    windowOpen t0 d now = true ↔ 0 < windowLeft t0 d now ∨ now - t0 = effTimeout d := by
  unfold windowLeft
  cases isOpen : windowOpen t0 d now
  · simp only [windowOpen, decide_eq_false_iff_not, Int.not_le] at isOpen
    simp only [Bool.false_eq_true, if_false, Int.lt_irrefl, false_or, false_iff]
    omega
  · simp only [windowOpen, decide_eq_true_eq] at isOpen
    simp only [if_true, true_iff]
    omega

/-- **The access window from boot**: for every run at non-decreasing times and with no negative
duration, `OTAIsEnabled()` answers whether `now - t0 ≤ eff(d)` after the last call was
`OTAEnable(d)` at `t0` (and `false` after `OTADisable` or none), and `OTATimeRemaining()`
answers `eff(d) - (now - t0)` then and `0` otherwise; so the window is open exactly while time is
left and at its last instant. -/
theorem runWindow_eq_runSpec (calls : List (Int × Call))
    (sorted : calls.Pairwise fun a b => a.1 ≤ b.1)
    (nonneg : ∀ t d, (t, Call.enable d) ∈ calls → 0 ≤ d) :
    runWindow bootWindow calls = runSpec none calls ∧
      ∀ t0 d now, windowOpen t0 d now = true ↔ 0 < windowLeft t0 d now ∨ now - t0 = effTimeout d := by
  refine ⟨?_, windowOpen_iff⟩
  match calls with
  | [] => rfl
  | (t, c) :: rest =>
    exact runWindow_agrees ((t, c) :: rest) bootWindow t none rfl
      (fun call mem => by
        rcases List.mem_cons.mp mem with rfl | inRest
        · exact Int.le_refl _
        · exact List.rel_of_pairwise_cons sorted inRest)
      sorted nonneg

/-- The run of `window_last_instant` is one `runWindow_eq_runSpec` speaks about. -/
theorem runWindow_eq_runSpec_last_instant :
    [((0 : Int), Call.enable 0), (otaDefaultTimeout, .isEnabled),
        (otaDefaultTimeout, .timeRemaining)].Pairwise (fun a b => a.1 ≤ b.1) ∧
      (∀ t d, (t, Call.enable d) ∈ [((0 : Int), Call.enable 0), (otaDefaultTimeout, .isEnabled),
        (otaDefaultTimeout, .timeRemaining)] → 0 ≤ d) ∧
      (runWindow bootWindow [(0, .enable 0), (otaDefaultTimeout, .isEnabled),
          (otaDefaultTimeout, .timeRemaining)] =
        runSpec none [(0, .enable 0), (otaDefaultTimeout, .isEnabled),
          (otaDefaultTimeout, .timeRemaining)] ∧
      ∀ t0 d now, windowOpen t0 d now = true ↔ 0 < windowLeft t0 d now ∨ now - t0 = effTimeout d) :=
  have sorted : [((0 : Int), Call.enable 0), (otaDefaultTimeout, .isEnabled),
      (otaDefaultTimeout, .timeRemaining)].Pairwise (fun a b => a.1 ≤ b.1) := by decide
  have nonneg : ∀ t d, (t, Call.enable d) ∈ [((0 : Int), Call.enable 0),
      (otaDefaultTimeout, .isEnabled), (otaDefaultTimeout, .timeRemaining)] → 0 ≤ d := by
    intro t d mem
    simp only [List.mem_cons, Prod.mk.injEq, Call.enable.injEq, reduceCtorEq, and_false,
      List.mem_singleton, or_false, List.not_mem_nil] at mem
    omega
  ⟨sorted, nonneg, runWindow_eq_runSpec _ sorted nonneg⟩

/-- **At the last instant of the window `OTAIsEnabled()` is still true while `OTATimeRemaining()`
is already `0`**: ten minutes after `OTAEnable(0)`. -/
theorem window_last_instant :
    runWindow bootWindow [(0, .enable 0), (otaDefaultTimeout, .isEnabled),
        (otaDefaultTimeout, .timeRemaining)] =
      [.none, .enabled true, .remaining 0] := by
  decide

end Bindicator.Ota
