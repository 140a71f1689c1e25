/-
**The bin LEDs: the firmware's `updateLEDsFromSchedule` against the host version the tests run.**

The firmware (`bindicator.go`) computes `greenOn`, `blackOn`, `brownOn` over the jobs and hands
each to `setLED`, which drives the pin and records `ledState`; the host version
(`bindicator_stub_test.go`), the only one the tests execute, sets `ledState` directly through
`isInCollectionWindow`. A job lights its bin's LED from noon the day before its collection date
to noon on the day, both ends excluded.

* `windowLoop_eq_foldl`: the firmware's loop is the host version's;
* `updateLEDsFromSchedule_agrees`: **for every job list and instant**, unpaused, the firmware
  leaves `ledState` and the three pins as the host version leaves `ledState`, each LED is on iff
  a job of its bin is in its window, and `BinUnknown` jobs light nothing.
-/

import Bindicator.Schedule.Parse
import Bindicator.Time

namespace Bindicator.Schedule

/-- `ledState`: whether the LED of each bin is on. -/
structure LedState where
  green : Bool
  black : Bool
  brown : Bool
  deriving DecidableEq, Repr

/-- All three off. -/
def LedState.off : LedState := ⟨false, false, false⟩

/-- The LED of a bin, `false` for a value that names none. -/
def LedState.led (s : LedState) (bin : BinType) : Bool :=
  if bin = binGreen then s.green
  else if bin = binBlack then s.black
  else if bin = binBrown then s.brown
  else false

/-- The `switch binType` of the LED code: the LED of `bin` set to `isOn`, nothing for any other
value. -/
def LedState.set (s : LedState) (bin : BinType) (isOn : Bool) : LedState :=
  if bin = binGreen then { s with green := isOn }
  else if bin = binBlack then { s with black := isOn }
  else if bin = binBrown then { s with brown := isOn }
  else s

/-- The firmware's LED variables and pins: `ledState`, and the levels of `pinGreenLED`,
`pinBlackLED`, `pinBrownLED` (`true` for `High()`). -/
structure Board where
  ledState : LedState
  pins : LedState

/-- `setLED(binType, on)`: the bin's pin driven `High()` or `Low()`, and `ledState` updated. -/
def setLED (board : Board) (binType : BinType) (isOn : Bool) : Board :=
  ⟨board.ledState.set binType isOn, board.pins.set binType isOn⟩

/-- `collectionDate`: midnight UTC of the job's date, in nanoseconds. -/
def collectionDate (job : BinJob) : Int := timeDate job.year job.month job.day * second

/-- The job loop of the firmware's `updateLEDsFromSchedule`: `windowStart`, `windowEnd` and
`inWindow` computed in the loop, and the bin's flag set when the job is in its window. -/
def windowLoop (now : Int) : List BinJob → LedState → LedState
  | [], flags => flags
  | job :: jobs, flags =>
    let windowStart := collectionDate job - 12 * hour
    let windowEnd := collectionDate job + 12 * hour
    let inWindow := decide (windowStart < now) && decide (now < windowEnd)
    windowLoop now jobs (if inWindow then flags.set job.bin true else flags)

/-- The firmware's `updateLEDsFromSchedule(jobs, now)`: nothing while `bindicatorPaused`; else the
job loop from all flags off, then `setLED` for green, black and brown. -/
def updateLEDsFromSchedule (bindicatorPaused : Bool) (jobs : List BinJob) (now : Int) (board : Board) :
    Board :=
  if bindicatorPaused then board
  else
    let flags := windowLoop now jobs .off
    setLED (setLED (setLED board binGreen flags.green) binBlack flags.black) binBrown flags.brown

/-- The host version's `isInCollectionWindow(job, now)`. -/
def isInCollectionWindow (job : BinJob) (now : Int) : Bool :=
  decide (collectionDate job - 12 * hour < now) && decide (now < collectionDate job + 12 * hour)

/-- The host version's `updateLEDsFromSchedule(jobs, now)`: all three off, then each job in its
window sets its bin's LED. -/
def updateLEDsFromScheduleHost (jobs : List BinJob) (now : Int) : LedState :=
  jobs.foldl (fun s job => if isInCollectionWindow job now then s.set job.bin true else s) .off

/-- What the LEDs are meant to show: some job of the bin has `now` strictly after its date's
midnight minus twelve hours and strictly before it plus twelve hours. -/
def jobInWindow (jobs : List BinJob) (now : Int) (bin : BinType) : Prop :=
  ∃ job ∈ jobs, job.bin = bin ∧ timeDate job.year job.month job.day * second - 12 * hour < now ∧
    now < timeDate job.year job.month job.day * second + 12 * hour

/-! ## The two loops -/

theorem windowLoop_eq_foldl (now : Int) (jobs : List BinJob) (flags : LedState) :
    windowLoop now jobs flags =
      jobs.foldl (fun s job => if isInCollectionWindow job now then s.set job.bin true else s) flags := by
  induction jobs generalizing flags with
  | nil => rfl
  | cons job jobs ih => exact ih _

/-- The three bins are the values `led` reads. -/
def BinType.named (bin : BinType) : Prop := bin = binGreen ∨ bin = binBlack ∨ bin = binBrown

theorem LedState.led_set (s : LedState) (b bin : BinType) (isOn : Bool) (named : bin.named) :
    (s.set b isOn).led bin = if b = bin then isOn else s.led bin := by
  unfold LedState.set
  rcases named with rfl | rfl | rfl <;> split_ifs <;> simp_all [LedState.led, binGreen, binBlack, binBrown]

/-- **The host loop lights a bin's LED iff a job of the bin is in its window.** -/
theorem foldl_led (now : Int) (jobs : List BinJob) (flags : LedState) (bin : BinType) (named : bin.named) :
    (jobs.foldl (fun s job => if isInCollectionWindow job now then s.set job.bin true else s) flags).led bin =
      true ↔ flags.led bin = true ∨ jobInWindow jobs now bin := by
  induction jobs generalizing flags with
  | nil => simp [jobInWindow]
  | cons job jobs ih =>
    have window : isInCollectionWindow job now = true ↔
        timeDate job.year job.month job.day * second - 12 * hour < now ∧
          now < timeDate job.year job.month job.day * second + 12 * hour := by
      simp [isInCollectionWindow, collectionDate]
    rw [List.foldl_cons, ih]
    simp only [jobInWindow, List.exists_mem_cons]
    by_cases inWindow : isInCollectionWindow job now
    · rw [if_pos inWindow, LedState.led_set _ _ _ _ named]
      by_cases same : job.bin = bin
      · simp [same, window.mp inWindow]
      · simp [same]
    · rw [if_neg inWindow]
      simp [mt window.mpr inWindow]

theorem LedState.off_led (bin : BinType) : LedState.off.led bin = false := by
  unfold LedState.off LedState.led
  split_ifs <;> rfl

theorem LedState.ext_led {s t : LedState}
    (same : ∀ bin : BinType, bin.named → s.led bin = t.led bin) : s = t := by
  have green := same binGreen (.inl rfl)
  have black := same binBlack (.inr (.inl rfl))
  have brown := same binBrown (.inr (.inr rfl))
  simp only [LedState.led, binGreen, binBlack, binBrown] at green black brown
  cases s
  cases t
  simp_all

/-- The three `setLED` calls leave the flags. -/
theorem setLED_flags (s flags : LedState) :
    ((s.set binGreen flags.green).set binBlack flags.black).set binBrown flags.brown = flags := by
  cases flags
  simp [LedState.set, binGreen, binBlack, binBrown]

/-- **The firmware agrees with the host version, and both show the schedule**: for every job list
and every instant, unpaused, the firmware leaves `ledState` as the host version does and drives
each pin to its LED's state; each LED is on iff a job of its bin is in its window; and removing
the `BinUnknown` jobs changes nothing. -/
theorem updateLEDsFromSchedule_agrees (jobs : List BinJob) (now : Int) (board : Board) :
    (updateLEDsFromSchedule false jobs now board).ledState = updateLEDsFromScheduleHost jobs now ∧
      (updateLEDsFromSchedule false jobs now board).pins = updateLEDsFromScheduleHost jobs now ∧
      (∀ bin, bin.named → ((updateLEDsFromScheduleHost jobs now).led bin = true ↔ jobInWindow jobs now bin)) ∧
      updateLEDsFromScheduleHost (jobs.filter fun job => job.bin ≠ binUnknown) now =
        updateLEDsFromScheduleHost jobs now := by
  have lit :
      ∀ bin, bin.named → ((updateLEDsFromScheduleHost jobs now).led bin = true ↔ jobInWindow jobs now bin) :=
    fun bin named => by
      rw [updateLEDsFromScheduleHost, foldl_led _ _ _ _ named, LedState.off_led]
      simp
  have flags : windowLoop now jobs .off = updateLEDsFromScheduleHost jobs now := windowLoop_eq_foldl _ _ _
  refine ⟨?_, ?_, lit, LedState.ext_led fun bin named => ?_⟩
  · simp only [updateLEDsFromSchedule, setLED, if_false, Bool.false_eq_true, setLED_flags, flags]
  · simp only [updateLEDsFromSchedule, setLED, if_false, Bool.false_eq_true, setLED_flags, flags]
  · have unknown : bin ≠ binUnknown := by
      rcases named with rfl | rfl | rfl <;> decide
    rw [Bool.eq_iff_iff, lit bin named, updateLEDsFromScheduleHost, foldl_led _ _ _ _ named, LedState.off_led]
    simp only [Bool.false_eq_true, false_or, jobInWindow, List.mem_filter]
    constructor
    · rintro ⟨job, ⟨mem, -⟩, rest⟩
      exact ⟨job, mem, rest⟩
    · rintro ⟨job, mem, rfl, rest⟩
      exact ⟨job, ⟨mem, by simpa using unknown⟩, rfl, rest⟩

end Bindicator.Schedule
