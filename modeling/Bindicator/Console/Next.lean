/-
**The console's `next`: the first stored job from today on, against the bin LEDs.**

`processCommand`'s `next` walks `getJobs()` in stored order and reports the first job whose date,
`time.Date(year, month, day, 0, 0, 0, 0, time.UTC)`, is not before `now.Truncate(24 * time.Hour)`,
the midnight UTC that starts today. It writes the date, the bin and the whole days from today to
the job, `TODAY` and `tomorrow` for none and one; with no such job, `No upcoming jobs`. The LEDs
light a bin from noon the day before a collection to noon on the day (`Schedule.Leds`), so the
two views of the schedule meet at midnights: a lit job is dated today or tomorrow.

* `window_upcoming`: a job in its LED window is dated today or tomorrow;
* `find?_upcoming_le`: on a schedule stored in date order, the job `next` reports is dated no later
  than any job it could report;
* `next_agrees_with_leds`: for every schedule and every instant, while the firmware's LED update
  leaves a bin's LED on, `next` names a stored job dated today or later, never `No upcoming jobs`;
  on a schedule in date order, that job is due `TODAY` or `tomorrow`.
-/

import Bindicator.Console.Command

namespace Bindicator.Console

open Schedule

/-! ## The reply -/

/-- `now.Truncate(24 * time.Hour)`: `now` rounded down to a whole number of days since the zero
time, which lies a whole number of days before the Unix epoch: the midnight UTC of `now`'s day. -/
def truncateDay (now : Int) : Int := now - now % (24 * hour)

/-- `maxDuration`, `1<<63 - 1`. -/
def maxDuration : Int := 9223372036854775807

/-- `minDuration`, `-1 << 63`. -/
def minDuration : Int := -9223372036854775808

/-- `t.Sub(u)`: `t - u` as a `time.Duration`, saturated at `maxDuration` and `minDuration`. -/
def timeSub (t u : Int) : Int := max (min (t - u) maxDuration) minDuration

/-- `int(d.Hours() / 24)` for the `d` that `next` computes, a whole number of days or
`maxDuration`: `d.Hours()` is `d / time.Hour` plus the rest over an hour as a `float64`, exact for
a whole number of hours and `2562047.788…` for `maxDuration`, so the quotient by 24, truncated,
is the whole days of `d`. -/
def wholeDays (d : Int) : Int := d.tdiv (24 * hour)

/-- `writeInt2(conn, n)`: `n` in two digits, a `0` before a single one. -/
def writeInt2 (n : Nat) : Bytes :=
  if n < 10 then [digitByte 0, digitByte n] else [digitByte (n / 10), digitByte (n % 10)]

/-- `writeBinType(conn, bt)`. -/
def writeBinType (bt : BinType) : Bytes :=
  if bt = binGreen then ascii "GREEN"
  else if bt = binBlack then ascii "BLACK"
  else if bt = binBrown then ascii "BROWN"
  else ascii "UNKNOWN"

/-- Whether `next` shows `job` at `now`: `!jobDate.Before(now.Truncate(24 * time.Hour))`. -/
def upcoming (now : Int) (job : BinJob) : Bool := !decide (collectionDate job < truncateDay now)

/-- The loop of `next` over `getJobs()`: the first job it shows, with its `days`. -/
def nextJob (jobs : List BinJob) (now : Int) : Option (BinJob × Int) :=
  (jobs.find? (upcoming now)).map fun job => (job, wholeDays (timeSub (collectionDate job) (truncateDay now)))

/-- `Next: `, the job's date and its bin, as `next` writes them. -/
def nextHead (job : BinJob) : Bytes :=
  ascii "Next: " ++ writeInt job.year ++ ascii "-" ++ writeInt2 job.month ++ ascii "-" ++ writeInt2 job.day ++
    ascii " " ++ writeBinType job.bin

/-- What `next` writes after the bin: ` (TODAY)`, ` (tomorrow)` or ` (<days> days)`, and the line
end. -/
def daysText (days : Int) : Bytes :=
  ascii " (" ++
    (if days = 0 then ascii "TODAY" else if days = 1 then ascii "tomorrow" else writeInt days ++ ascii " days") ++
    ascii ")\r\n"

/-- The reply of `next` with `getJobs()` as `jobs`, at `now`. -/
def nextReply (jobs : List BinJob) (now : Int) : Bytes :=
  match nextJob jobs now with
  | some (job, days) => nextHead job ++ daysText days
  | none => ascii "No upcoming jobs\r\n"

/-! ## Days and midnights -/

/-- A collection date is a midnight: a whole number of days from the epoch. -/
theorem collectionDate_dvd (job : BinJob) : 24 * hour ∣ collectionDate job := by
  have days : (24 * hour : Int) = 86400 * second := by simp only [hour, minute]; ring
  rw [days, collectionDate, timeDate]
  exact mul_dvd_mul_right (dvd_mul_left _ _) _

/-- Today's midnight is a midnight, at most `now` and less than a day before it. -/
theorem truncateDay_bounds (now : Int) :
    24 * hour ∣ truncateDay now ∧ truncateDay now ≤ now ∧ now < truncateDay now + 24 * hour := by
  simp only [truncateDay, hour, minute, second]
  omega

/-- **A job in its LED window is dated today or tomorrow**: the window runs from noon the day
before the date to noon on it, and both ends of a day are midnights. -/
theorem window_upcoming {job : BinJob} {now : Int} (after : collectionDate job - 12 * hour < now)
    (before : now < collectionDate job + 12 * hour) :
    truncateDay now ≤ collectionDate job ∧ collectionDate job ≤ truncateDay now + 24 * hour := by
  have date := collectionDate_dvd job
  have today := truncateDay_bounds now
  simp only [hour, minute, second] at after before date today ⊢
  omega

/-- On a schedule in date order, the job `next` reports is dated no later than any job it could
report. -/
theorem find?_upcoming_le {jobs : List BinJob} {now : Int} {job other : BinJob}
    (sorted : jobs.Pairwise fun a b => collectionDate a ≤ collectionDate b)
    (found : jobs.find? (upcoming now) = some job) (mem : other ∈ jobs) (shown : upcoming now other = true) :
    collectionDate job ≤ collectionDate other := by
  obtain ⟨-, skipped, rest, rfl, passed⟩ := List.find?_eq_some.mp found
  rcases List.mem_append.mp mem with early | late
  · exact absurd (passed other early) (by simp [shown])
  · rcases List.mem_cons.mp late with rfl | later
    · exact le_rfl
    · exact (List.pairwise_cons.mp (List.pairwise_append.mp sorted).2.1).1 other later

/-- The LED update, unpaused, leaves `ledState` at the job loop's flags. -/
theorem updateLEDsFromSchedule_ledState (jobs : List BinJob) (now : Int) (board : Board) :
    (updateLEDsFromSchedule false jobs now board).ledState = windowLoop now jobs .off := by
  simp only [updateLEDsFromSchedule, setLED, if_false, Bool.false_eq_true, setLED_flags]

/-- Only the three bins have an LED to light. -/
theorem LedState.named_of_led {s : LedState} {bin : BinType} (lit : s.led bin = true) : bin.named := by
  unfold LedState.led at lit
  split_ifs at lit with green black brown
  · exact .inl green
  · exact .inr (.inl black)
  · exact .inr (.inr brown)

/-- **`next` agrees with the LEDs**: for every stored schedule and every instant, while the
firmware's LED update leaves the LED of a bin on, `next` names a stored job dated today or later
and never answers `No upcoming jobs`; on a schedule stored in date order, that job is due
`TODAY` or `tomorrow`. -/
theorem next_agrees_with_leds (jobs : List BinJob) (now : Int) (board : Board) (bin : BinType)
    (lit : (updateLEDsFromSchedule false jobs now board).ledState.led bin = true) :
    ∃ job ∈ jobs, truncateDay now ≤ collectionDate job ∧ (∃ days, nextReply jobs now = nextHead job ++ daysText days) ∧
      (jobs.Pairwise (fun a b => collectionDate a ≤ collectionDate b) →
        nextReply jobs now = nextHead job ++ ascii " (TODAY)\r\n" ∨
          nextReply jobs now = nextHead job ++ ascii " (tomorrow)\r\n") := by
  have named := LedState.named_of_led lit
  rw [updateLEDsFromSchedule_ledState, windowLoop_eq_foldl, foldl_led _ _ _ _ named, LedState.off_led] at lit
  obtain ⟨shownJob, mem, -, after, before⟩ := lit.resolve_left Bool.false_ne_true
  obtain ⟨fromToday, byTomorrow⟩ := window_upcoming after before
  have shown : upcoming now shownJob = true := by simp [upcoming, fromToday]
  cases found : jobs.find? (upcoming now) with
  | none => exact absurd shown (List.find?_eq_none.mp found shownJob mem)
  | some job =>
    have reply : nextReply jobs now =
        nextHead job ++ daysText (wholeDays (timeSub (collectionDate job) (truncateDay now))) := by
      simp only [nextReply, nextJob, found, Option.map_some']
    have dated : truncateDay now ≤ collectionDate job := by simpa [upcoming] using List.find?_some found
    refine ⟨job, List.mem_of_find?_eq_some found, dated, ⟨_, reply⟩, fun sorted => ?_⟩
    have first := find?_upcoming_le sorted found mem shown
    have date := collectionDate_dvd job
    have today := (truncateDay_bounds now).1
    have close : timeSub (collectionDate job) (truncateDay now) = 0 ∨
        timeSub (collectionDate job) (truncateDay now) = 24 * hour := by
      simp only [timeSub, maxDuration, minDuration, hour, minute, second] at byTomorrow date today ⊢
      omega
    rw [reply, wholeDays]
    rcases close with same | next
    · exact .inl (by rw [same, Int.zero_tdiv]; rfl)
    · exact .inr (by rw [next, Int.tdiv_self (by decide)]; rfl)

/-- A green collection on 2026-01-17, at 23:00 UTC the evening before: the LED is on, and `next`
says `tomorrow`. -/
theorem next_agrees_with_leds_eve :
    (updateLEDsFromSchedule false [⟨2026, 1, 17, binGreen⟩] 1768604400000000000 ⟨.off, .off⟩).ledState.led binGreen =
      true ∧
    ∃ job ∈ [(⟨2026, 1, 17, binGreen⟩ : BinJob)], truncateDay 1768604400000000000 ≤ collectionDate job ∧
      (∃ days, nextReply [⟨2026, 1, 17, binGreen⟩] 1768604400000000000 = nextHead job ++ daysText days) ∧
      ([(⟨2026, 1, 17, binGreen⟩ : BinJob)].Pairwise (fun a b => collectionDate a ≤ collectionDate b) →
        nextReply [⟨2026, 1, 17, binGreen⟩] 1768604400000000000 = nextHead job ++ ascii " (TODAY)\r\n" ∨
          nextReply [⟨2026, 1, 17, binGreen⟩] 1768604400000000000 = nextHead job ++ ascii " (tomorrow)\r\n") :=
  have lit : (updateLEDsFromSchedule false [⟨2026, 1, 17, binGreen⟩] 1768604400000000000 ⟨.off, .off⟩).ledState.led
      binGreen = true := by decide
  ⟨lit, next_agrees_with_leds _ _ _ _ lit⟩

example : nextReply [⟨2026, 1, 17, binGreen⟩] 1768604400000000000 = ascii "Next: 2026-01-17 GREEN (tomorrow)\r\n" := by
  decide

end Bindicator.Console
