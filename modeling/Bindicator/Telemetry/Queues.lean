/-
**The telemetry queues: two rings of eight that refine a bounded FIFO.**

`Log` and `recordMetric` are the same code over two arrays: under `mu`, nothing while telemetry
is disabled or paused, else write the slot `(Head + Count) % 8`, and when the ring is full move
`Head` past the entry that slot held. `flushLogs` and `flushMetrics` build their payload from
`Queue[(Head + i) % 8]` for `i < Count` and then reset `Head` and `Count` to `0`. The ring is one
definition, `Ring`, and each of the two queues is it at its own entry type; what the payload is
as JSON text, and the HTTP post that follows, are not modelled here.

* `Ring.push_valid`, `Ring.clear_valid`: one append, one flush, against the FIFO;
* `State.step_refines`: every operation keeps the queues and the FIFO in step and gives the
  same payload;
* `queues_refine_fifo`: over every run from boot, both heads stay below 8, both counts at most
  8, each ring read from its head is the FIFO, and the payloads are the FIFO's.
-/

import Bindicator.Bytes
import Mathlib.Logic.Function.Basic

namespace Bindicator.Telemetry

/-- `len(LogQueue) = len(MetricQueue) = 8`. -/
def queueLen : Nat := 8

/-- A circular queue: the array's slots, `Head` and `Count`. -/
structure Ring (α : Type) where
  slots : Nat → α
  head : Nat
  count : Nat

/-- The append of `Log` and `recordMetric` once past their check: write slot
`(Head + Count) % len`; when full, move `Head` on, else count one more. -/
def Ring.push {α : Type} (r : Ring α) (x : α) : Ring α :=
  { slots := Function.update r.slots ((r.head + r.count) % queueLen) x
    head := if queueLen ≤ r.count then (r.head + 1) % queueLen else r.head
    count := if queueLen ≤ r.count then r.count else r.count + 1 }

/-- The traversal of `BuildLogsJSON` and `BuildMetricsJSON`: `Queue[(Head + i) % len]` for
`i < Count`. -/
def Ring.entries {α : Type} (r : Ring α) : List α :=
  (List.range r.count).map fun i => r.slots ((r.head + i) % queueLen)

/-- `Head = 0; Count = 0`. -/
def Ring.clear {α : Type} (r : Ring α) : Ring α := { r with head := 0, count := 0 }

/-- `LogEntry`: the time, the severity, `Body[:BodyLen]`, and the trace context when
`HasTrace`. -/
structure LogEntry where
  timestamp : Int
  severity : UInt8
  body : Bytes
  trace : Option (Bytes × Bytes)
  deriving DecidableEq, Repr

/-- `MetricPoint`: the time, the value, `Name[:NameLen]` and whether it is a gauge. -/
structure MetricPoint where
  timestamp : Int
  value : Int
  name : Bytes
  isGauge : Bool
  deriving DecidableEq, Repr

/-- The entry `Log(severity, msg)` writes at `now`: the message cut to `len(entry.Body) = 128`,
and the trace context `CurrentTraceID`, `CurrentSpanID` if `HasTraceCtx`. -/
def logEntry (now : Int) (severity : UInt8) (msg : Bytes) (trace : Option (Bytes × Bytes)) :
    LogEntry :=
  ⟨now, severity, msg.take 128, trace⟩

/-- The point `recordMetric(name, value, isGauge)` writes at `now`, the name cut to 32 bytes. -/
def metricPoint (now : Int) (name : Bytes) (value : Int) (isGauge : Bool) : MetricPoint :=
  ⟨now, value, name.take 32, isGauge⟩

/-- The variables the queues live in: `enabled`, `paused` and the two rings. -/
structure State where
  enabled : Bool
  paused : Bool
  logQueue : Ring LogEntry
  metricQueue : Ring MetricPoint

/-- Before `Init`: the zero values. -/
def bootState : State :=
  ⟨false, false, ⟨fun _ => ⟨0, 0, [], none⟩, 0, 0⟩, ⟨fun _ => ⟨0, 0, [], false⟩, 0, 0⟩⟩

/-- `Log(severity, msg)` at `now`. -/
def log (t : State) (entry : LogEntry) : State :=
  if !t.enabled || t.paused then t else { t with logQueue := t.logQueue.push entry }

/-- `recordMetric(name, value, isGauge)` at `now`. -/
def recordMetric (t : State) (point : MetricPoint) : State :=
  if !t.enabled || t.paused then t else { t with metricQueue := t.metricQueue.push point }

/-- `flushLogs` up to its HTTP post: the entries `BuildLogsJSON` writes, if it runs. -/
def flushLogs (t : State) : Option (List LogEntry) × State :=
  if t.logQueue.count = 0 || !t.enabled || t.paused then (none, t)
  else (some t.logQueue.entries, { t with logQueue := t.logQueue.clear })

/-- `flushMetrics` up to its HTTP post: the points `BuildMetricsJSON` writes, if it runs. -/
def flushMetrics (t : State) : Option (List MetricPoint) × State :=
  if t.metricQueue.count = 0 || !t.enabled || t.paused then (none, t)
  else (some t.metricQueue.entries, { t with metricQueue := t.metricQueue.clear })

/-- The operations on the queues. -/
inductive Op where
  /-- `Log(severity, msg)` at `now`, with the trace context then current. -/
  | log (now : Int) (severity : UInt8) (msg : Bytes) (trace : Option (Bytes × Bytes))
  /-- `RecordGauge` (`isGauge`) or `RecordCounter` at `now`. -/
  | recordMetric (now : Int) (name : Bytes) (value : Int) (isGauge : Bool)
  | pause
  | resume
  | enable
  | disable
  | flushLogs
  | flushMetrics

/-- A payload built by a flush. -/
inductive Payload where
  | logs (entries : List LogEntry)
  | metrics (points : List MetricPoint)
  deriving DecidableEq, Repr

/-- One operation: the payload it builds, if any, and the variables after it. -/
def State.step (t : State) : Op → Option Payload × State
  | .log now severity msg trace => (none, log t (logEntry now severity msg trace))
  | .recordMetric now name value isGauge => (none, recordMetric t (metricPoint now name value isGauge))
  | .pause => (none, { t with paused := true })
  | .resume => (none, { t with paused := false })
  | .enable => (none, { t with enabled := true })
  | .disable => (none, { t with enabled := false })
  | .flushLogs => ((flushLogs t).1.map .logs, (flushLogs t).2)
  | .flushMetrics => ((flushMetrics t).1.map .metrics, (flushMetrics t).2)

/-- The payloads of a run and the variables after it. -/
def State.run (t : State) : List Op → List Payload × State
  | [] => ([], t)
  | op :: ops => ((t.step op).1.toList ++ ((t.step op).2.run ops).1, ((t.step op).2.run ops).2)

/-! ## The queues as meant: bounded FIFOs -/

/-- Append to a FIFO of eight, dropping the oldest entry when a ninth arrives. -/
def fifoPush {α : Type} (xs : List α) (x : α) : List α :=
  if xs.length < queueLen then xs ++ [x] else xs.tail ++ [x]

/-- The telemetry queues as FIFOs. -/
structure Spec where
  enabled : Bool
  paused : Bool
  logs : List LogEntry
  metrics : List MetricPoint

def specBoot : Spec := ⟨false, false, [], []⟩

/-- One operation on the FIFOs: append while on, and a flush that finds entries while on hands
them all over and empties the FIFO. -/
def Spec.step (s : Spec) : Op → Option Payload × Spec
  | .log now severity msg trace =>
    (none, if s.enabled && !s.paused then { s with logs := fifoPush s.logs (logEntry now severity msg trace) } else s)
  | .recordMetric now name value isGauge =>
    (none, if s.enabled && !s.paused then
      { s with metrics := fifoPush s.metrics (metricPoint now name value isGauge) } else s)
  | .pause => (none, { s with paused := true })
  | .resume => (none, { s with paused := false })
  | .enable => (none, { s with enabled := true })
  | .disable => (none, { s with enabled := false })
  | .flushLogs =>
    if s.logs ≠ [] && s.enabled && !s.paused then (some (.logs s.logs), { s with logs := [] })
    else (none, s)
  | .flushMetrics =>
    if s.metrics ≠ [] && s.enabled && !s.paused then (some (.metrics s.metrics), { s with metrics := [] })
    else (none, s)

def Spec.run (s : Spec) : List Op → List Payload × Spec
  | [] => ([], s)
  | op :: ops => ((s.step op).1.toList ++ ((s.step op).2.run ops).1, ((s.step op).2.run ops).2)

/-! ## One ring against one FIFO -/

/-- The ring holds the FIFO: its head is a slot, its count at most eight, and read from its head
it is the FIFO. -/
def Ring.Valid {α : Type} (r : Ring α) (xs : List α) : Prop :=
  r.head < queueLen ∧ r.count ≤ queueLen ∧ r.entries = xs

theorem Ring.Valid.count_eq {α : Type} {r : Ring α} {xs : List α} (valid : r.Valid xs) :
    r.count = xs.length := by
  rw [← valid.2.2, Ring.entries, List.length_map, List.length_range]

theorem Ring.clear_valid {α : Type} (r : Ring α) : r.clear.Valid [] :=
  ⟨Nat.succ_pos 7, Nat.zero_le _, rfl⟩

/-- **One append keeps the ring and the FIFO in step**, the full ring dropping its oldest
entry as the FIFO does. -/
theorem Ring.push_valid {α : Type} {r : Ring α} {xs : List α} (x : α) (valid : r.Valid xs) :
    (r.push x).Valid (fifoPush xs x) := by
  obtain ⟨head, bound, rfl⟩ := valid
  unfold queueLen at head bound
  by_cases full : r.count = 8
  · have pushed : (r.push x).entries =
        (List.range 7).map (fun i => r.slots ((r.head + (i + 1)) % 8)) ++ [x] := by
      simp only [Ring.entries, Ring.push, queueLen, full, le_refl, if_true]
      rw [show (r.head + 8) % 8 = r.head by omega, List.range_succ, List.map_append,
        List.map_singleton, Function.update_apply, if_pos (by omega)]
      congr 1
      refine List.map_congr_left fun i mem => ?_
      have small := List.mem_range.mp mem
      rw [Function.update_noteq (by omega)]
      congr 1
      omega
    have dropped : r.entries.tail = (List.range 7).map (fun i => r.slots ((r.head + (i + 1)) % 8)) := by
      rw [Ring.entries, full, List.range_succ_eq_map, List.map_cons, List.tail_cons, List.map_map]
      rfl
    refine ⟨by simp only [Ring.push, queueLen, full, le_refl, if_true]; omega,
      by simp only [Ring.push, queueLen, full, le_refl, if_true], ?_⟩
    rw [pushed, fifoPush, if_neg (by simp [Ring.entries, full, queueLen]), dropped]
  · have small : ¬ 8 ≤ r.count := by omega
    refine ⟨by simp only [Ring.push, queueLen, small, if_false]; omega,
      by simp only [Ring.push, queueLen, small, if_false]; omega, ?_⟩
    rw [fifoPush, if_pos (by simp [Ring.entries, queueLen]; omega)]
    simp only [Ring.entries, Ring.push, queueLen, small, if_false, List.range_succ, List.map_append,
      List.map_singleton, Function.update_same]
    congr 1
    refine List.map_congr_left fun i mem => Function.update_noteq ?_ _ _
    have := List.mem_range.mp mem
    omega

/-! ## The whole telemetry state against the FIFOs -/

/-- The variables hold the FIFOs. -/
def Refines (t : State) (s : Spec) : Prop :=
  t.enabled = s.enabled ∧ t.paused = s.paused ∧ t.logQueue.Valid s.logs ∧
    t.metricQueue.Valid s.metrics

/-- **Every operation keeps the queues and the FIFOs in step**, and builds the same payload. -/
theorem State.step_refines {t : State} {s : Spec} (op : Op) (refines : Refines t s) :
    (t.step op).1 = (s.step op).1 ∧ Refines (t.step op).2 (s.step op).2 := by
  cases t with | mk enabled paused logQueue metricQueue => ?_
  cases s with | mk enabled' paused' logs metrics => ?_
  dsimp only [Refines] at refines
  obtain ⟨rfl, rfl, valid, metricsValid⟩ := refines
  cases op with
  | log now severity msg trace =>
    cases enabled <;> cases paused <;>
      first
      | exact ⟨rfl, rfl, rfl, valid, metricsValid⟩
      | exact ⟨rfl, rfl, rfl, Ring.push_valid _ valid, metricsValid⟩
  | recordMetric now name value isGauge =>
    cases enabled <;> cases paused <;>
      first
      | exact ⟨rfl, rfl, rfl, valid, metricsValid⟩
      | exact ⟨rfl, rfl, rfl, valid, Ring.push_valid _ metricsValid⟩
  | pause | resume | enable | disable => exact ⟨rfl, rfl, rfl, valid, metricsValid⟩
  | flushLogs =>
    have empty : (logQueue.count = 0) = (logs = []) := by
      rw [valid.count_eq, List.length_eq_zero]
    rcases em (logs = []) with rfl | nonempty
    · cases enabled <;> cases paused <;>
        simp [State.step, Spec.step, flushLogs, empty, Refines, valid, metricsValid]
    · cases enabled <;> cases paused <;>
        simp [State.step, Spec.step, flushLogs, empty, nonempty, valid.2.2, Refines, valid,
          metricsValid, Ring.clear_valid]
  | flushMetrics =>
    have empty : (metricQueue.count = 0) = (metrics = []) := by
      rw [metricsValid.count_eq, List.length_eq_zero]
    rcases em (metrics = []) with rfl | nonempty
    · cases enabled <;> cases paused <;>
        simp [State.step, Spec.step, flushMetrics, empty, Refines, valid, metricsValid]
    · cases enabled <;> cases paused <;>
        simp [State.step, Spec.step, flushMetrics, empty, nonempty, metricsValid.2.2, Refines, valid,
          metricsValid, Ring.clear_valid]

theorem State.run_refines (ops : List Op) (t : State) (s : Spec) (refines : Refines t s) :
    (t.run ops).1 = (s.run ops).1 ∧ Refines (t.run ops).2 (s.run ops).2 := by
  induction ops generalizing t s with
  | nil => exact ⟨rfl, refines⟩
  | cons op ops ih =>
    obtain ⟨payload, after⟩ := t.step_refines op refines
    obtain ⟨payloads, final⟩ := ih _ _ after
    exact ⟨by rw [State.run, Spec.run, payload, payloads], final⟩

/-- **The queues refine bounded FIFOs over every run from boot**: both heads stay below 8 and
both counts at most 8; the log ring read from its head, `LogQueue[(LogHead + i) % 8]` for
`i < LogCount`, is the FIFO of the entries logged while enabled and not paused, the oldest
dropped when a ninth arrives and emptied by each flush that built a payload; the metric ring is
the same FIFO of the metric points; and the flushes build the FIFOs' payloads. -/
theorem queues_refine_fifo (ops : List Op) :
    (bootState.run ops).1 = (specBoot.run ops).1 ∧
      (bootState.run ops).2.logQueue.head < 8 ∧ (bootState.run ops).2.logQueue.count ≤ 8 ∧
      (bootState.run ops).2.logQueue.entries = (specBoot.run ops).2.logs ∧
      (bootState.run ops).2.metricQueue.head < 8 ∧
      (bootState.run ops).2.metricQueue.count ≤ 8 ∧
      (bootState.run ops).2.metricQueue.entries = (specBoot.run ops).2.metrics := by
  obtain ⟨payloads, -, -, ⟨logHead, logCount, logs⟩, ⟨metricHead, metricCount, metrics⟩⟩ :=
    bootState.run_refines ops specBoot ⟨rfl, rfl, ⟨by decide, by decide, rfl⟩, ⟨by decide, by decide, rfl⟩⟩
  exact ⟨payloads, logHead, logCount, logs, metricHead, metricCount, metrics⟩

end Bindicator.Telemetry
