/-
**The span slots.**

`SpanQueue` holds four spans. `StartSpan` takes the first slot that is not `Active` and, when
all four are, the one at `SpanHead`; `EndSpan` stamps `EndTime`, clears `Active` and counts the
span in `SpanCount`; `flushSpans`, when `SpanCount` is positive, has `BuildSpansJSON` write
every slot that is ended, not active and has a trace ID, clearing its `EndTime`, and sets
`SpanCount` to zero. Nothing marks an ended span as waiting for a flush: an ended slot is not
`Active`, so the next `StartSpan` takes it.

* `buildSpansJSON_completed`: a build leaves no slot it would write again;
* `Tracer.step_covers`, `Tracer.run_covers`: while a slot waits for a flush, `SpanCount` is
  positive, over every run;
* `ended_span_overwritten`: a span started, ended, and followed by another `StartSpan` before a
  flush loses its slot and is never written.
-/

import Bindicator.Bytes
import Mathlib.Logic.Function.Basic

namespace Bindicator.Telemetry

/-- `len(SpanQueue) = 4`. -/
def spanQueueLen : Nat := 4

/-- `Span`: what `BuildSpansJSON` writes, and the span ID `EndSpan` restores. -/
structure Span where
  traceId : Bytes
  spanId : Bytes
  parentId : Bytes
  prevSpanId : Bytes
  startTime : Int
  endTime : Int
  name : Bytes
  statusOK : Bool
  active : Bool
  deriving DecidableEq, Repr

/-- A slot `BuildSpansJSON` writes: not active, with an `EndTime`, and a trace ID with a byte
that is not zero. -/
def Span.completed (span : Span) : Bool :=
  !span.active && span.endTime != 0 && span.traceId.any (· != 0)

/-- The span variables of the telemetry package. -/
structure Tracer where
  enabled : Bool
  paused : Bool
  spanQueue : Nat → Span
  spanHead : Nat
  spanCount : Nat
  currentTraceId : Bytes
  currentSpanId : Bytes

/-- The first slot that is not active, as the loop of `StartSpan` finds it. -/
def firstInactive (slots : Nat → Span) : Option Nat :=
  (List.range spanQueueLen).find? fun i => !(slots i).active

/-- `StartSpan(s, name)` at `now`, with `spanId` the eight bytes of the two `Prand32` draws: the
slot index, `-1` while disabled or paused. -/
def startSpan (t : Tracer) (now : Int) (name spanId : Bytes) : Int × Tracer :=
  if !t.enabled || t.paused then (-1, t) else
  let slot := match firstInactive t.spanQueue with
    | some i => (i, t.spanHead)
    | none => (t.spanHead, (t.spanHead + 1) % spanQueueLen)
  let span : Span :=
    { traceId := t.currentTraceId, spanId := spanId, parentId := t.currentSpanId,
      prevSpanId := t.currentSpanId, startTime := now, endTime := 0, name := name.take 32,
      statusOK := false, active := true }
  (slot.1,
    { t with
      spanQueue := Function.update t.spanQueue slot.1 span
      spanHead := slot.2
      currentSpanId := spanId })

/-- `EndSpan(idx, statusOK)` at `now`. -/
def endSpan (t : Tracer) (idx : Int) (statusOK : Bool) (now : Int) : Tracer :=
  if idx < 0 ∨ (spanQueueLen : Int) ≤ idx then t else
  let i := idx.toNat
  if !(t.spanQueue i).active then t else
  { t with
    spanQueue := Function.update t.spanQueue i
      { t.spanQueue i with endTime := now, statusOK := statusOK, active := false }
    currentSpanId := (t.spanQueue i).prevSpanId
    spanCount := if t.spanCount < spanQueueLen then t.spanCount + 1 else t.spanCount }

/-- The writing loop of `BuildSpansJSON` over the slots `is`: each completed slot is written and
its `EndTime` cleared. (The counting loop before it only returns early when this one would
write nothing.) -/
def buildSpansLoop : List Nat → (Nat → Span) → List Span × (Nat → Span)
  | [], slots => ([], slots)
  | i :: is, slots =>
    if (slots i).completed then
      let rest := buildSpansLoop is (Function.update slots i { slots i with endTime := 0 })
      (slots i :: rest.1, rest.2)
    else buildSpansLoop is slots

/-- `BuildSpansJSON`: the spans written, in slot order, and the slots after. -/
def buildSpansJSON (slots : Nat → Span) : List Span × (Nat → Span) :=
  buildSpansLoop (List.range spanQueueLen) slots

/-- `flushSpans` up to its HTTP post: the spans written, if `BuildSpansJSON` runs. -/
def flushSpans (t : Tracer) : Option (List Span) × Tracer :=
  if t.spanCount = 0 || !t.enabled || t.paused then (none, t)
  else
    ((some (buildSpansJSON t.spanQueue).1),
      { t with spanQueue := (buildSpansJSON t.spanQueue).2, spanCount := 0 })

/-- The calls on the span slots. -/
inductive SpanOp where
  /-- `GenerateTraceID`, with the trace ID and span ID it draws. -/
  | generateTraceID (traceId spanId : Bytes)
  | startSpan (now : Int) (name spanId : Bytes)
  | endSpan (idx : Int) (statusOK : Bool) (now : Int)
  | flushSpans

/-- What a call returns. -/
inductive SpanResult where
  | none
  | index (idx : Int)
  | written (spans : Option (List Span))
  deriving DecidableEq, Repr

/-- One call. -/
def Tracer.step (t : Tracer) : SpanOp → SpanResult × Tracer
  | .generateTraceID traceId spanId =>
    (.none, { t with currentTraceId := traceId, currentSpanId := spanId })
  | .startSpan now name spanId => (.index (startSpan t now name spanId).1, (startSpan t now name spanId).2)
  | .endSpan idx statusOK now => (.none, endSpan t idx statusOK now)
  | .flushSpans => (.written (flushSpans t).1, (flushSpans t).2)

/-- The results of a run and the variables after it. -/
def Tracer.run (t : Tracer) : List SpanOp → List SpanResult × Tracer
  | [] => ([], t)
  | op :: ops => ((t.step op).1 :: ((t.step op).2.run ops).1, ((t.step op).2.run ops).2)

/-- `n` zero bytes. -/
def zeros (n : Nat) : Bytes := List.replicate n 0

/-- After `Init`: enabled, every slot at its zero value. -/
def initTracer : Tracer :=
  ⟨true, false, fun _ => ⟨zeros 16, zeros 8, zeros 8, zeros 8, 0, 0, [], false, false⟩, 0, 0,
    zeros 16, zeros 8⟩

/-- The trace of `TestSpanPendingPreventsReuse`: `{1, 2, 3}` and zeros. -/
def traceOneTwoThree : Bytes := [1, 2, 3] ++ zeros 13

/-! ## What a build leaves -/

/-- The loop leaves the slots it does not pass as they were. -/
theorem buildSpansLoop_other (is : List Nat) (slots : Nat → Span) (i : Nat) (notIn : i ∉ is) :
    (buildSpansLoop is slots).2 i = slots i := by
  induction is generalizing slots with
  | nil => rfl
  | cons j is ih =>
    have other : i ≠ j := fun same => notIn (same ▸ List.mem_cons_self _ _)
    have rest : i ∉ is := fun mem => notIn (List.mem_cons_of_mem _ mem)
    unfold buildSpansLoop
    split
    · rw [ih _ rest, Function.update_noteq other]
    · exact ih _ rest

/-- The loop leaves no slot it passes completed. -/
theorem buildSpansLoop_cleared (is : List Nat) (slots : Nat → Span) (i : Nat) (mem : i ∈ is) :
    ((buildSpansLoop is slots).2 i).completed = false := by
  induction is generalizing slots with
  | nil => cases mem
  | cons j is ih =>
    unfold buildSpansLoop
    by_cases later : i ∈ is
    · split
      · exact ih _ later
      · exact ih _ later
    · obtain rfl : i = j := (List.mem_cons.mp mem).resolve_right later
      split
      · rw [buildSpansLoop_other _ _ _ later]
        simp [Span.completed]
      · rename_i notCompleted
        rw [buildSpansLoop_other _ _ _ later]
        simpa using notCompleted

/-- **A build leaves no slot it would write again.** -/
theorem buildSpansJSON_completed (slots : Nat → Span) (i : Nat) (slot : i < spanQueueLen) :
    ((buildSpansJSON slots).2 i).completed = false :=
  buildSpansLoop_cleared _ _ _ (List.mem_range.mpr slot)

/-! ## `SpanCount` against the waiting slots -/

/-- While some slot waits to be written, `SpanCount` is positive. -/
def Tracer.Covers (t : Tracer) : Prop :=
  ∀ i < spanQueueLen, (t.spanQueue i).completed = true → 0 < t.spanCount

theorem startSpan_covers (t : Tracer) (now : Int) (name spanId : Bytes) (covers : t.Covers) :
    (startSpan t now name spanId).2.Covers := by
  unfold startSpan
  split
  · exact covers
  · intro i slot completed
    dsimp only at completed ⊢
    rw [Function.update_apply] at completed
    split at completed
    · cases completed
    · exact covers i slot completed

theorem endSpan_covers (t : Tracer) (idx : Int) (statusOK : Bool) (now : Int) (covers : t.Covers) :
    (endSpan t idx statusOK now).Covers := by
  unfold endSpan
  dsimp only
  split_ifs with outside inactive counted
  · exact covers
  · exact covers
  all_goals intro i _ _; dsimp only; unfold spanQueueLen at *; omega

theorem flushSpans_covers (t : Tracer) (covers : t.Covers) : (flushSpans t).2.Covers := by
  unfold flushSpans
  split
  · exact covers
  · intro i slot completed
    rw [buildSpansJSON_completed _ i slot] at completed
    cases completed

/-- **Every call keeps `SpanCount` positive while a slot waits.** -/
theorem Tracer.step_covers (t : Tracer) (op : SpanOp) (covers : t.Covers) : (t.step op).2.Covers := by
  cases op with
  | generateTraceID => exact covers
  | startSpan now name spanId => exact startSpan_covers t now name spanId covers
  | endSpan idx statusOK now => exact endSpan_covers t idx statusOK now covers
  | flushSpans => exact flushSpans_covers t covers

/-- **Over every run, `SpanCount` is positive while a slot waits to be written.** -/
theorem Tracer.run_covers (t : Tracer) (ops : List SpanOp) (covers : t.Covers) :
    (t.run ops).2.Covers := by
  induction ops generalizing t with
  | nil => exact covers
  | cons op ops ih => exact ih _ (t.step_covers op covers)

theorem initTracer_covers : initTracer.Covers := by
  intro i _ completed
  cases completed

/-- From `Init`, through the calls of `ended_span_overwritten`. -/
theorem initTracer_run_covers :
    initTracer.Covers ∧
      (initTracer.run [.generateTraceID traceOneTwoThree (zeros 8),
        .startSpan 1 (ascii "span-a") (zeros 8), .endSpan 0 true 2, .flushSpans]).2.Covers :=
  ⟨initTracer_covers, Tracer.run_covers _ _ initTracer_covers⟩

/-! ## An ended span loses its slot -/

/-- **A span ended and not yet flushed loses its slot to the next `StartSpan` and is never
written**: span A is started and ended, span B then gets slot `0`, A's; B ended, the flush
writes B alone. -/
theorem ended_span_overwritten :
    (initTracer.run [.generateTraceID traceOneTwoThree (zeros 8),
        .startSpan 1 (ascii "span-a") [10, 10, 10, 10, 10, 10, 10, 10], .endSpan 0 true 2,
        .startSpan 3 (ascii "span-b") [11, 11, 11, 11, 11, 11, 11, 11], .endSpan 0 true 4,
        .flushSpans]).1 =
      [.none, .index 0, .none, .index 0, .none,
        .written (some [⟨traceOneTwoThree, [11, 11, 11, 11, 11, 11, 11, 11], zeros 8, zeros 8, 3, 4,
          ascii "span-b", true, false⟩])] := by
  decide

end Bindicator.Telemetry
