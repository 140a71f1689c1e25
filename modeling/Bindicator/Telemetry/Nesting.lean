/-
**Nested spans: `StartSpan` and `EndSpan` keep the trace context.**

A task brackets its work in spans: each `EndSpan` ends the innermost span still open, with the
index its `StartSpan` returned. `StartSpan` saves `CurrentSpanID` in the slot as `ParentID` and
`PrevSpanID` and makes the new span current; `EndSpan` puts `PrevSpanID` back. While telemetry is
paused or disabled a start returns `-1`, and `EndSpan(-1)` does nothing. The open spans are kept
beside the tracer as a ghost stack, innermost first.

* `Frames_congr`: the frames of the open spans read only the slots those spans own;
* `nestStep_nested`, `nestRun_holds`: every call keeps the nesting invariant, so every run shows
  only recorded spans with the trace's ID and the right parent, and ends that restore the span ID;
* `span_nesting`: after `GenerateTraceID`, for every sequence of calls.
-/

import Bindicator.Telemetry.Spans

namespace Bindicator.Telemetry

/-- A call of the span API by a task, after its `GenerateTraceID`. -/
inductive SpanCall where
  /-- `StartSpan(s, name)` at `now`, with the span ID its two `Prand32` draws give. -/
  | start (now : Int) (name spanId : Bytes)
  /-- `EndSpan(idx, statusOK)` at `now` for the innermost span still open, with the `idx` its
  `StartSpan` returned. -/
  | finish (statusOK : Bool) (now : Int)
  | pause
  | resume
  | disable
  | enable
  /-- The sender's `flushSpans`, between two calls of the task. -/
  | flush
  deriving DecidableEq, Repr

/-- A span the task has started and not ended: what `StartSpan` returned, `CurrentSpanID` just
before it, and the span ID it drew. -/
structure OpenSpan where
  idx : Int
  saved : Bytes
  spanId : Bytes
  deriving DecidableEq, Repr

/-- The span ID of the innermost open span that was recorded, or the trace's root span ID. -/
def enclosingSpanId (root : Bytes) : List OpenSpan → Bytes
  | [] => root
  | o :: rest => if 0 ≤ o.idx then o.spanId else enclosingSpanId root rest

/-- The slots the recorded open spans hold. -/
def ownedSlots : List OpenSpan → List Nat
  | [] => []
  | o :: rest => if 0 ≤ o.idx then o.idx.toNat :: ownedSlots rest else ownedSlots rest

/-- What a call shows. -/
inductive NestEvent where
  /-- `StartSpan` returned `idx` and the slot holds `span`; `parent` is the span ID of the innermost
  enclosing recorded span, or the root's. -/
  | started (idx : Int) (span : Span) (parent : Bytes)
  /-- After `EndSpan`, `CurrentSpanID` is `restored`; just before its `StartSpan` it was `saved`. -/
  | ended (restored saved : Bytes)
  deriving DecidableEq, Repr

/-- What the nesting promises of a call. -/
def NestEvent.holds (trace : Bytes) : NestEvent → Prop
  | .started idx span parent => 0 ≤ idx → span.traceId = trace ∧ span.parentId = parent
  | .ended restored saved => restored = saved

/-- One call, with the open spans; `none` outside nested calls with at most four spans active: an
end with no span open, or a start that finds the four slots active. -/
def nestStep (root : Bytes) (t : Tracer) (opens : List OpenSpan) :
    SpanCall → Option (Option NestEvent × Tracer × List OpenSpan)
  | .start now name spanId =>
    if (t.enabled && !t.paused) && (firstInactive t.spanQueue).isNone then none
    else
      some (some (.started (startSpan t now name spanId).1
          ((startSpan t now name spanId).2.spanQueue (startSpan t now name spanId).1.toNat)
          (enclosingSpanId root opens)),
        (startSpan t now name spanId).2, ⟨(startSpan t now name spanId).1, t.currentSpanId, spanId⟩ :: opens)
  | .finish statusOK now =>
    match opens with
    | [] => none
    | o :: rest =>
      some (some (.ended (endSpan t o.idx statusOK now).currentSpanId o.saved), endSpan t o.idx statusOK now, rest)
  | .pause => some (none, { t with paused := true }, opens)
  | .resume => some (none, { t with paused := false }, opens)
  | .disable => some (none, { t with enabled := false }, opens)
  | .enable => some (none, { t with enabled := true }, opens)
  | .flush => some (none, (flushSpans t).2, opens)

/-- The events of a run of calls, up to the first call that leaves nested calls. -/
def nestRun (root : Bytes) : Tracer → List OpenSpan → List SpanCall → List NestEvent
  | _, _, [] => []
  | t, opens, call :: calls =>
    match nestStep root t opens call with
    | none => []
    | some (event, t', opens') => event.toList ++ nestRun root t' opens' calls

/-! ## The calls on the slots -/

theorem firstInactive_some {slots : Nat → Span} {i : Nat} (found : firstInactive slots = some i) :
    i < spanQueueLen ∧ (slots i).active = false := by
  unfold firstInactive at found
  exact ⟨List.mem_range.mp (List.mem_of_find?_eq_some found), by simpa using List.find?_some found⟩

/-- A start while enabled and not paused takes the first inactive slot. -/
theorem startSpan_recorded {t : Tracer} {now : Int} {name spanId : Bytes} {i : Nat}
    (running : (!t.enabled || t.paused) = false) (found : firstInactive t.spanQueue = some i) :
    startSpan t now name spanId =
      ((i : Int), { t with
        spanQueue := Function.update t.spanQueue i
          ⟨t.currentTraceId, spanId, t.currentSpanId, t.currentSpanId, now, 0, name.take 32, false, true⟩
        currentSpanId := spanId }) := by
  simp [startSpan, running, found]

/-- `EndSpan` of an active slot. -/
theorem endSpan_active {t : Tracer} {idx : Int} (statusOK : Bool) (now : Int) (low : 0 ≤ idx)
    (high : idx < spanQueueLen) (active : (t.spanQueue idx.toNat).active = true) :
    (endSpan t idx statusOK now).spanQueue = Function.update t.spanQueue idx.toNat
        { t.spanQueue idx.toNat with endTime := now, statusOK := statusOK, active := false } ∧
      (endSpan t idx statusOK now).currentSpanId = (t.spanQueue idx.toNat).prevSpanId ∧
      (endSpan t idx statusOK now).currentTraceId = t.currentTraceId := by
  have inside : ¬(idx < 0 ∨ (spanQueueLen : Int) ≤ idx) := by omega
  simp [endSpan, inside, active]

/-- A build leaves every active slot as it was. -/
theorem buildSpansLoop_active (is : List Nat) (slots : Nat → Span) (i : Nat) (active : (slots i).active = true) :
    (buildSpansLoop is slots).2 i = slots i := by
  induction is generalizing slots with
  | nil => rfl
  | cons j is ih =>
    unfold buildSpansLoop
    split
    · rename_i completed
      have other : i ≠ j := by
        rintro rfl
        simp [Span.completed, active] at completed
      rw [ih _ (by rwa [Function.update_noteq other]), Function.update_noteq other]
    · exact ih _ active

theorem flushSpans_active (t : Tracer) (i : Nat) (active : (t.spanQueue i).active = true) :
    (flushSpans t).2.spanQueue i = t.spanQueue i := by
  unfold flushSpans
  split
  · rfl
  · exact buildSpansLoop_active _ _ _ active

/-! ## The nesting invariant -/

/-- The slot of a recorded open span: active, with the trace's ID, `parent` as `ParentID` and
`PrevSpanID`, and its own span ID. -/
def Span.Opened (span : Span) (trace parent spanId : Bytes) : Prop :=
  span.active = true ∧ span.traceId = trace ∧ span.parentId = parent ∧ span.prevSpanId = parent ∧
    span.spanId = spanId

/-- Each open span saved the span ID of what encloses it; a recorded one holds a slot of its own,
opened under that span ID. -/
def Frames (trace root : Bytes) (slots : Nat → Span) : List OpenSpan → Prop
  | [] => True
  | o :: rest => o.saved = enclosingSpanId root rest ∧
      (o.idx = -1 ∨ 0 ≤ o.idx ∧ o.idx < spanQueueLen ∧ o.idx.toNat ∉ ownedSlots rest ∧
        (slots o.idx.toNat).Opened trace (enclosingSpanId root rest) o.spanId) ∧
      Frames trace root slots rest

/-- The tracer against the open spans: the trace, the current span, and the frames. -/
structure Nested (trace root : Bytes) (t : Tracer) (opens : List OpenSpan) : Prop where
  traceId : t.currentTraceId = trace
  current : t.currentSpanId = enclosingSpanId root opens
  frames : Frames trace root t.spanQueue opens

section Frames

variable {trace root : Bytes}

/-- **The frames read only the owned slots.** -/
theorem Frames_congr {slots slots' : Nat → Span} (opens : List OpenSpan)
    (same : ∀ i ∈ ownedSlots opens, slots' i = slots i) (frames : Frames trace root slots opens) :
    Frames trace root slots' opens := by
  induction opens with
  | nil => trivial
  | cons o rest ih =>
    obtain ⟨saved, slot, frames⟩ := frames
    by_cases recorded : 0 ≤ o.idx
    · have owned : ownedSlots (o :: rest) = o.idx.toNat :: ownedSlots rest := if_pos recorded
      rw [owned] at same
      refine ⟨saved, ?_, ih (fun i mem => same i (List.mem_cons_of_mem _ mem)) frames⟩
      rwa [same _ (List.mem_cons_self _ _)]
    · have owned : ownedSlots (o :: rest) = ownedSlots rest := if_neg recorded
      rw [owned] at same
      exact ⟨saved, .inl (by omega), ih same frames⟩

/-- A write to a slot no open span owns keeps the frames. -/
theorem Frames_update {slots : Nat → Span} {opens : List OpenSpan} {i : Nat} (free : i ∉ ownedSlots opens)
    (span : Span) (frames : Frames trace root slots opens) : Frames trace root (Function.update slots i span) opens :=
  Frames_congr opens (fun j owned => Function.update_noteq (fun (same : j = i) => free (same ▸ owned)) _ _) frames

/-- Every owned slot is active. -/
theorem Frames_owned_active {slots : Nat → Span} {opens : List OpenSpan} (frames : Frames trace root slots opens)
    {i : Nat} (owned : i ∈ ownedSlots opens) : (slots i).active = true := by
  induction opens with
  | nil => cases owned
  | cons o rest ih =>
    obtain ⟨-, slot, frames⟩ := frames
    unfold ownedSlots at owned
    split at owned
    · rcases List.mem_cons.mp owned with rfl | owned
      · rcases slot with none | ⟨-, -, -, opened⟩
        · omega
        · exact opened.1
      · exact ih frames owned
    · exact ih frames owned

end Frames

/-! ## Every call keeps the nesting -/

section Calls

variable {trace root : Bytes} {t t' : Tracer} {opens opens' : List OpenSpan}

theorem nestStep_start {now : Int} {name spanId : Bytes} {event : Option NestEvent} (nested : Nested trace root t opens)
    (stepped : nestStep root t opens (.start now name spanId) = some (event, t', opens')) :
    Nested trace root t' opens' ∧ ∀ e ∈ event, e.holds trace := by
  simp only [nestStep] at stepped
  split_ifs at stepped with full
  cases stepped
  cases running : (!t.enabled || t.paused)
  · have enabled : t.enabled = true ∧ t.paused = false := by simpa using running
    obtain ⟨i, found⟩ : ∃ i, firstInactive t.spanQueue = some i :=
      Option.ne_none_iff_exists'.mp fun none => full (by simp [enabled, none])
    obtain ⟨slot, inactive⟩ := firstInactive_some found
    have free : i ∉ ownedSlots opens := fun owned => by
      simpa [inactive] using Frames_owned_active nested.frames owned
    rw [startSpan_recorded running found]
    refine ⟨⟨nested.traceId, by simp [enclosingSpanId], ?_⟩, ?_⟩
    · refine ⟨nested.current, .inr ⟨Int.natCast_nonneg i, by simpa using slot, by simpa using free, ?_⟩,
        Frames_update free _ nested.frames⟩
      simp [Span.Opened, nested.traceId, nested.current]
    · simp [NestEvent.holds, nested.traceId, nested.current]
  · have skipped : startSpan t now name spanId = (-1, t) := by simp [startSpan, running]
    rw [skipped]
    refine ⟨⟨nested.traceId, by simp [enclosingSpanId, nested.current], nested.current, .inl rfl, nested.frames⟩,
      ?_⟩
    simp [NestEvent.holds]

theorem nestStep_finish {statusOK : Bool} {now : Int} {event : Option NestEvent} (nested : Nested trace root t opens)
    (stepped : nestStep root t opens (.finish statusOK now) = some (event, t', opens')) :
    Nested trace root t' opens' ∧ ∀ e ∈ event, e.holds trace := by
  obtain ⟨traceId, current, frames⟩ := nested
  cases opens with
  | nil => cases stepped
  | cons o rest =>
    simp only [nestStep, Option.some.injEq, Prod.mk.injEq] at stepped
    obtain ⟨rfl, rfl, rfl⟩ := stepped
    obtain ⟨saved, slot, frames⟩ := frames
    rcases slot with skipped | ⟨low, high, free, opened⟩
    · have nothing : endSpan t o.idx statusOK now = t := by simp [endSpan, skipped]
      have outer : t.currentSpanId = o.saved := by simp [current, saved, enclosingSpanId, skipped]
      rw [nothing]
      exact ⟨⟨traceId, outer.trans saved, frames⟩, by simp [NestEvent.holds, outer]⟩
    · obtain ⟨slots, restored, sameTrace⟩ := endSpan_active statusOK now low high opened.1
      have back : (endSpan t o.idx statusOK now).currentSpanId = o.saved := by
        rw [restored, opened.2.2.2.1, saved]
      exact ⟨⟨sameTrace.trans traceId, back.trans saved, slots ▸ Frames_update free _ frames⟩,
        by simpa [NestEvent.holds] using back⟩

/-- **Every call keeps the nesting, and shows what it promises.** -/
theorem nestStep_nested {call : SpanCall} {event : Option NestEvent} (nested : Nested trace root t opens)
    (stepped : nestStep root t opens call = some (event, t', opens')) :
    Nested trace root t' opens' ∧ ∀ e ∈ event, e.holds trace := by
  cases call with
  | start => exact nestStep_start nested stepped
  | finish => exact nestStep_finish nested stepped
  | flush =>
    cases stepped
    have same :
        (flushSpans t).2.currentTraceId = t.currentTraceId ∧ (flushSpans t).2.currentSpanId = t.currentSpanId := by
      unfold flushSpans
      split <;> exact ⟨rfl, rfl⟩
    refine ⟨⟨same.1.trans nested.traceId, same.2.trans nested.current, ?_⟩, by simp⟩
    exact Frames_congr opens (fun i owned => flushSpans_active t i (Frames_owned_active nested.frames owned))
      nested.frames
  | pause | resume | disable | enable =>
    cases stepped
    exact ⟨⟨nested.traceId, nested.current, nested.frames⟩, by simp⟩

/-- **Over every run, every start and end shows what the nesting promises.** -/
theorem nestRun_holds (calls : List SpanCall) (nested : Nested trace root t opens) :
    ∀ e ∈ nestRun root t opens calls, e.holds trace := by
  induction calls generalizing t opens with
  | nil => intro e mem; cases mem
  | cons call calls ih =>
    intro e mem
    unfold nestRun at mem
    split at mem
    · cases mem
    · rename_i event t' opens' stepped
      obtain ⟨nested', shown⟩ := nestStep_nested nested stepped
      rcases List.mem_append.mp mem with now | later
      · exact shown e (by simpa using now)
      · exact ih nested' e later

end Calls

/-- **Nested spans keep the trace context**: after `GenerateTraceID`, for every sequence of nested
`StartSpan` and `EndSpan` calls with at most four spans active, pauses, resumes and flushes
between them, every recorded span carries the trace ID and, as `ParentID`, the span ID of the
innermost enclosing recorded span or the root's; every `EndSpan` restores `CurrentSpanID` to what
it was just before its `StartSpan`. -/
theorem span_nesting (t : Tracer) (trace root : Bytes) (calls : List SpanCall) :
    ∀ e ∈ nestRun root (t.step (.generateTraceID trace root)).2 [] calls, e.holds trace :=
  nestRun_holds calls ⟨rfl, rfl, trivial⟩

/-- `TestSpanNestedParentChild` with a start while paused inside the child. -/
def parentChildCalls : List SpanCall :=
  [.start 1 (ascii "parent") [1], .start 2 (ascii "child") [2], .pause, .start 3 (ascii "late") [3],
    .finish true 4, .resume, .finish true 5, .finish true 6]

/-- The child is recorded under the parent. -/
theorem span_nesting_child :
    NestEvent.started 1 ⟨traceOneTwoThree, [2], [1], [1], 2, 0, ascii "child", false, true⟩ [1] ∈
        nestRun (zeros 8) (initTracer.step (.generateTraceID traceOneTwoThree (zeros 8))).2 [] parentChildCalls ∧
      (NestEvent.started 1 ⟨traceOneTwoThree, [2], [1], [1], 2, 0, ascii "child", false, true⟩ [1]).holds
        traceOneTwoThree :=
  have recorded : NestEvent.started 1 ⟨traceOneTwoThree, [2], [1], [1], 2, 0, ascii "child", false, true⟩ [1] ∈
      nestRun (zeros 8) (initTracer.step (.generateTraceID traceOneTwoThree (zeros 8))).2 [] parentChildCalls := by
    decide
  ⟨recorded, span_nesting _ _ _ parentChildCalls _ recorded⟩

/-- Each end puts back the span ID of the level above, down to the root. -/
example :
    (nestRun (zeros 8) (initTracer.step (.generateTraceID traceOneTwoThree (zeros 8))).2 [] parentChildCalls).drop 3 =
      [.ended [2] [2], .ended [1] [1], .ended (zeros 8) (zeros 8)] := by
  decide

end Bindicator.Telemetry
