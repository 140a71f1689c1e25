/-
**The OTA server loop against the access window.**

`otaServerLoop` waits, checking `OTAIsEnabled()` every 500 ms; once it is on, it listens on
`otaPort` and waits for a connection while `OTAIsEnabled()` stays on; if the window is still
open and the connection is established, it runs `handleOTASession`, closes the connection and
calls `OTADisable()`. The console task calls the window at any time in between: `ota-enable`
calls `OTAEnable` with the parsed duration when it is positive and `0` (the default) otherwise,
and `ota` calls `OTAIsEnabled()` (then `OTATimeRemaining()`, which changes nothing). A run is a
list of timed events at non-decreasing times. The sleeps, `conn.Abort()`, the logging and what
happens inside the session (the other OTA modules) are not modelled.

`Gate` is the loop as meant: the last `OTAEnable` or `OTADisable` decides whether the window is
open, as in `runSpec`.

* `Server.step_refines`, `Server.run_refines`: the loop and the gate accept the same events,
  keep the same place and count of sessions, and the window variables agree with the last
  enable or disable;
* `Gate.step_budget`: a session uses up the `OTAEnable` it starts under, since it ends with
  `OTADisable()`;
* `otaServer_sessions`: over every run from boot, a session starts only on an established
  connection while the window of the last `OTAEnable` is open, and there are at most as many
  sessions as `ota-enable` commands.
-/

import Bindicator.Ota.Window

namespace Bindicator.Ota

/-- Where `otaServerLoop` is. -/
inductive ServerPc where
  /-- `for !OTAIsEnabled() { time.Sleep(500 * time.Millisecond) }`. -/
  | waiting
  /-- After `ListenTCP`: the wait for a connection, which checks `OTAIsEnabled()`. -/
  | listening
  /-- In `handleOTASession`, then closing the connection. -/
  | serving
  deriving DecidableEq, Repr

/-- The window variables, where the loop is, and the sessions started. -/
structure Server where
  window : Window
  pc : ServerPc
  sessions : Nat
  deriving DecidableEq, Repr

def bootServer : Server := ⟨bootWindow, .waiting, 0⟩

/-- What happens next. -/
inductive ServerEvent where
  /-- The console's `ota-enable`, with what `parseDuration` returned. -/
  | enableCommand (parsed : Int)
  /-- The console's `ota`. -/
  | statusCommand
  /-- One check of `OTAIsEnabled()` in a wait loop of the server. -/
  | poll
  /-- `stack.ListenTCP` failed: three seconds of sleep, then the outer loop again. -/
  | listenFailed
  /-- The wait for a connection ended (established, refused or after 6000 waits), and
  `conn.State().IsSynchronized()` answered `synchronized`. -/
  | connected (synchronized : Bool)
  /-- `handleOTASession` returned and the connection is closed: `OTADisable()`. -/
  | closed
  deriving DecidableEq, Repr

/-- The duration `ota-enable` passes to `OTAEnable`. -/
def enableTimeout (parsed : Int) : Int := if 0 < parsed then parsed else 0

/-- One event at `now`; `none` when it cannot happen where the server is. -/
def Server.step (s : Server) (now : Int) : ServerEvent → Option Server
  | .enableCommand parsed => some { s with window := otaEnable now (enableTimeout parsed) }
  | .statusCommand => some { s with window := (s.window.otaIsEnabled now).2 }
  | .poll =>
    if s.pc = .serving then none
    else some { s with window := (s.window.otaIsEnabled now).2,
                       pc := if (s.window.otaIsEnabled now).1 then .listening else .waiting }
  | .listenFailed => if s.pc = .listening then some { s with pc := .waiting } else none
  | .connected synchronized =>
    if s.pc = .listening then
      some (if (s.window.otaIsEnabled now).1 && synchronized then
          { s with window := (s.window.otaIsEnabled now).2, pc := .serving, sessions := s.sessions + 1 }
        else { s with window := (s.window.otaIsEnabled now).2, pc := .waiting })
    else none
  | .closed => if s.pc = .serving then some { s with window := s.window.otaDisable, pc := .waiting } else none

/-- A run of timed events. -/
def Server.run (s : Server) : List (Int × ServerEvent) → Option Server
  | [] => some s
  | (now, e) :: events => (s.step now e).bind fun s' => s'.run events

/-- The time of the last event, `now` if there is none. -/
def lastTime (now : Int) : List (Int × ServerEvent) → Int
  | [] => now
  | (t, _) :: events => lastTime t events

/-! ## The loop as meant -/

/-- Whether the window of the last enable or disable is open at `now`. -/
def isOpen (last : Option (Int × Int)) (now : Int) : Bool :=
  match last with
  | some (t0, d) => windowOpen t0 d now
  | none => false

/-- The loop with the last enable or disable in place of the window variables. -/
structure Gate where
  last : Option (Int × Int)
  pc : ServerPc
  sessions : Nat
  deriving DecidableEq, Repr

def bootGate : Gate := ⟨none, .waiting, 0⟩

def Gate.step (g : Gate) (now : Int) : ServerEvent → Option Gate
  | .enableCommand parsed => some { g with last := some (now, enableTimeout parsed) }
  | .statusCommand => some g
  | .poll =>
    if g.pc = .serving then none
    else some { g with pc := if isOpen g.last now then .listening else .waiting }
  | .listenFailed => if g.pc = .listening then some { g with pc := .waiting } else none
  | .connected synchronized =>
    if g.pc = .listening then
      some (if isOpen g.last now && synchronized then { g with pc := .serving, sessions := g.sessions + 1 }
        else { g with pc := .waiting })
    else none
  | .closed => if g.pc = .serving then some { g with last := none, pc := .waiting } else none

def Gate.run (g : Gate) : List (Int × ServerEvent) → Option Gate
  | [] => some g
  | (now, e) :: events => (g.step now e).bind fun g' => g'.run events

/-! ## The loop refines the gate -/

/-- The loop's variables against the gate's at `now`. -/
structure Simulates (s : Server) (g : Gate) (now : Int) : Prop where
  agrees : Agrees s.window now g.last
  pc : s.pc = g.pc
  sessions : s.sessions = g.sessions

theorem Simulates.later {s : Server} {g : Gate} {now later : Int} (sim : Simulates s g now)
    (moved : now ≤ later) : Simulates s g later :=
  ⟨sim.agrees.later moved, sim.pc, sim.sessions⟩

/-- `OTAIsEnabled()` answers whether the window of the last enable or disable is open. -/
theorem otaIsEnabled_agrees {w : Window} {now : Int} {last : Option (Int × Int)}
    (agrees : Agrees w now last) :
    (w.otaIsEnabled now).1 = isOpen last now ∧ Agrees (w.otaIsEnabled now).2 now last := by
  have call := Window.call_agrees .isEnabled agrees nofun
  refine ⟨Answer.enabled.inj (call.1.trans ?_), call.2⟩
  cases last <;> rfl

/-- **Every event keeps the loop and the gate related.** -/
theorem Server.step_refines {s : Server} {g : Gate} {now : Int} (sim : Simulates s g now)
    (e : ServerEvent) : Option.Rel (fun s' g' => Simulates s' g' now) (s.step now e) (g.step now e) := by
  obtain ⟨answer, agrees⟩ := otaIsEnabled_agrees sim.agrees
  cases e with
  | enableCommand parsed =>
    have nonneg : 0 ≤ enableTimeout parsed := by unfold enableTimeout; split <;> omega
    exact .some ⟨(Window.call_agrees (.enable _) sim.agrees fun d same => by
      cases same; exact nonneg).2, sim.pc, sim.sessions⟩
  | statusCommand => exact .some ⟨agrees, sim.pc, sim.sessions⟩
  | poll =>
    simp only [Server.step, Gate.step, sim.pc, answer]
    split
    · exact .none
    · exact .some ⟨agrees, rfl, sim.sessions⟩
  | listenFailed =>
    simp only [Server.step, Gate.step, sim.pc]
    split
    · exact .some ⟨sim.agrees, rfl, sim.sessions⟩
    · exact .none
  | connected synchronized =>
    simp only [Server.step, Gate.step, sim.pc, answer]
    split
    · split
      · exact .some ⟨agrees, rfl, by rw [sim.sessions]⟩
      · exact .some ⟨agrees, rfl, sim.sessions⟩
    · exact .none
  | closed =>
    simp only [Server.step, Gate.step, sim.pc]
    split
    · exact .some ⟨rfl, rfl, sim.sessions⟩
    · exact .none

theorem lastTime_le {now t : Int} (events : List (Int × ServerEvent)) (le : now ≤ t)
    (all : ∀ e ∈ events, e.1 ≤ t) : lastTime now events ≤ t := by
  induction events generalizing now with
  | nil => exact le
  | cons e events ih =>
    exact ih (all e (List.mem_cons_self _ _)) fun e' mem => all e' (List.mem_cons_of_mem _ mem)

/-- **Every run at non-decreasing times keeps the loop and the gate related**, at the time of
its last event. -/
theorem Server.run_refines (events : List (Int × ServerEvent)) (s : Server) (g : Gate) (now : Int)
    (sim : Simulates s g now) (later : ∀ e ∈ events, now ≤ e.1)
    (sorted : events.Pairwise fun a b => a.1 ≤ b.1) :
    Option.Rel (fun s' g' => Simulates s' g' (lastTime now events)) (s.run events) (g.run events) := by
  induction events generalizing s g now with
  | nil => exact .some sim
  | cons event events ih =>
    obtain ⟨t, e⟩ := event
    obtain ⟨after, sorted⟩ := List.pairwise_cons.mp sorted
    have step := Server.step_refines (sim.later (later _ (List.mem_cons_self _ _))) e
    simp only [Server.run, Gate.run, lastTime]
    match s.step t e, g.step t e, step with
    | none, none, .none => exact .none
    | some _, some _, .some sim' => exact ih _ _ t sim' after sorted

/-! ## What the gate allows -/

/-- The enable the gate holds for a next session: there is one, and no session runs. -/
def Gate.armed (g : Gate) : Nat := if g.last.isSome && g.pc != .serving then 1 else 0

def ServerEvent.isEnable : ServerEvent → Bool
  | .enableCommand _ => true
  | _ => false

/-- The `ota-enable` commands of a run. -/
def enables (events : List (Int × ServerEvent)) : Nat := events.countP fun e => e.2.isEnable

theorem isOpen_isSome {last : Option (Int × Int)} {now : Int} (opened : isOpen last now = true) :
    last.isSome = true := by
  cases last
  · cases opened
  · rfl

/-- **What a step of the gate can do**: record an enable; leave the last enable or disable and
the sessions, and stay out of or in a session; start a session on an established connection
while the window is open; or end the session with `OTADisable()`. -/
theorem Gate.step_cases {g g' : Gate} {now : Int} {e : ServerEvent} (stepped : g.step now e = some g') :
    (∃ parsed, e = .enableCommand parsed ∧ g' = { g with last := some (now, enableTimeout parsed) }) ∨
      (e.isEnable = false ∧ g'.last = g.last ∧ g'.sessions = g.sessions ∧
        (g'.pc = .serving ↔ g.pc = .serving)) ∨
      (e = .connected true ∧ isOpen g.last now = true ∧ g.pc = .listening ∧
        g' = { g with pc := .serving, sessions := g.sessions + 1 }) ∨
      (e = .closed ∧ g' = { g with last := none, pc := .waiting }) := by
  cases e with
  | enableCommand parsed =>
    cases stepped
    exact .inl ⟨parsed, rfl, rfl⟩
  | statusCommand =>
    cases stepped
    exact .inr (.inl ⟨rfl, rfl, rfl, Iff.rfl⟩)
  | poll =>
    simp only [Gate.step] at stepped
    split at stepped
    · cases stepped
    · rename_i running
      cases stepped
      exact .inr (.inl ⟨rfl, rfl, rfl, by split <;> simp [running]⟩)
  | listenFailed =>
    simp only [Gate.step] at stepped
    split at stepped
    · rename_i listening
      cases stepped
      exact .inr (.inl ⟨rfl, rfl, rfl, by simp [listening]⟩)
    · cases stepped
  | connected synchronized =>
    simp only [Gate.step] at stepped
    split at stepped
    · rename_i listening
      split at stepped
      · rename_i allowed
        cases stepped
        simp only [Bool.and_eq_true] at allowed
        exact .inr (.inr (.inl ⟨by rw [allowed.2], allowed.1, listening, rfl⟩))
      · cases stepped
        exact .inr (.inl ⟨rfl, rfl, rfl, by simp [listening]⟩)
    · cases stepped
  | closed =>
    simp only [Gate.step] at stepped
    split at stepped
    · cases stepped
      exact .inr (.inr (.inr ⟨rfl, rfl⟩))
    · cases stepped

/-- A session starts only on an established connection while the window is open. -/
theorem Gate.step_session {g g' : Gate} {now : Int} {e : ServerEvent} (stepped : g.step now e = some g')
    (started : g.sessions < g'.sessions) : e = .connected true ∧ isOpen g.last now = true := by
  rcases Gate.step_cases stepped with
    ⟨_, -, rfl⟩ | ⟨-, -, same, -⟩ | ⟨connected, opened, -, -⟩ | ⟨-, rfl⟩
  · exact absurd started (Nat.lt_irrefl _)
  · omega
  · exact ⟨connected, opened⟩
  · exact absurd started (Nat.lt_irrefl _)

/-- **A session uses up the enable it starts under**: the sessions and the armed enable grow by
at most the enables. -/
theorem Gate.step_budget {g g' : Gate} {now : Int} {e : ServerEvent} (stepped : g.step now e = some g') :
    g'.sessions + g'.armed ≤ g.sessions + g.armed + if e.isEnable then 1 else 0 := by
  rcases Gate.step_cases stepped with ⟨parsed, rfl, rfl⟩ | ⟨other, last, same, serving⟩ |
    ⟨rfl, opened, listening, rfl⟩ | ⟨rfl, rfl⟩
  · have armedLe : Gate.armed { g with last := some (now, enableTimeout parsed) } ≤ 1 := by
      unfold Gate.armed
      split <;> omega
    simp only [ServerEvent.isEnable, if_true]
    omega
  · simp only [Gate.armed, other, last, same, bne, Bool.beq_eq_decide_eq, serving, Bool.false_eq_true,
      if_false]
    omega
  · simp [Gate.armed, isOpen_isSome opened, listening, ServerEvent.isEnable]
  · simp only [Gate.armed, Option.isSome_none, Bool.false_and, Bool.false_eq_true, if_false]
    exact Nat.le_add_right_of_le (Nat.le_add_right _ _)

theorem Gate.run_budget (events : List (Int × ServerEvent)) (g g' : Gate) (ran : g.run events = some g') :
    g'.sessions + g'.armed ≤ g.sessions + g.armed + enables events := by
  induction events generalizing g with
  | nil => cases ran; omega
  | cons event events ih =>
    obtain ⟨t, e⟩ := event
    cases stepped : g.step t e with
    | none => simp [Gate.run, stepped] at ran
    | some g1 =>
      simp only [Gate.run, stepped, Option.bind_some] at ran
      have := Gate.step_budget stepped
      have := ih g1 ran
      simp only [enables, List.countP_cons] at this ⊢
      omega

/-! ## The server over every run -/

theorem rel_some_left {α β : Type} {r : α → β → Prop} {a : α} {ob : Option β}
    (related : Option.Rel r (some a) ob) : ∃ b, ob = some b ∧ r a b := by
  cases related with
  | some holds => exact ⟨_, rfl, holds⟩

/-- A run from boot at non-decreasing times, all from `start` on, is matched by a run of the gate
it simulates. -/
theorem bootServer_run_gate {events : List (Int × ServerEvent)} {s : Server} (start : Int)
    (early : ∀ e ∈ events, start ≤ e.1) (sorted : events.Pairwise fun a b => a.1 ≤ b.1)
    (ran : bootServer.run events = some s) :
    ∃ g, bootGate.run events = some g ∧ Simulates s g (lastTime start events) := by
  have related := Server.run_refines events bootServer bootGate start ⟨rfl, rfl, rfl⟩ early sorted
  rw [ran] at related
  exact rel_some_left related

/-- **The OTA server serves only inside a window, at most once per `ota-enable`**: over every run
from boot at non-decreasing times, the sessions started are at most the `ota-enable` commands,
and an event starts a session only if it is an established connection while the window of the
last `OTAEnable` (or `OTADisable`) before it, as the gate sees it, is open. -/
theorem otaServer_sessions (events : List (Int × ServerEvent))
    (sorted : events.Pairwise fun a b => a.1 ≤ b.1) :
    (∀ s, bootServer.run events = some s → s.sessions ≤ enables events) ∧
      ∀ before now e after s s', events = before ++ (now, e) :: after →
        bootServer.run before = some s → s.step now e = some s' → s.sessions < s'.sessions →
        e = .connected true ∧ ∃ g, bootGate.run before = some g ∧ isOpen g.last now = true := by
  have start : ∀ events : List (Int × ServerEvent), events.Pairwise (fun a b => a.1 ≤ b.1) →
      ∃ t, ∀ e ∈ events, t ≤ e.1 := fun events sorted => by
    cases events with
    | nil => exact ⟨0, nofun⟩
    | cons first rest =>
      exact ⟨first.1, fun e mem => (List.mem_cons.mp mem).elim (fun same => same ▸ Int.le_refl _)
        fun inRest => List.rel_of_pairwise_cons sorted inRest⟩
  refine ⟨fun s ran => ?_, fun before now e after s s' split ran stepped started => ?_⟩
  · obtain ⟨t, later⟩ := start events sorted
    obtain ⟨g, gateRan, sim⟩ := bootServer_run_gate t later sorted ran
    have budget : g.sessions + g.armed ≤ 0 + 0 + enables events := Gate.run_budget events _ _ gateRan
    rw [sim.sessions]
    omega
  · subst split
    obtain ⟨sortedBefore, -, across⟩ := List.pairwise_append.mp sorted
    have beforeNow : ∀ a ∈ before, a.1 ≤ now := fun a mem => across a mem _ (List.mem_cons_self _ _)
    obtain ⟨t, later⟩ := start before sortedBefore
    obtain ⟨g, gateRan, sim⟩ := bootServer_run_gate (min t now)
      (fun a mem => Int.le_trans (Int.min_le_left _ _) (later a mem)) sortedBefore ran
    have step := Server.step_refines (sim.later (lastTime_le before (Int.min_le_right _ _) beforeNow)) e
    rw [stepped] at step
    obtain ⟨g', gateStep, sim'⟩ := rel_some_left step
    have session := Gate.step_session gateStep (by rw [← sim.sessions, ← sim'.sessions]; exact started)
    exact ⟨session.1, g, gateRan, session.2⟩

/-- One push: `ota-enable`, the server sees the window open and a client connects, the session
closes. -/
theorem otaServer_sessions_one_push :
    [((0 : Int), ServerEvent.enableCommand 0), (1, .poll), (2, .connected true), (3, .closed)].Pairwise
        (fun a b => a.1 ≤ b.1) ∧
      ((∀ s, bootServer.run [(0, .enableCommand 0), (1, .poll), (2, .connected true), (3, .closed)] =
          some s → s.sessions ≤ enables [(0, .enableCommand 0), (1, .poll), (2, .connected true),
            (3, .closed)]) ∧
        ∀ before now e after s s', [((0 : Int), ServerEvent.enableCommand 0), (1, .poll),
            (2, .connected true), (3, .closed)] = before ++ (now, e) :: after →
          bootServer.run before = some s → s.step now e = some s' → s.sessions < s'.sessions →
          e = .connected true ∧ ∃ g, bootGate.run before = some g ∧ isOpen g.last now = true) :=
  ⟨by decide, otaServer_sessions _ (by decide)⟩

/-- After the session's `OTADisable()`, the server waits again, though the ten minutes are not
over. -/
example :
    (bootServer.run [(0, .enableCommand 0), (1, .poll), (2, .connected true), (3, .closed),
      (4, .poll)]).map Server.pc = some .waiting := by
  decide

end Bindicator.Ota
