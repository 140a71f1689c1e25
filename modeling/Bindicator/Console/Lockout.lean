/-
**The console's lockout: `consoleServer` against a password guesser.**

At the top of each turn the loop asks `checkLockout()`: with `authFailures` at 3, 5 or 10 and
more, a new connection waits until 5 s, 30 s or 5 min have passed since `lastFailureTime`. A
connection that gets through is authenticated once; a failure calls `recordFailure()`, a success
`resetFailures()`, and a connection that closes first changes neither.

* `ConsoleServer.step_gate`, `ConsoleServer.run_gate`: while the loop listens, the lockout of its
  failures is over, after every event and over every run;
* `authenticateConsole_first_line`: a connection is one attempt, decided by its first line;
* `consoleServer_lockout`: two failures with no success between them are at least the lockout of
  the first apart.
-/

import Bindicator.Console.Session
import Bindicator.Time

namespace Bindicator.Console

/-- `getLockoutDuration()`, in nanoseconds. -/
def getLockoutDuration (authFailures : Nat) : Int :=
  if 10 ≤ authFailures then 5 * minute
  else if 5 ≤ authFailures then 30 * second
  else if 3 ≤ authFailures then 5 * second
  else 0

/-- `checkLockout()` at `now`: a lockout, and less of it passed since the last failure. -/
def checkLockout (authFailures : Nat) (lastFailureTime now : Int) : Bool :=
  if getLockoutDuration authFailures = 0 then false
  else now - lastFailureTime < getLockoutDuration authFailures

/-- Where the loop of `consoleServer` is between events. -/
inductive ConsolePc where
  /-- At the top of the loop. -/
  | idle
  /-- Past the lockout check, listening for a client. -/
  | listening
  deriving DecidableEq, Repr

/-- The loop's variables: `authFailures`, `lastFailureTime` (in nanoseconds), and where it is. -/
structure ConsoleServer where
  authFailures : Nat
  lastFailureTime : Int
  pc : ConsolePc
  deriving DecidableEq, Repr

/-- At boot: no failure, and `lastFailureTime` the zero `time.Time`, January 1 of year 1. -/
def bootConsoleServer : ConsoleServer := ⟨0, timeDate 1 1 1 * second, .idle⟩

/-- `recordFailure()` at `now`. -/
def ConsoleServer.recordFailure (s : ConsoleServer) (now : Int) : ConsoleServer :=
  { s with authFailures := s.authFailures + 1, lastFailureTime := now }

/-- `resetFailures()`. -/
def ConsoleServer.resetFailures (s : ConsoleServer) : ConsoleServer := { s with authFailures := 0 }

/-- What `authenticateConsole` leaves in the lockout variables when it ends at `now`. -/
def ConsoleServer.authenticated (s : ConsoleServer) (now : Int) : AuthResult → ConsoleServer
  | .accepted => s.resetFailures
  | .rejected => s.recordFailure now
  | .closed => s

/-- What happens in a turn of the loop. -/
inductive ConsoleEvent where
  /-- `conn.Abort()` and the lockout check; locked out, the loop sleeps and checks again. -/
  | check
  /-- `ListenTCP` fails, or no client completes the handshake within the wait. -/
  | noClient
  /-- A client connects and is authenticated; its session, if any, runs to the end. -/
  | client (conn : ConsoleConn)
  deriving DecidableEq, Repr

/-- One event at `now`; `none` when it cannot happen where the loop is. -/
def ConsoleServer.step (password : Bytes) (s : ConsoleServer) (now : Int) :
    ConsoleEvent → Option ConsoleServer
  | .check =>
    if s.pc = .idle then
      some (if checkLockout s.authFailures s.lastFailureTime now then s else { s with pc := .listening })
    else none
  | .noClient => if s.pc = .listening then some { s with pc := .idle } else none
  | .client conn =>
    if s.pc = .listening then
      some { s.authenticated now (authenticateConsole password conn).1 with pc := .idle }
    else none

/-- A run of timed events. -/
def ConsoleServer.run (password : Bytes) (s : ConsoleServer) : List (Int × ConsoleEvent) → Option ConsoleServer
  | [] => some s
  | (now, e) :: events => (s.step password now e).bind fun s' => s'.run password events

/-- Whether an event is a client that gets in. -/
def ConsoleEvent.accepts (password : Bytes) : ConsoleEvent → Bool
  | .client conn => (authenticateConsole password conn).1 == .accepted
  | _ => false

section Steps

variable {password : Bytes} {s s' : ConsoleServer} {now : Int} {e : ConsoleEvent}

/-- What one event can do. -/
theorem ConsoleServer.step_cases (stepped : s.step password now e = some s') :
    (e = .check ∧ s.pc = .idle ∧
      s' = if checkLockout s.authFailures s.lastFailureTime now then s else { s with pc := .listening }) ∨
    (e = .noClient ∧ s.pc = .listening ∧ s' = { s with pc := .idle }) ∨
    (∃ conn, e = .client conn ∧ s.pc = .listening ∧
      s' = { s.authenticated now (authenticateConsole password conn).1 with pc := .idle }) := by
  cases e with
  | check =>
    obtain ⟨idle, ⟨⟩⟩ := Option.ite_none_right_eq_some.mp stepped
    exact .inl ⟨rfl, idle, rfl⟩
  | noClient =>
    obtain ⟨listening, ⟨⟩⟩ := Option.ite_none_right_eq_some.mp stepped
    exact .inr (.inl ⟨rfl, listening, rfl⟩)
  | client conn =>
    obtain ⟨listening, ⟨⟩⟩ := Option.ite_none_right_eq_some.mp stepped
    exact .inr (.inr ⟨conn, rfl, listening, rfl⟩)

/-- A client comes only to a listening loop. -/
theorem ConsoleServer.step_client_listening {conn : ConsoleConn}
    (stepped : s.step password now (.client conn) = some s') :
    s.pc = .listening := by
  obtain ⟨⟨⟩, -⟩ | ⟨⟨⟩, -⟩ | ⟨_, ⟨⟩, listening, -⟩ := step_cases stepped
  exact listening

/-- A failed client is `recordFailure()` at `now`. -/
theorem ConsoleServer.step_rejected {conn : ConsoleConn} (stepped : s.step password now (.client conn) = some s')
    (rejected : (authenticateConsole password conn).1 = .rejected) :
    s'.authFailures = s.authFailures + 1 ∧ s'.lastFailureTime = now := by
  obtain ⟨⟨⟩, -⟩ | ⟨⟨⟩, -⟩ | ⟨_, ⟨⟩, -, rfl⟩ := step_cases stepped
  simp [rejected, authenticated, recordFailure]

theorem ConsoleServer.run_cons_some {events : List (Int × ConsoleEvent)}
    (ran : s.run password ((now, e) :: events) = some s') :
    ∃ s1, s.step password now e = some s1 ∧ s1.run password events = some s' :=
  Option.bind_eq_some.mp ran

theorem ConsoleServer.run_append (s : ConsoleServer) (xs ys : List (Int × ConsoleEvent)) :
    s.run password (xs ++ ys) = (s.run password xs).bind fun s1 => s1.run password ys := by
  induction xs generalizing s with
  | nil => rfl
  | cons event xs ih =>
    rw [List.cons_append, run, run, Option.bind_assoc]
    exact congrArg _ (funext ih)

end Steps

/-! ## The lockout gate -/

/-- The lockout grows with the failures. -/
theorem getLockoutDuration_mono {k k' : Nat} (le : k ≤ k') : getLockoutDuration k ≤ getLockoutDuration k' := by
  unfold getLockoutDuration minute second
  split_ifs <;> omega

/-- While the loop listens at `now`, the lockout of its failures is over. -/
def Gate (s : ConsoleServer) (now : Int) : Prop :=
  s.pc = .listening → getLockoutDuration s.authFailures = 0 ∨ getLockoutDuration s.authFailures ≤ now - s.lastFailureTime

theorem Gate.later {s : ConsoleServer} {now later : Int} (gate : Gate s now) (moved : now ≤ later) :
    Gate s later := fun listening => (gate listening).imp_right fun over => by omega

/-- **Every event keeps the gate**: the loop only listens past a `checkLockout()` that found the
lockout over. -/
theorem ConsoleServer.step_gate {password : Bytes} {s s' : ConsoleServer} {now : Int} {e : ConsoleEvent}
    (stepped : s.step password now e = some s') : Gate s' now := by
  obtain ⟨-, idle, rfl⟩ | ⟨-, -, rfl⟩ | ⟨conn, -, -, rfl⟩ := step_cases stepped
  · split
    · intro listening
      rw [idle] at listening
      cases listening
    · rename_i unlocked
      intro _
      unfold checkLockout at unlocked
      split_ifs at unlocked with none
      · exact .inl none
      · exact .inr (by simpa using unlocked)
  · intro listening
    cases listening
  · intro listening
    cases listening

/-- **Over every run at non-decreasing times, the gate holds at any later time.** -/
theorem ConsoleServer.run_gate (password : Bytes) (events : List (Int × ConsoleEvent)) (s s' : ConsoleServer)
    (start finish : Int) (gate : Gate s start) (early : ∀ e ∈ events, start ≤ e.1)
    (late : ∀ e ∈ events, e.1 ≤ finish) (ordered : start ≤ finish)
    (sorted : events.Pairwise fun a b => a.1 ≤ b.1) (ran : s.run password events = some s') :
    Gate s' finish := by
  induction events generalizing s start with
  | nil =>
    cases ran
    exact gate.later ordered
  | cons event events ih =>
    obtain ⟨now, e⟩ := event
    obtain ⟨after, sorted⟩ := List.pairwise_cons.mp sorted
    obtain ⟨s1, stepped, ran⟩ := run_cons_some ran
    exact ih s1 now (step_gate stepped) after (fun e mem => late e (List.mem_cons_of_mem _ mem))
      (late _ (List.mem_cons_self _ _)) sorted ran

/-! ## Between two failures -/

/-- Without a success, an event at `now`, no earlier than the last failure, only adds failures and
moves the last one later. -/
theorem ConsoleServer.step_grows {password : Bytes} {s s' : ConsoleServer} {now : Int} {e : ConsoleEvent}
    (stepped : s.step password now e = some s') (noSuccess : e.accepts password = false)
    (early : s.lastFailureTime ≤ now) :
    s.authFailures ≤ s'.authFailures ∧ s.lastFailureTime ≤ s'.lastFailureTime ∧ s'.lastFailureTime ≤ now := by
  obtain ⟨-, -, rfl⟩ | ⟨-, -, rfl⟩ | ⟨conn, rfl, -, rfl⟩ := step_cases stepped
  · split <;> exact ⟨Nat.le_refl _, Int.le_refl _, early⟩
  · exact ⟨Nat.le_refl _, Int.le_refl _, early⟩
  · simp only [ConsoleEvent.accepts, beq_eq_false_iff_ne, ne_eq] at noSuccess
    cases result : (authenticateConsole password conn).1
    · exact absurd result noSuccess
    · exact ⟨Nat.le_succ _, early, Int.le_refl _⟩
    · exact ⟨Nat.le_refl _, Int.le_refl _, early⟩

/-- Over a run with no success, at non-decreasing times no earlier than the last failure, the
failures and the time of the last only grow. -/
theorem ConsoleServer.run_grows (password : Bytes) (events : List (Int × ConsoleEvent)) (s s' : ConsoleServer)
    (early : ∀ e ∈ events, s.lastFailureTime ≤ e.1) (sorted : events.Pairwise fun a b => a.1 ≤ b.1)
    (noSuccess : ∀ e ∈ events, e.2.accepts password = false) (ran : s.run password events = some s') :
    s.authFailures ≤ s'.authFailures ∧ s.lastFailureTime ≤ s'.lastFailureTime := by
  induction events generalizing s with
  | nil =>
    cases ran
    exact ⟨Nat.le_refl _, Int.le_refl _⟩
  | cons event events ih =>
    obtain ⟨now, e⟩ := event
    obtain ⟨after, sorted⟩ := List.pairwise_cons.mp sorted
    obtain ⟨s1, stepped, ran⟩ := run_cons_some ran
    obtain ⟨more, later, recorded⟩ :=
      step_grows stepped (noSuccess _ (List.mem_cons_self _ _)) (early _ (List.mem_cons_self _ _))
    have rest := ih s1 (fun e mem => Int.le_trans recorded (after e mem)) sorted
      (fun e mem => noSuccess e (List.mem_cons_of_mem _ mem)) ran
    exact ⟨Nat.le_trans more rest.1, Int.le_trans later rest.2⟩

/-- **Two failures with no success between them are at least the lockout of the first apart**,
from any state: the next client after a failure at `t1` comes at `t2` only once the loop has
listened, past a `checkLockout()` that counted every failure since. -/
theorem ConsoleServer.failure_spacing (password : Bytes) (s s1 s2 s' : ConsoleServer)
    (middle : List (Int × ConsoleEvent)) (t1 t2 : Int) (c1 c2 : ConsoleConn)
    (failed : s.step password t1 (.client c1) = some s1)
    (rejected : (authenticateConsole password c1).1 = .rejected) (ran : s1.run password middle = some s2)
    (next : s2.step password t2 (.client c2) = some s') (early : ∀ e ∈ middle, t1 ≤ e.1)
    (late : ∀ e ∈ middle, e.1 ≤ t2) (ordered : t1 ≤ t2) (sorted : middle.Pairwise fun a b => a.1 ≤ b.1)
    (noSuccess : ∀ e ∈ middle, e.2.accepts password = false) :
    getLockoutDuration s1.authFailures ≤ t2 - t1 := by
  have recorded := (step_rejected failed rejected).2
  obtain ⟨more, later⟩ := run_grows password middle s1 s2 (recorded ▸ early) sorted noSuccess ran
  have mono := getLockoutDuration_mono more
  rcases run_gate password middle s1 s2 t1 t2 (step_gate failed) early late ordered sorted ran
    (step_client_listening next) with zero | over <;> omega

/-- **A connection is one attempt**: once the byte loop of `authenticateConsole` reaches a line
end, the outcome is the comparison of that line with the password, whatever the client sends
after it, however its bytes are read, and whether or not it closes. -/
theorem authenticateConsole_first_line (password : Bytes) (closes : Bool) (reads : List Bytes)
    (line rest pass : Bytes) (bytes : reads.flatten = line ++ rest) (scanned : scanPassword line [] 0 = .line pass) :
    (authenticateConsole password ⟨reads, closes⟩).1 = if pass = password then .accepted else .rejected := by
  unfold authenticateConsole
  rw [authLoop_eq_authFlat _ _ _ _ _ (by decide), bytes, authFlat_append, scanned]
  rfl

/-- **The console's rate limit**: a connection is one password attempt, and in every run of
`consoleServer` from boot, at non-decreasing times, a client that comes after a failure at `t1`
with no success between them comes at `t2` no sooner than `getLockoutDuration()` at the failures
the first one left. -/
theorem consoleServer_lockout (password : Bytes) :
    (∀ (closes : Bool) (reads : List Bytes) (line rest pass : Bytes),
      reads.flatten = line ++ rest → scanPassword line [] 0 = .line pass →
      (authenticateConsole password ⟨reads, closes⟩).1 = if pass = password then .accepted else .rejected) ∧
    ∀ (before middle after : List (Int × ConsoleEvent)) (t1 t2 : Int) (c1 c2 : ConsoleConn) (final : ConsoleServer),
      (before ++ (t1, .client c1) :: middle ++ (t2, .client c2) :: after).Pairwise (fun a b => a.1 ≤ b.1) →
      bootConsoleServer.run password (before ++ (t1, .client c1) :: middle ++ (t2, .client c2) :: after) = some final →
      (authenticateConsole password c1).1 = .rejected → (∀ e ∈ middle, e.2.accepts password = false) →
      ∃ s1, bootConsoleServer.run password (before ++ [(t1, .client c1)]) = some s1 ∧
        getLockoutDuration s1.authFailures ≤ t2 - t1 := by
  refine ⟨authenticateConsole_first_line password, ?_⟩
  intro before middle after t1 t2 c1 c2 final sorted ran rejected noSuccess
  obtain ⟨sortedFirst, -, second⟩ := List.pairwise_append.mp sorted
  obtain ⟨fromFirst, sortedMiddle⟩ := List.pairwise_cons.mp (List.pairwise_append.mp sortedFirst).2.1
  have afterFirst : ∀ e ∈ (t1, ConsoleEvent.client c1) :: middle, e.1 ≤ t2 := fun e mem =>
    second e (List.mem_append_right _ mem) _ (List.mem_cons_self _ _)
  rw [ConsoleServer.run_append] at ran
  obtain ⟨s2, ranFirst, ran⟩ := Option.bind_eq_some.mp ran
  obtain ⟨s3, next, -⟩ := ConsoleServer.run_cons_some ran
  rw [ConsoleServer.run_append] at ranFirst
  obtain ⟨s0, ranBefore, ranFirst⟩ := Option.bind_eq_some.mp ranFirst
  obtain ⟨s1, failed, ranMiddle⟩ := ConsoleServer.run_cons_some ranFirst
  refine ⟨s1, by simp [ConsoleServer.run_append, ranBefore, ConsoleServer.run, failed], ?_⟩
  exact ConsoleServer.failure_spacing password s0 s1 s2 s3 middle t1 t2 c1 c2 failed rejected ranMiddle next
    fromFirst (fun e mem => afterFirst e (List.mem_cons_of_mem _ mem)) (afterFirst _ (List.mem_cons_self _ _))
    sortedMiddle noSuccess

/-- A client sending a wrong password. -/
def wrongGuess : ConsoleConn := ⟨[ascii "no\n"], true⟩

/-- Two wrong guesses from boot, and the loop back at its check at 4 ns. -/
def guessesBefore : List (Int × ConsoleEvent) :=
  [(0, .check), (1, .client wrongGuess), (2, .check), (3, .client wrongGuess), (4, .check)]

/-- After a third failure at 5 ns: a check 1 ns later finds the loop locked, one 5 s after the
failure lets the next guess in. -/
def guessesMiddle : List (Int × ConsoleEvent) := [(6, .check), (5 + 5 * second, .check)]

theorem consoleServer_lockout_guesses :
    ([ascii "pw\nhelp\n"].flatten = ascii "pw\n" ++ ascii "help\n" ∧
      scanPassword (ascii "pw\n") [] 0 = .line (ascii "pw") ∧
      (authenticateConsole (ascii "pw") ⟨[ascii "pw\nhelp\n"], true⟩).1 =
        if ascii "pw" = ascii "pw" then .accepted else .rejected) ∧
    ((guessesBefore ++ (5, .client wrongGuess) :: guessesMiddle ++ (6 + 5 * second, .client wrongGuess) :: [] :
        List (Int × ConsoleEvent)).Pairwise (fun a b => a.1 ≤ b.1) ∧
      bootConsoleServer.run (ascii "pw")
        (guessesBefore ++ (5, .client wrongGuess) :: guessesMiddle ++ (6 + 5 * second, .client wrongGuess) :: []) =
        some ⟨4, 6 + 5 * second, .idle⟩ ∧
      (authenticateConsole (ascii "pw") wrongGuess).1 = .rejected ∧
      (∀ e ∈ guessesMiddle, e.2.accepts (ascii "pw") = false) ∧
      ∃ s1, bootConsoleServer.run (ascii "pw") (guessesBefore ++ [(5, .client wrongGuess)]) = some s1 ∧
        getLockoutDuration s1.authFailures ≤ 6 + 5 * second - 5) := by
  have sorted : (guessesBefore ++ (5, .client wrongGuess) :: guessesMiddle ++
      (6 + 5 * second, .client wrongGuess) :: [] : List (Int × ConsoleEvent)).Pairwise (fun a b => a.1 ≤ b.1) := by
    decide
  have ran : bootConsoleServer.run (ascii "pw")
      (guessesBefore ++ (5, .client wrongGuess) :: guessesMiddle ++ (6 + 5 * second, .client wrongGuess) :: []) =
      some ⟨4, 6 + 5 * second, .idle⟩ := by
    decide
  have rejected : (authenticateConsole (ascii "pw") wrongGuess).1 = .rejected := by decide
  have noSuccess : ∀ e ∈ guessesMiddle, e.2.accepts (ascii "pw") = false := by decide
  exact ⟨⟨rfl, rfl, (consoleServer_lockout (ascii "pw")).1 true _ _ _ _ rfl rfl⟩,
    sorted, ran, rejected, noSuccess,
    (consoleServer_lockout (ascii "pw")).2 _ _ _ _ _ _ _ _ sorted ran rejected noSuccess⟩

end Bindicator.Console
