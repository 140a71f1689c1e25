/-
**`syncNTP`: the servers, their addresses, and the backoff between failures.**

`syncNTP` tries the configured server and then each fallback that differs from it. For each it
looks the name up (`DoLookupIP`) and tries each address it resolves to (`DoNTP`). It returns at
the first offset it gets, after `runtime.AdjustTimeOffset(offset)`, `ntpTimeOffset = offset` and
`ntpSyncCount++`. After every failure, of a lookup or of an address, it records the error as
`lastErr`, calls `sleepWithWatchdog(backoff)` and doubles `backoff`, from 500 ms up to 30 s; when
nothing succeeds it counts `ntpFailCount++` and returns `0` and `lastErr`. `sleepWithWatchdog(d)`
sleeps `d` in pieces of at most two seconds, each followed by `feedWatchdogIfHealthy()`: the
hardware watchdog resets the board after eight seconds without a feed.

* `sleepWithWatchdog_pieces`: for every `d`, the pieces are positive, at most two seconds each,
  `⌈d / 2 s⌉` of them, and they add up to `d` (to nothing when `d ≤ 0`);
* `ntpServers_nodup`: the servers are tried once each, the configured one first;
* `syncNTP_attempts`: the two nested loops are one loop over the attempts in order, a failed
  lookup or an address each: `syncNTP` stops at the first offset, and waits
  `min(500 ms · 2^k, 30 s)` after the `k`-th failure before it.
-/

import Bindicator.Bytes
import Bindicator.Time

namespace Bindicator.Main

/-! ## `sleepWithWatchdog` -/

/-- The two seconds of a piece of `sleepWithWatchdog`. -/
def watchdogChunk : Int := 2 * second

/-- `sleepWithWatchdog(d)`: the pieces it sleeps, each followed by `feedWatchdogIfHealthy()`. -/
def sleepWithWatchdog (d : Int) : List Int :=
  if 0 < d then
    (if d < watchdogChunk then d else watchdogChunk) :: sleepWithWatchdog (d - if d < watchdogChunk then d else watchdogChunk)
  else []
termination_by d.toNat
decreasing_by
  have : (0 : Int) < watchdogChunk := by decide
  split <;> omega

theorem sleepWithWatchdog_of_nonpos {d : Int} (done : d ≤ 0) : sleepWithWatchdog d = [] := by
  rw [sleepWithWatchdog, if_neg (by omega)]

theorem sleepWithWatchdog_of_pos {d : Int} (left : 0 < d) :
    sleepWithWatchdog d = min d watchdogChunk :: sleepWithWatchdog (d - min d watchdogChunk) := by
  rw [sleepWithWatchdog, if_pos left]
  split
  · rw [min_eq_left (by omega)]
  · rw [min_eq_right (by omega)]

/-- **`sleepWithWatchdog` feeds the watchdog at least every two seconds of its sleep**: for every
`d` it sleeps pieces of more than nothing and at most two seconds, `⌈d / 2 s⌉` of them, which add
up to `d`, or nothing when `d` is not positive. -/
theorem sleepWithWatchdog_pieces (d : Int) :
    (∀ piece ∈ sleepWithWatchdog d, 0 < piece ∧ piece ≤ watchdogChunk) ∧
      (sleepWithWatchdog d).sum = max d 0 ∧
      ((sleepWithWatchdog d).length : Int) = (max d 0 + watchdogChunk - 1) / watchdogChunk := by
  induction d using sleepWithWatchdog.induct with
  | case1 d left ih =>
    have piece : (if _ : d < watchdogChunk then d else watchdogChunk) = min d watchdogChunk := by split <;> omega
    obtain ⟨small, total, count⟩ := piece ▸ ih
    rw [sleepWithWatchdog_of_pos left, List.forall_mem_cons, List.sum_cons, total, List.length_cons, Nat.cast_succ,
      count]
    simp only [watchdogChunk, second] at small ⊢
    exact ⟨⟨by omega, small⟩, by omega, by omega⟩
  | case2 d done =>
    rw [sleepWithWatchdog_of_nonpos (by omega)]
    simp only [List.not_mem_nil, false_implies, implies_true, List.sum_nil, List.length_nil, Nat.cast_zero,
      watchdogChunk, second, true_and]
    omega

/-! ## `syncNTP` -/

/-- `ntpFallbackServers`. -/
def ntpFallbackServers : List Bytes := [ascii "time.cloudflare.com", ascii "time.google.com", ascii "pool.ntp.org"]

/-- `servers`: `config.NTPServer()`, then each fallback that differs from it. -/
def ntpServers (configured : Bytes) : List Bytes :=
  configured :: ntpFallbackServers.filter fun fallback => fallback != configured

/-- `syncNTP` tries each server once, the configured one first. -/
theorem ntpServers_nodup (configured : Bytes) : (ntpServers configured).Nodup := by
  rw [ntpServers, List.nodup_cons]
  exact ⟨by simp, (by decide : ntpFallbackServers.Nodup).filter _⟩

/-- `backoff := 500 * time.Millisecond`. -/
def ntpMinBackoff : Int := 500 * 1000000

/-- `maxBackoff = 30 * time.Second`. -/
def ntpMaxBackoff : Int := 30 * second

/-- What the network does for one server: `DoLookupIP` fails with `err`, or returns addresses, each
with what `DoNTP` returns for it, an offset or an error. -/
inductive Lookup (ε : Type) where
  | failed (err : ε)
  | resolved (replies : List (Except ε Int))

/-- The variables `syncNTP` writes: the clock's offset (`runtime.AdjustTimeOffset` adds to it),
`ntpTimeOffset`, `ntpSyncCount`, `ntpFailCount`, and the `sleepWithWatchdog(backoff)` waits in order. -/
structure NtpState where
  clockOffset : Int
  ntpTimeOffset : Int
  ntpSyncCount : Nat
  ntpFailCount : Nat
  waits : List Int
  deriving DecidableEq, Repr

variable {ε : Type}

/-- `backoff` and `lastErr` as the loops go, with the waits so far. -/
structure Backoff (ε : Type) where
  backoff : Int
  lastErr : Option ε
  waits : List Int

/-- A failure with `err`: `lastErr = err`, `sleepWithWatchdog(backoff)`, then `backoff * 2`, capped
at `maxBackoff`. -/
def Backoff.fail (b : Backoff ε) (err : ε) : Backoff ε :=
  ⟨min (b.backoff * 2) ntpMaxBackoff, some err, b.waits ++ [b.backoff]⟩

/-- `for i, addr := range addrs`: the first offset, or the state after the failures. -/
def addressLoop : Backoff ε → List (Except ε Int) → Option Int × Backoff ε
  | b, [] => (none, b)
  | b, .ok offset :: _ => (some offset, b)
  | b, .error err :: rest => addressLoop (b.fail err) rest

/-- `for _, ntpHost := range servers`, with what the network answers for each. -/
def serverLoop : Backoff ε → List (Lookup ε) → Option Int × Backoff ε
  | b, [] => (none, b)
  | b, .failed err :: rest => serverLoop (b.fail err) rest
  | b, .resolved replies :: rest =>
    match addressLoop b replies with
    | (some offset, b') => (some offset, b')
    | (none, b') => serverLoop b' rest

/-- The end of `syncNTP`: on an offset, `runtime.AdjustTimeOffset(offset)`, `ntpTimeOffset` and
`ntpSyncCount++`, and `offset, nil`; else `ntpFailCount++`, and `0, lastErr`. -/
def ntpFinish (st : NtpState) : Option Int × Backoff ε → (Int × Option ε) × NtpState
  | (some offset, b) =>
    ((offset, none), { st with clockOffset := st.clockOffset + offset, ntpTimeOffset := offset,
                               ntpSyncCount := st.ntpSyncCount + 1, waits := st.waits ++ b.waits })
  | (none, b) => ((0, b.lastErr), { st with ntpFailCount := st.ntpFailCount + 1, waits := st.waits ++ b.waits })

/-- `syncNTP(stack, dnsServers, logger)`, with `config.NTPServer()` as `configured` and `network`
what the network answers for each server: the offset and error it returns, and the variables after. -/
def syncNTP (configured : Bytes) (network : Bytes → Lookup ε) (st : NtpState) : (Int × Option ε) × NtpState :=
  ntpFinish st (serverLoop ⟨ntpMinBackoff, none, []⟩ ((ntpServers configured).map network))

/-! ## The attempts, as one loop -/

/-- The attempts of `syncNTP` in order: a failed lookup is one, and so is each address. -/
def ntpAttempts : List (Lookup ε) → List (Except ε Int)
  | [] => []
  | .failed err :: rest => .error err :: ntpAttempts rest
  | .resolved replies :: rest => replies ++ ntpAttempts rest

/-- The `k`-th wait: 500 ms doubled `k` times, at most 30 s. -/
def ntpWait (k : Nat) : Int := min (ntpMinBackoff * 2 ^ k) ntpMaxBackoff

/-- `syncNTP` read as one loop over its attempts: the first offset, after a wait of `ntpWait k`
following the `k`-th failure before it; with no offset, the last error. -/
def ntpSpec (st : NtpState) : List (Except ε Int) → Nat → Option ε → (Int × Option ε) × NtpState
  | [], k, lastErr =>
    ((0, lastErr), { st with ntpFailCount := st.ntpFailCount + 1, waits := st.waits ++ (List.range k).map ntpWait })
  | .ok offset :: _, k, _ =>
    ((offset, none), { st with clockOffset := st.clockOffset + offset, ntpTimeOffset := offset,
                               ntpSyncCount := st.ntpSyncCount + 1, waits := st.waits ++ (List.range k).map ntpWait })
  | .error err :: rest, k, _ => ntpSpec st rest (k + 1) (some err)

/-- The address loop over two lists of attempts: the second runs when the first finds no offset. -/
theorem addressLoop_append (b : Backoff ε) (xs ys : List (Except ε Int)) :
    addressLoop b (xs ++ ys) =
      match addressLoop b xs with
      | (some offset, b') => (some offset, b')
      | (none, b') => addressLoop b' ys := by
  induction xs generalizing b with
  | nil => rfl
  | cons attempt xs ih =>
    cases attempt with
    | ok offset => rfl
    | error err => exact ih _

/-- The two loops are the address loop over the attempts. -/
theorem serverLoop_eq (b : Backoff ε) (lookups : List (Lookup ε)) :
    serverLoop b lookups = addressLoop b (ntpAttempts lookups) := by
  induction lookups generalizing b with
  | nil => rfl
  | cons lookup rest ih =>
    cases lookup with
    | failed err => exact ih _
    | resolved replies =>
      rw [serverLoop, ntpAttempts, addressLoop_append]
      split <;> simp only [ih, *]

theorem ntpWait_succ (k : Nat) : min (ntpWait k * 2) ntpMaxBackoff = ntpWait (k + 1) := by
  unfold ntpWait
  rw [min_mul_of_nonneg _ _ (by norm_num), min_assoc,
    min_eq_right (show ntpMaxBackoff ≤ ntpMaxBackoff * 2 by unfold ntpMaxBackoff second; norm_num), pow_succ,
    ← mul_assoc]

example : (List.range 7).map ntpWait = [500 * 1000000, second, 2 * second, 4 * second, 8 * second, 16 * second, 30 * second] := by
  decide

/-- From `k` failures on, the address loop does what the one loop does. -/
theorem addressLoop_spec (st : NtpState) (attempts : List (Except ε Int)) (k : Nat) (b : Backoff ε)
    (backoff : b.backoff = ntpWait k) (waited : b.waits = (List.range k).map ntpWait) :
    ntpFinish st (addressLoop b attempts) = ntpSpec st attempts k b.lastErr := by
  induction attempts generalizing k b with
  | nil => simp only [addressLoop, ntpFinish, ntpSpec, waited]
  | cons attempt rest ih =>
    cases attempt with
    | ok offset => simp only [addressLoop, ntpFinish, ntpSpec, waited]
    | error err =>
      rw [addressLoop, ntpSpec, ih (k + 1) _ (by rw [Backoff.fail, backoff, ntpWait_succ])
        (by rw [Backoff.fail, waited, List.range_succ, List.map_append, List.map_singleton, backoff])]
      rfl

/-- **`syncNTP` is one loop over its attempts**: for every answer of the network to each server,
`syncNTP` returns, and does to the clock and its variables, what the one loop over the attempts
in order (each failed lookup, each resolved address) does: it stops at the first offset, adjusts
the clock by it once and counts a sync, having waited `min(500 ms · 2^k, 30 s)` after the `k`-th
failure before it; with no offset it counts a failure and returns the last error. -/
theorem syncNTP_attempts (configured : Bytes) (network : Bytes → Lookup ε) (st : NtpState) :
    syncNTP configured network st = ntpSpec st (ntpAttempts ((ntpServers configured).map network)) 0 none := by
  rw [syncNTP, serverLoop_eq]
  exact addressLoop_spec st _ 0 _ rfl rfl

end Bindicator.Main
