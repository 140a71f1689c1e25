/-
**The TCP connection as the OTA session reads it.**

The device reads the client's byte stream through two loops, `readWithTimeout` (return on the
first bytes that arrive) and `readExactly` (loop until `len(buf)` bytes are in). Each iteration
of either loop polls the connection once: the deadline has passed, or the connection is closed,
or `conn.Read` returns what has arrived, at most the room left in the buffer. A `Conn` is the part
of the client's stream the device has not read yet, with what each of the coming polls sees;
every TCP segmentation and every delivery timing is some list of polls. A finished list of
polls is a deadline that passes: time goes on after the last event.

* `readWithTimeout_spec`: the bytes returned are a nonempty prefix of the stream, at most the
  room, and at least one poll is used; on error nothing is returned.
* `readExactly_spec`: nothing is lost or duplicated (`got ++ input = data ++ rest.input`), a
  success returns exactly `needed` bytes, and a read of a positive count uses a poll.
-/

import Bindicator.Bytes

namespace Bindicator.Ota

/-- What one poll of the connection sees. -/
inductive Poll where
  /-- `conn.Read` returns at most `n` bytes: what has arrived (`0`: nothing yet, sleep 10 ms). -/
  | arrived (n : Nat)
  /-- `time.Now().Before(deadline)` fails. -/
  | expired
  /-- `conn.State().IsClosed() || IsClosing()`, or `Read` reports `io.EOF` / `net.ErrClosed`. -/
  | closed
  deriving DecidableEq, Repr

/-- The unread part of the client's stream, and what each coming poll sees. -/
structure Conn where
  input : Bytes
  polls : List Poll
  deriving DecidableEq, Repr

/-- `errors.New("timeout")`, or `io.EOF` / `net.ErrClosed`. -/
inductive ReadError where
  | timeout
  | eof
  deriving DecidableEq, Repr

/-- What a read loop returns (`totalRead` bytes and `err`), with the connection after it. -/
structure Received where
  data : Bytes
  error : Option ReadError
  rest : Conn

/-- `readWithTimeout(conn, buf, timeout)` with `room = len(buf)`: poll until the first bytes
arrive, then return them. -/
def readWithTimeout (room : Nat) (input : Bytes) : List Poll → Received
  | [] => ⟨[], some .timeout, ⟨input, []⟩⟩
  | .expired :: polls => ⟨[], some .timeout, ⟨input, polls⟩⟩
  | .closed :: polls => ⟨[], some .eof, ⟨input, polls⟩⟩
  | .arrived n :: polls =>
    if input.take (min n room) = [] then readWithTimeout room input polls
    else ⟨input.take (min n room), none, ⟨input.drop (min n room), polls⟩⟩

/-- The loop of `readExactly` after `got` bytes: while `totalRead < needed` and before the
deadline, read into `buf[totalRead:]`. -/
def readExactlyLoop (needed : Nat) : Bytes → Bytes → List Poll → Received
  | got, input, [] => if needed ≤ got.length then ⟨got, none, ⟨input, []⟩⟩
      else ⟨got, some .timeout, ⟨input, []⟩⟩
  | got, input, poll :: polls =>
    if needed ≤ got.length then ⟨got, none, ⟨input, poll :: polls⟩⟩
    else match poll with
      | .expired => ⟨got, some .timeout, ⟨input, polls⟩⟩
      | .closed => ⟨got, some .eof, ⟨input, polls⟩⟩
      | .arrived n =>
        readExactlyLoop needed (got ++ input.take (min n (needed - got.length)))
          (input.drop (min n (needed - got.length))) polls

/-- `readExactly(conn, buf, timeout)` with `needed = len(buf)`. -/
def readExactly (needed : Nat) (conn : Conn) : Received :=
  readExactlyLoop needed [] conn.input conn.polls

/-! ## What a read returns -/

/-- **`readWithTimeout` returns a nonempty prefix of the stream that fits the buffer**, and
uses at least one poll; on error it returns nothing. -/
theorem readWithTimeout_spec (room : Nat) (input : Bytes) (polls : List Poll) :
    (readWithTimeout room input polls).data ++ (readWithTimeout room input polls).rest.input =
        input ∧
      (readWithTimeout room input polls).rest.polls.length ≤ polls.length ∧
      ((readWithTimeout room input polls).error = none →
        (readWithTimeout room input polls).data ≠ [] ∧
        (readWithTimeout room input polls).data.length ≤ room ∧
        (readWithTimeout room input polls).rest.polls.length < polls.length) ∧
      ((readWithTimeout room input polls).error ≠ none →
        (readWithTimeout room input polls).data = []) := by
  induction polls with
  | nil => simp [readWithTimeout]
  | cons poll polls ih =>
    cases poll with
    | expired => simp [readWithTimeout]
    | closed => simp [readWithTimeout]
    | arrived n =>
      simp only [readWithTimeout]
      split
      · obtain ⟨split, shorter, success, failure⟩ := ih
        exact ⟨split, by simp; omega, fun ok => ⟨(success ok).1, (success ok).2.1,
          by simp; have := (success ok).2.2; omega⟩, failure⟩
      · refine ⟨List.take_append_drop _ _, by simp, fun _ => ⟨‹_›, ?_, by simp⟩, by simp⟩
        simp only [List.length_take]
        omega

/-- **`readExactly`'s loop loses and duplicates nothing, and a success has `needed` bytes.** -/
theorem readExactlyLoop_spec (needed : Nat) (got input : Bytes) (polls : List Poll)
    (room : got.length ≤ needed) :
    got ++ input = (readExactlyLoop needed got input polls).data ++
        (readExactlyLoop needed got input polls).rest.input ∧
      (readExactlyLoop needed got input polls).rest.polls.length ≤ polls.length ∧
      ((readExactlyLoop needed got input polls).error = none →
        (readExactlyLoop needed got input polls).data.length = needed ∧
        (got.length < needed →
          (readExactlyLoop needed got input polls).rest.polls.length < polls.length)) := by
  induction polls generalizing got input with
  | nil =>
    simp only [readExactlyLoop]
    split
    · simp; omega
    · simp
  | cons poll polls ih =>
    simp only [readExactlyLoop]
    split
    · simp; omega
    · cases poll with
      | expired => simp
      | closed => simp
      | arrived n =>
        have fits : (got ++ input.take (min n (needed - got.length))).length ≤ needed := by
          simp; omega
        obtain ⟨split, shorter, success⟩ := ih _ _ fits
        refine ⟨by rw [← split, List.append_assoc, List.take_append_drop], by simp; omega,
          fun ok => ⟨(success ok).1, fun _ => ?_⟩⟩
        simp only [List.length_cons]
        omega

theorem readExactly_spec (needed : Nat) (conn : Conn) :
    conn.input = (readExactly needed conn).data ++ (readExactly needed conn).rest.input ∧
      (readExactly needed conn).rest.polls.length ≤ conn.polls.length ∧
      ((readExactly needed conn).error = none →
        (readExactly needed conn).data.length = needed ∧
        (0 < needed → (readExactly needed conn).rest.polls.length < conn.polls.length)) := by
  simpa using readExactlyLoop_spec needed [] conn.input conn.polls (Nat.zero_le _)

/-- A read of nothing succeeds at once, with nothing read and no poll used. -/
@[simp] theorem readExactly_zero (conn : Conn) : readExactly 0 conn = ⟨[], none, conn⟩ := by
  unfold readExactly
  cases conn with
  | mk input polls => cases polls <;> simp [readExactlyLoop]

/-! ## Reads that get their bytes -/

/-- The polls bring `needed` bytes before any deadline passes or the connection closes,
leaving `rest`; a poll that brings nothing just waits. -/
inductive Delivers : Nat → List Poll → List Poll → Prop where
  | done (polls : List Poll) : Delivers 0 polls polls
  | arrive (needed n : Nat) (polls rest : List Poll) : 0 < needed →
      Delivers (needed - min n needed) polls rest → Delivers needed (.arrived n :: polls) rest

theorem readExactlyLoop_delivers (needed : Nat) (got input : Bytes) (polls rest : List Poll)
    (delivers : Delivers (needed - got.length) polls rest) (room : got.length ≤ needed)
    (enough : needed - got.length ≤ input.length) :
    readExactlyLoop needed got input polls =
      ⟨got ++ input.take (needed - got.length), none, ⟨input.drop (needed - got.length), rest⟩⟩ := by
  generalize missing : needed - got.length = k at delivers
  induction delivers generalizing got input with
  | done polls =>
    have full : needed ≤ got.length := by omega
    cases polls <;> simp [readExactlyLoop, full]
  | arrive k n polls rest positive _ ih =>
    have taken : (input.take (min n (needed - got.length))).length = min n k := by
      simp only [List.length_take]
      omega
    rw [readExactlyLoop, if_neg (by omega)]
    rw [ih _ _ (by simp only [List.length_append, taken]; omega)
      (by simp only [List.length_append, taken, List.length_drop]; omega)
      (by simp only [List.length_append, taken]; omega)]
    simp only [List.length_append, taken, List.append_assoc, List.drop_drop, ← missing]
    congr 2
    · rw [← List.take_add]
      congr 1
      omega
    · congr 1
      omega

/-- **A read of `needed` bytes whose polls deliver them returns exactly the next `needed` bytes.** -/
theorem readExactly_delivers (needed : Nat) (input : Bytes) (polls rest : List Poll)
    (delivers : Delivers needed polls rest) (enough : needed ≤ input.length) :
    readExactly needed ⟨input, polls⟩ = ⟨input.take needed, none, ⟨input.drop needed, rest⟩⟩ := by
  simpa using readExactlyLoop_delivers needed [] input polls rest (by simpa using delivers)
    (Nat.zero_le _) (by simpa using enough)

/-- **`readWithTimeout` returns what the first poll that brings bytes brings**, after any number
of polls that bring nothing. -/
theorem readWithTimeout_first (room n waits : Nat) (input : Bytes) (rest : List Poll)
    (someInput : input ≠ []) (positive : 0 < min n room) :
    readWithTimeout room input (List.replicate waits (.arrived 0) ++ .arrived n :: rest) =
      ⟨input.take (min n room), none, ⟨input.drop (min n room), rest⟩⟩ := by
  induction waits with
  | zero =>
    have nonempty : input.take (min n room) ≠ [] := by
      simp only [ne_eq, List.take_eq_nil_iff, not_or]
      exact ⟨by omega, someInput⟩
    rw [List.replicate_zero, List.nil_append, readWithTimeout, if_neg nonempty]
  | succ waits ih =>
    rw [List.replicate_succ, List.cons_append, readWithTimeout, if_pos (by simp), ih]

end Bindicator.Ota
