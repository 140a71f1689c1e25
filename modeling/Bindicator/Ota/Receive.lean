/-
**The receive loop, chunk by chunk.**

Whatever the client sends and however it arrives, a session that got past the handshake has
read a run of well-formed frames — a four-byte little-endian length that is not `DONE`, at most
`len(otaChunk)`, and that many payload bytes — and then ended in one of the five ways of
`Ending`, at the connection its reads reached. Leaving the erases aside, what it did for the frames is `acceptTrace`: the `i`-th
payload written at `partitionOffset + |c₁| + … + |cᵢ₋₁|`, then `ACK` with the decimal of
`|c₁| + … + |cᵢ|`. The loop's variables at the end hold the sum of the payload lengths, at most
`otaMaxFwSize`, and the hasher has absorbed exactly their concatenation.

* `receive_trace`: the loop invariant, by induction on the iterations, from `receiveStep_next`
  and `receiveStep_stop`.
* `handleOTASession_accepted_chunks`: the same for the whole session, at the connection its reads
  reached (`readFrames`); a session whose greeting read fails or does not start with `OTA` is
  silent.

A header over either limit is one of the endings: the reply is the `ERROR` line alone, and
neither the reply nor the variables depend on any byte after the header.
-/

import Bindicator.Ota.Session

namespace Bindicator.Ota

/-- A frame on the wire: a four-byte length and the chunk it announces. -/
structure Frame where
  header : Bytes
  payload : Bytes
  deriving DecidableEq, Repr

/-- A frame the receive loop takes as a chunk: a four-byte header that is not `DONE` and
announces its payload's length, at most `len(otaChunk)`. -/
def Frame.Accepted (f : Frame) : Prop :=
  f.header.length = 4 ∧ f.header ≠ ascii "DONE" ∧ leUint32 f.header = f.payload.length ∧
    f.payload.length ≤ otaBufSize

/-- The bytes of a run of frames. -/
def framesBytes (frames : List Frame) : Bytes := frames.flatMap fun f => f.header ++ f.payload

/-- The connection once the loop has read `frames`: for each, the header and then as many payload
bytes as it announces. -/
def readFrames (conn : Conn) : List Frame → Conn
  | [] => conn
  | f :: frames => readFrames (readExactly f.payload.length (readExactly 4 conn).rest).rest frames

/-- The greeting `handleOTASession` goes on after: a read that did not fail and starts with
`OTA`. -/
def Greeted (greeting : Received) : Prop :=
  greeting.error = none ∧ 3 ≤ greeting.data.length ∧ greeting.data.take 3 = ascii "OTA"

instance (greeting : Received) : Decidable (Greeted greeting) :=
  inferInstanceAs (Decidable (_ ∧ _ ∧ _))

/-- The erases, told apart from the other effects. -/
def Effect.isErase : Effect → Bool
  | .erase _ => true
  | _ => false

/-- The `READY <otaMaxFwSize>` line. -/
def readyReply : Effect := .reply (ascii "READY " ++ decimal otaMaxFwSize ++ ascii "\n")

theorem filter_readyReply (l : List Effect) :
    (readyReply :: l).filter (fun e => !e.isErase) = readyReply :: l.filter (fun e => !e.isErase) :=
  rfl

/-- The `ACK <n>` line. -/
def ackLine (n : Nat) : Effect := .reply (ascii "ACK " ++ decimal n ++ ascii "\n")

/-- Writing and acknowledging `chunks` after `done` bytes: each chunk written right after the
previous ones, then acknowledged with the running total. -/
def acceptTrace (offset : Nat) : Nat → List Bytes → List Effect
  | _, [] => []
  | done, chunk :: chunks => .write (offset + done) chunk :: ackLine (done + chunk.length) ::
      acceptTrace offset (done + chunk.length) chunks

theorem eraseLoop_isErase (offset count sector : Nat) (erased : Nat → Bool) :
    ∀ e ∈ (eraseLoop offset count sector erased).1, e.isErase := by
  induction count generalizing sector erased with
  | zero => simp [eraseLoop]
  | succ count ih =>
    simp only [eraseLoop]
    split
    · simpa [Effect.isErase] using ih _ _
    · exact ih _ _

theorem eraseChunk_filter (st : Receiver) (chunkLen : Nat) :
    (eraseChunk st chunkLen).1.filter (fun e => !e.isErase) = [] :=
  List.filter_eq_nil_iff.mpr fun e mem => by simpa using eraseLoop_isErase _ _ _ _ e mem

/-- An ending erases nothing. -/
theorem Ending.filter_noErase {st : Receiver} {conn : Conn} {effects : List Effect}
    (ending : Ending st conn effects) : effects.filter (fun e => !e.isErase) = effects := by
  cases ending with
  | done =>
    unfold doneLine
    dsimp only
    split_ifs <;> rfl
  | _ => rfl

theorem ackReply_eq_ackLine (n : Nat) (fits : n < 10 ^ 10) : ackReply n = ackLine n := by
  rw [ackReply, ackLine, writeOTAInt_eq_decimal n fits]

/-- With the new total within `otaMaxFwSize` and room above the partition offset, neither
`uint32` sum of an accepted frame wraps and its `ACK` is the decimal of the new total. -/
theorem acceptEffects_eq (st : Receiver) (payload : Bytes)
    (fits : st.totalBytes + payload.length ≤ otaMaxFwSize)
    (offsetFits : st.partitionOffset + otaMaxFwSize < 2 ^ 32) :
    [.write (u32 (st.partitionOffset + st.totalBytes)) payload,
        ackReply (u32 (st.totalBytes + payload.length))] =
      [.write (st.partitionOffset + st.totalBytes) payload, ackLine (st.totalBytes + payload.length)] := by
  have noWrap : u32 (st.totalBytes + payload.length) = st.totalBytes + payload.length :=
    Nat.mod_eq_of_lt (by omega)
  have writeAt : u32 (st.partitionOffset + st.totalBytes) = st.partitionOffset + st.totalBytes :=
    Nat.mod_eq_of_lt (by omega)
  rw [noWrap, writeAt, ackReply_eq_ackLine _ (by unfold otaMaxFwSize at fits; omega)]

/-- **What an accepted frame does besides erasing**: it writes the payload at the running total
and acknowledges the new total. -/
theorem acceptEffects_filter (st : Receiver) (payload : Bytes)
    (fits : st.totalBytes + payload.length ≤ otaMaxFwSize)
    (offsetFits : st.partitionOffset + otaMaxFwSize < 2 ^ 32) :
    ((eraseChunk st payload.length).1 ++ [.write (u32 (st.partitionOffset + st.totalBytes)) payload,
        ackReply (u32 (st.totalBytes + payload.length))]).filter (fun e => !e.isErase) =
      [.write (st.partitionOffset + st.totalBytes) payload, ackLine (st.totalBytes + payload.length)] := by
  rw [List.filter_append, eraseChunk_filter, acceptEffects_eq st payload fits offsetFits]
  rfl

/-- **The loop invariant of the receive loop**, over every run with enough fuel: the effects
are those of the accepted frames, ending with the last `ACK`, followed by the ending's. -/
theorem receive_trace (fuel : Nat) (st : Receiver) (conn : Conn)
    (enough : conn.polls.length < fuel) (bounded : st.totalBytes ≤ otaMaxFwSize)
    (offsetFits : st.partitionOffset + otaMaxFwSize < 2 ^ 32) :
    ∃ frames body st' conn' ending,
      conn.input = framesBytes frames ++ conn'.input ∧ (∀ f ∈ frames, f.Accepted) ∧
      receive fuel st conn = body ++ ending ∧
      body.filter (fun e => !e.isErase) =
        acceptTrace st.partitionOffset st.totalBytes (frames.map Frame.payload) ∧
      ((frames = [] ∧ body = []) ∨ ∃ before, body = before ++ [ackLine st'.totalBytes]) ∧
      st'.totalBytes = st.totalBytes + (frames.map fun f => f.payload.length).sum ∧
      st'.totalBytes ≤ otaMaxFwSize ∧
      st'.hashed = st.hashed ++ (frames.map Frame.payload).flatten ∧
      st'.partitionOffset = st.partitionOffset ∧ st'.targetPartition = st.targetPartition ∧
      conn' = readFrames conn frames ∧ Ending st' conn' ending := by
  induction fuel generalizing st conn with
  | zero => omega
  | succ fuel ih =>
    rw [receive_succ_eq]
    split
    · rename_i effects step
      exact ⟨[], [], st, conn, effects, by simp [framesBytes], by simp, rfl, rfl, .inl ⟨rfl, rfl⟩,
        by simp, bounded, by simp, rfl, rfl, rfl, receiveStep_stop step⟩
    · rename_i effects st1 conn1 step
      obtain ⟨header, payload, split, headerLen, notDone, announced, small, fits, used, rfl, rfl, next⟩ :=
        receiveStep_next step
      have noWrap : u32 (st.totalBytes + payload.length) = st.totalBytes + payload.length :=
        Nat.mod_eq_of_lt (by unfold otaMaxFwSize otaBufSize at *; omega)
      have within : st.totalBytes + payload.length ≤ otaMaxFwSize := noWrap ▸ fits
      obtain ⟨frames, body, st', conn', ending, rest, accepted, run, trace, last, total, bound, hashed,
        offset, target, reached, ends⟩ := ih (st.accept (eraseChunk st payload.length).2 payload) conn1
          (by omega) (by simp only [Receiver.accept]; omega) offsetFits
      simp only [Receiver.accept, noWrap] at trace total hashed offset target
      refine ⟨⟨header, payload⟩ :: frames, (eraseChunk st payload.length).1 ++
          [.write (st.partitionOffset + st.totalBytes) payload, ackLine (st.totalBytes + payload.length)] ++ body,
        st', conn', ending, ?_, ?_, ?_, ?_, ?_, ?_, bound, ?_, offset, target, by rw [reached, next]; rfl, ends⟩
      · rw [split, rest]
        simp [framesBytes]
      · simp only [List.mem_cons, forall_eq_or_imp]
        exact ⟨⟨headerLen, notDone, announced, small⟩, accepted⟩
      · rw [run, acceptEffects_eq st payload within offsetFits]
        simp
      · rw [List.filter_append, ← acceptEffects_eq st payload within offsetFits,
          acceptEffects_filter st payload within offsetFits, trace]
        rfl
      · right
        rcases last with ⟨rfl, rfl⟩ | ⟨before, rfl⟩
        · exact ⟨(eraseChunk st payload.length).1 ++ [.write (st.partitionOffset + st.totalBytes) payload],
            by simp [total]⟩
        · exact ⟨(eraseChunk st payload.length).1 ++ [.write (st.partitionOffset + st.totalBytes) payload,
            ackLine (st.totalBytes + payload.length)] ++ before, by simp⟩
      · rw [total]
        simp only [List.map_cons, List.sum_cons]
        omega
      · rw [hashed]
        simp

/-- The session replies `READY` and runs the loop when the greeting starts with `OTA`, and is
silent otherwise. -/
theorem handleOTASession_eq (current : Nat) (conn : Conn) :
    handleOTASession current conn =
      if Greeted (readWithTimeout 128 conn.input conn.polls) then
        readyReply :: receiveAll (Receiver.start (getTargetPartition current))
          (readWithTimeout 128 conn.input conn.polls).rest
      else [] := by
  unfold handleOTASession Greeted
  dsimp only
  rw [readyReply, ← writeOTAInt_eq_decimal _ (by unfold otaMaxFwSize; norm_num)]
  by_cases failed : (readWithTimeout 128 conn.input conn.polls).error = none <;>
    by_cases long : 3 ≤ (readWithTimeout 128 conn.input conn.polls).data.length <;>
    simp [failed, long, receiveAll]

/-- **A session greeted with `OTA` accepted a run of frames, then ended**, at the connection its
reads reached: past the greeting read and the frames, header and payload each. -/
theorem greeted_session (current : Nat) (conn : Conn)
    (greeted : Greeted (readWithTimeout 128 conn.input conn.polls)) :
    ∃ frames body st ending,
      conn.input = (readWithTimeout 128 conn.input conn.polls).data ++ framesBytes frames ++
        (readFrames (readWithTimeout 128 conn.input conn.polls).rest frames).input ∧
      (∀ f ∈ frames, f.Accepted) ∧
      handleOTASession current conn = readyReply :: body ++ ending ∧
      body.filter (fun e => !e.isErase) =
        acceptTrace (getPartitionOffset (getTargetPartition current)) 0 (frames.map Frame.payload) ∧
      ((frames = [] ∧ body = []) ∨ ∃ before, body = before ++ [ackLine st.totalBytes]) ∧
      st.totalBytes = (frames.map fun f => f.payload.length).sum ∧ st.totalBytes ≤ otaMaxFwSize ∧
      st.hashed = (frames.map Frame.payload).flatten ∧
      st.targetPartition = getTargetPartition current ∧
      Ending st (readFrames (readWithTimeout 128 conn.input conn.polls).rest frames) ending := by
  set init := readWithTimeout 128 conn.input conn.polls
  obtain ⟨lineSplit, -, -, -⟩ := readWithTimeout_spec 128 conn.input conn.polls
  obtain ⟨frames, body, st, conn', ending, rest, accepted, run, trace, last, total, bound, hashed, -,
    target, rfl, ends⟩ :=
    receive_trace (init.rest.polls.length + 1) (Receiver.start (getTargetPartition current))
      init.rest (Nat.lt_succ_self _) (by simp [Receiver.start])
      (getPartitionOffset_fits (getTargetPartition current)).1
  refine ⟨frames, body, st, ending, by rw [← lineSplit, rest, List.append_assoc], accepted, ?_,
    by simpa [Receiver.start] using trace, last, by simpa [Receiver.start] using total, bound,
    by simpa [Receiver.start] using hashed, by simpa [Receiver.start] using target, ends⟩
  rw [handleOTASession_eq, if_pos greeted, receiveAll, run]
  rfl

/-- **Every session is silent after a greeting that fails, and otherwise accepted a run of frames,
then ended.** It replied `READY`; for the `i`-th frame it erased, wrote the payload right after
the earlier ones in the target partition and acknowledged the running total in decimal; the last
of these is the last `ACK`. The ending follows at the connection its reads reached, with
variables that hold the payloads' total, at most `otaMaxFwSize`, and have hashed exactly their
concatenation, and it is the one the iteration there takes (`Ending`): a header over a limit is
answered with its `ERROR` line alone, and the session ends. -/
theorem handleOTASession_accepted_chunks (current : Nat) (conn : Conn) :
    (¬Greeted (readWithTimeout 128 conn.input conn.polls) ∧ handleOTASession current conn = []) ∨
    Greeted (readWithTimeout 128 conn.input conn.polls) ∧
    ∃ frames body st ending,
      conn.input = (readWithTimeout 128 conn.input conn.polls).data ++ framesBytes frames ++
        (readFrames (readWithTimeout 128 conn.input conn.polls).rest frames).input ∧
      (∀ f ∈ frames, f.Accepted) ∧
      handleOTASession current conn = readyReply :: body ++ ending ∧
      body.filter (fun e => !e.isErase) =
        acceptTrace (getPartitionOffset (getTargetPartition current)) 0 (frames.map Frame.payload) ∧
      ((frames = [] ∧ body = []) ∨ ∃ before, body = before ++ [ackLine st.totalBytes]) ∧
      st.totalBytes = (frames.map fun f => f.payload.length).sum ∧ st.totalBytes ≤ otaMaxFwSize ∧
      st.hashed = (frames.map Frame.payload).flatten ∧
      st.targetPartition = getTargetPartition current ∧
      Ending st (readFrames (readWithTimeout 128 conn.input conn.polls).rest frames) ending := by
  by_cases greeted : Greeted (readWithTimeout 128 conn.input conn.polls)
  · exact .inr ⟨greeted, greeted_session current conn greeted⟩
  · exact .inl ⟨greeted, by rw [handleOTASession_eq, if_neg greeted]⟩

end Bindicator.Ota
