/-
**`handleOTASession`: the handshake, the receive loop and the DONE line.**

The session is a function of the boot partition and the connection; its result is what it does
that the outside sees, in order: replies on the wire, sector erases, chunk writes and the reboot.
Logging, sleeps, `runtime.Gosched`, the watchdog feeds and the telemetry pause and resume around
the session do not change these and are left out here (the supervisor and the task model cover
the last two).

The body of the receive loop is `receiveStep`: one iteration reads a four-byte header, and either
ends the session (a failed read, `DONE`, or a header over a limit: `Ending`, each with every
condition of its branch) or accepts one chunk: read its
payload, hash it, erase the sectors it first touches, write it, and reply `ACK <total>`. The loop
`receive` repeats the step; its fuel is one more than the polls left, and every accepted chunk
uses a poll (`receiveStep_next`), so the fuel never runs out (`receive_succ`).

`ota.EraseSector` and `ota.WriteChunk` return `nil` on every call in the listed `ota` package, so
the branches that reply `ERROR erase failed` and `ERROR write failed` are never taken and are not
modelled.
-/

import Bindicator.Crypto.Sha256
import Bindicator.Ota.Partition
import Bindicator.Ota.Conn

namespace Bindicator.Ota

/-- What the session does that the outside sees. -/
inductive Effect where
  /-- Bytes written by `writeOTA` / `writeOTAInt` and pushed by `flushOTA`. -/
  | reply (bytes : Bytes)
  /-- `ota.EraseSector(offset)`. -/
  | erase (offset : Nat)
  /-- `ota.WriteChunk(offset, data)`. -/
  | write (offset : Nat) (data : Bytes)
  /-- `ota.RebootToPartition(partition)`. -/
  | reboot (partition : Nat)
  deriving DecidableEq, Repr

/-- The variables of the receive loop. -/
structure Receiver where
  targetPartition : Nat
  partitionOffset : Nat
  /-- `var erasedSectors [512]bool`. -/
  erasedSectors : Nat → Bool
  /-- `var totalBytes uint32`. -/
  totalBytes : Nat
  /-- The bytes written into `hasher`. -/
  hashed : Bytes
  chunkNum : Nat

/-- The loop's variables after `ota.GetTargetPartition()` and `GetPartitionOffset`. -/
def Receiver.start (target : Nat) : Receiver :=
  ⟨target, getPartitionOffset target, fun _ => false, 0, [], 0⟩

/-! ## The erase loop -/

/-- `erasedSectors[sector] = true`. -/
def markSector (erased : Nat → Bool) (sector : Nat) : Nat → Bool :=
  fun i => if i = sector then true else erased i

/-- `startSector := totalBytes / ota.SectorSize`. -/
def startSector (totalBytes : Nat) : Nat := totalBytes / sectorSize

/-- `endSector := (totalBytes + chunkLen - 1) / ota.SectorSize`, in `uint32`: the `- 1` wraps
when `totalBytes + chunkLen = 0`. -/
def endSector (totalBytes chunkLen : Nat) : Nat :=
  u32 (totalBytes + chunkLen + (2 ^ 32 - 1)) / sectorSize

/-- `for sector := ...; sector <= endSector; sector++` for `count` more sectors: a sector below
`len(erasedSectors)` not yet marked is erased at `partitionOffset + sector * ota.SectorSize`
and marked. Returns the erases and the bitmap after them. -/
def eraseLoop (partitionOffset : Nat) : Nat → Nat → (Nat → Bool) → List Effect × (Nat → Bool)
  | 0, _, erased => ([], erased)
  | count + 1, sector, erased =>
    if sector < erasedSectorsLen ∧ erased sector = false then
      let next := eraseLoop partitionOffset count (sector + 1) (markSector erased sector)
      (.erase (u32 (partitionOffset + u32 (sector * sectorSize))) :: next.1, next.2)
    else eraseLoop partitionOffset count (sector + 1) erased

/-- The erase loop of one chunk: from `startSector` through `endSector`. -/
def eraseChunk (st : Receiver) (chunkLen : Nat) : List Effect × (Nat → Bool) :=
  eraseLoop st.partitionOffset (endSector st.totalBytes chunkLen + 1 - startSector st.totalBytes)
    (startSector st.totalBytes) st.erasedSectors

/-! ## One iteration of the receive loop -/

/-- The DONE branch: read the rest of the line into `readBuf[4:]`, take the digest after
`"DONE "`, and compare it with the hex of `hasher.Sum(nil)` unless it is empty. -/
def doneLine (st : Receiver) (conn : Conn) : List Effect :=
  let fullCmd := ascii "DONE" ++ (readWithTimeout 124 conn.input conn.polls).data
  let expectedHash := if 5 < fullCmd.length then trimSpace (fullCmd.drop 5) else []
  if expectedHash ≠ [] ∧ expectedHash ≠ formatHashHex (sha256 st.hashed) then
    [.reply (ascii "ERROR hash mismatch\n")]
  else [.reply (ascii "VERIFIED\n"), .reboot st.targetPartition]

/-- How one iteration of the receive loop ends. -/
inductive Step where
  /-- The session returns after these effects. -/
  | stop (effects : List Effect)
  /-- The loop goes on, after these effects, with these variables and this connection. -/
  | next (effects : List Effect) (st : Receiver) (conn : Conn)

/-- The variables after accepting a chunk. -/
def Receiver.accept (st : Receiver) (erased : Nat → Bool) (payload : Bytes) : Receiver :=
  { st with erasedSectors := erased, totalBytes := u32 (st.totalBytes + payload.length),
            hashed := st.hashed ++ payload, chunkNum := st.chunkNum + 1 }

/-- The `ACK <totalBytes>` reply. -/
def ackReply (totalBytes : Nat) : Effect :=
  .reply (ascii "ACK " ++ writeOTAInt totalBytes ++ ascii "\n")

/-- The body of `for { ... }` in `handleOTASession`. -/
def receiveStep (st : Receiver) (conn : Conn) : Step :=
  let header := readExactly 4 conn
  if header.error ≠ none then .stop [] else
  if header.data = ascii "DONE" then .stop (doneLine st header.rest) else
  let chunkLen := leUint32 header.data
  if otaBufSize < chunkLen then .stop [.reply (ascii "ERROR chunk too large\n")] else
  if otaMaxFwSize < u32 (st.totalBytes + chunkLen) then
    .stop [.reply (ascii "ERROR firmware too large\n")] else
  let payload := readExactly chunkLen header.rest
  if payload.error ≠ none then .stop [] else
  let erased := eraseChunk st chunkLen
  .next (erased.1 ++ [.write (u32 (st.partitionOffset + st.totalBytes)) payload.data,
      ackReply (u32 (st.totalBytes + chunkLen))])
    (st.accept erased.2 payload.data) payload.rest

/-- The receive loop, for at most `fuel` iterations. -/
def receive : Nat → Receiver → Conn → List Effect
  | 0, _, _ => []
  | fuel + 1, st, conn =>
    match receiveStep st conn with
    | .stop effects => effects
    | .next effects st' conn' => effects ++ receive fuel st' conn'

/-- `handleOTASession`: wait for `"OTA"`, reply `READY <otaMaxFwSize>`, then receive. -/
def handleOTASession (current : Nat) (conn : Conn) : List Effect :=
  let init := readWithTimeout 128 conn.input conn.polls
  if init.error ≠ none ∨ init.data.length < 3 then [] else
  if init.data.take 3 ≠ ascii "OTA" then [] else
  .reply (ascii "READY " ++ writeOTAInt otaMaxFwSize ++ ascii "\n") ::
    receive (init.rest.polls.length + 1) (Receiver.start (getTargetPartition current)) init.rest

/-! ## What one iteration can do -/

/-- **Every iteration that goes on accepted one chunk**: it read a header that is not `DONE`
and whose length is within both limits, then exactly that many payload bytes, used a poll, and
did the chunk's erases, its write at `partitionOffset + totalBytes` and its `ACK`. -/
theorem receiveStep_next {st st' : Receiver} {conn conn' : Conn} {effects : List Effect}
    (step : receiveStep st conn = .next effects st' conn') :
    ∃ header payload, conn.input = header ++ payload ++ conn'.input ∧ header.length = 4 ∧
      header ≠ ascii "DONE" ∧ leUint32 header = payload.length ∧
      payload.length ≤ otaBufSize ∧ u32 (st.totalBytes + payload.length) ≤ otaMaxFwSize ∧
      conn'.polls.length < conn.polls.length ∧
      effects = (eraseChunk st payload.length).1 ++
        [.write (u32 (st.partitionOffset + st.totalBytes)) payload,
          ackReply (u32 (st.totalBytes + payload.length))] ∧
      st' = st.accept (eraseChunk st payload.length).2 payload ∧
      conn' = (readExactly payload.length (readExactly 4 conn).rest).rest := by
  unfold receiveStep at step
  dsimp only at step
  obtain ⟨headerSplit, headerPolls, headerOk⟩ := readExactly_spec 4 conn
  split at step; · cases step
  rename_i headerRead
  split at step; · cases step
  rename_i notDone
  split at step; · cases step
  rename_i small
  split at step; · cases step
  rename_i fits
  obtain ⟨payloadSplit, payloadPolls, payloadOk⟩ :=
    readExactly_spec (leUint32 (readExactly 4 conn).data) (readExactly 4 conn).rest
  split at step; · cases step
  rename_i payloadRead
  simp only [not_not] at headerRead payloadRead
  obtain ⟨headerLen, headerUsed⟩ := headerOk headerRead
  obtain ⟨payloadLen, -⟩ := payloadOk payloadRead
  cases step
  refine ⟨_, _, by rw [headerSplit, payloadSplit, List.append_assoc], headerLen, notDone,
    payloadLen.symm, ?_, ?_, by have := headerUsed (by norm_num); omega, ?_, ?_, ?_⟩ <;>
    rw [payloadLen] <;> omega

/-- How the receive loop can end at variables `st` and connection `conn`, each way with every
condition of its branch: the ending of an iteration is the one `receiveStep` takes
(`receiveStep_stop_iff`). -/
inductive Ending (st : Receiver) (conn : Conn) : List Effect → Prop where
  /-- The header read timed out or hit a closed connection: return in silence. -/
  | headerFailed : (readExactly 4 conn).error ≠ none → Ending st conn []
  /-- The header is `DONE`: the digest line decides. -/
  | done : (readExactly 4 conn).error = none → (readExactly 4 conn).data = ascii "DONE" →
      Ending st conn (doneLine st (readExactly 4 conn).rest)
  /-- The header asks for more than `len(otaChunk)`: the `ERROR` line, and nothing of the chunk
  is read. -/
  | chunkTooLarge : (readExactly 4 conn).error = none → (readExactly 4 conn).data ≠ ascii "DONE" →
      otaBufSize < leUint32 (readExactly 4 conn).data →
      Ending st conn [.reply (ascii "ERROR chunk too large\n")]
  /-- The header would take `totalBytes` past `otaMaxFwSize`: the `ERROR` line, and nothing of the
  chunk is read. -/
  | firmwareTooLarge : (readExactly 4 conn).error = none → (readExactly 4 conn).data ≠ ascii "DONE" →
      leUint32 (readExactly 4 conn).data ≤ otaBufSize →
      otaMaxFwSize < u32 (st.totalBytes + leUint32 (readExactly 4 conn).data) →
      Ending st conn [.reply (ascii "ERROR firmware too large\n")]
  /-- The header is within both limits and the payload read timed out or hit a closed
  connection: return in silence, nothing of the chunk erased, written or hashed. -/
  | payloadFailed : (readExactly 4 conn).error = none → (readExactly 4 conn).data ≠ ascii "DONE" →
      leUint32 (readExactly 4 conn).data ≤ otaBufSize →
      u32 (st.totalBytes + leUint32 (readExactly 4 conn).data) ≤ otaMaxFwSize →
      (readExactly (leUint32 (readExactly 4 conn).data) (readExactly 4 conn).rest).error ≠ none →
      Ending st conn []

/-- **Every iteration that stops ends in one of the five ways of `Ending`.** -/
theorem receiveStep_stop {st : Receiver} {conn : Conn} {effects : List Effect}
    (step : receiveStep st conn = .stop effects) : Ending st conn effects := by
  unfold receiveStep at step
  dsimp only at step
  split at step; · cases step; exact .headerFailed ‹_›
  rename_i headerRead
  simp only [not_not] at headerRead
  split at step; · cases step; exact .done headerRead ‹_›
  rename_i notDone
  split at step; · cases step; exact .chunkTooLarge headerRead notDone ‹_›
  split at step; · cases step; exact .firmwareTooLarge headerRead notDone (by omega) ‹_›
  split at step; · cases step; exact .payloadFailed headerRead notDone (by omega) (by omega) ‹_›
  cases step

/-- Each way of `Ending` is the iteration's: `Ending` holds of no effects but the ones it returns. -/
theorem Ending.receiveStep_eq {st : Receiver} {conn : Conn} {effects : List Effect}
    (ending : Ending st conn effects) : receiveStep st conn = .stop effects := by
  cases ending with
  | headerFailed failed => simp [receiveStep, failed]
  | done read isDone => simp [receiveStep, read, isDone]
  | chunkTooLarge read notDone large => simp [receiveStep, read, notDone, large]
  | firmwareTooLarge read notDone small large =>
    simp [receiveStep, read, notDone, Nat.not_lt.mpr small, large]
  | payloadFailed read notDone small fits failed =>
    simp [receiveStep, read, notDone, Nat.not_lt.mpr small, Nat.not_lt.mpr fits, failed]

theorem receiveStep_stop_iff {st : Receiver} {conn : Conn} {effects : List Effect} :
    receiveStep st conn = .stop effects ↔ Ending st conn effects :=
  ⟨receiveStep_stop, Ending.receiveStep_eq⟩

/-- **An iteration that reads a frame within both limits accepts it.** -/
theorem receiveStep_accept {st : Receiver} {conn afterHeader afterPayload : Conn}
    {header payload : Bytes} (headerRead : readExactly 4 conn = ⟨header, none, afterHeader⟩)
    (notDone : header ≠ ascii "DONE") (announced : leUint32 header = payload.length)
    (small : payload.length ≤ otaBufSize) (fits : u32 (st.totalBytes + payload.length) ≤ otaMaxFwSize)
    (payloadRead : readExactly payload.length afterHeader = ⟨payload, none, afterPayload⟩) :
    receiveStep st conn = .next ((eraseChunk st payload.length).1 ++
        [.write (u32 (st.partitionOffset + st.totalBytes)) payload,
          ackReply (u32 (st.totalBytes + payload.length))])
      (st.accept (eraseChunk st payload.length).2 payload) afterPayload := by
  simp [receiveStep, headerRead, notDone, announced, payloadRead, Nat.not_lt.mpr small,
    Nat.not_lt.mpr fits]

/-- An iteration that reads `DONE` goes to the digest line. -/
theorem receiveStep_done {st : Receiver} {conn afterHeader : Conn}
    (headerRead : readExactly 4 conn = ⟨ascii "DONE", none, afterHeader⟩) :
    receiveStep st conn = .stop (doneLine st afterHeader) := by
  simp [receiveStep, headerRead]

/-- An iteration whose header announces more than the buffer holds refuses it. -/
theorem receiveStep_tooLarge {st : Receiver} {conn afterHeader : Conn} {header : Bytes}
    (headerRead : readExactly 4 conn = ⟨header, none, afterHeader⟩) (notDone : header ≠ ascii "DONE")
    (large : otaBufSize < leUint32 header) :
    receiveStep st conn = .stop [.reply (ascii "ERROR chunk too large\n")] := by
  simp [receiveStep, headerRead, notDone, large]

/-! ## The loop -/

@[simp] theorem receive_zero (st : Receiver) (conn : Conn) : receive 0 st conn = [] := rfl

theorem receive_succ_eq (fuel : Nat) (st : Receiver) (conn : Conn) :
    receive (fuel + 1) st conn = match receiveStep st conn with
      | .stop effects => effects
      | .next effects st' conn' => effects ++ receive fuel st' conn' := rfl

/-- **The fuel never runs out**: one more iteration of fuel than polls left changes nothing. -/
theorem receive_succ (fuel : Nat) (st : Receiver) (conn : Conn)
    (enough : conn.polls.length < fuel) : receive (fuel + 1) st conn = receive fuel st conn := by
  induction fuel generalizing st conn with
  | zero => omega
  | succ fuel ih =>
    rw [receive_succ_eq, receive_succ_eq fuel]
    split
    · rfl
    · rename_i effects st' conn' step
      obtain ⟨-, -, -, -, -, -, -, -, used, -⟩ := receiveStep_next step
      rw [ih st' conn' (by omega)]

/-- The receive loop with the fuel `handleOTASession` gives it: one more than the polls left. -/
def receiveAll (st : Receiver) (conn : Conn) : List Effect :=
  receive (conn.polls.length + 1) st conn

/-- Any fuel above the polls left runs the loop to its end. -/
theorem receive_eq_receiveAll (fuel : Nat) (st : Receiver) (conn : Conn)
    (enough : conn.polls.length < fuel) : receive fuel st conn = receiveAll st conn := by
  induction fuel with
  | zero => omega
  | succ fuel ih =>
    by_cases last : conn.polls.length < fuel
    · rw [receive_succ fuel st conn last, ih last]
    · rw [receiveAll, show fuel = conn.polls.length by omega]

theorem receiveAll_next {st st' : Receiver} {conn conn' : Conn} {effects : List Effect}
    (step : receiveStep st conn = .next effects st' conn') :
    receiveAll st conn = effects ++ receiveAll st' conn' := by
  obtain ⟨-, -, -, -, -, -, -, -, used, -⟩ := receiveStep_next step
  rw [receiveAll, receive_succ_eq, step]
  exact congrArg (effects ++ ·) (receive_eq_receiveAll _ _ _ (by omega))

theorem receiveAll_stop {st : Receiver} {conn : Conn} {effects : List Effect}
    (step : receiveStep st conn = .stop effects) : receiveAll st conn = effects := by
  rw [receiveAll, receive_succ_eq, step]

/-- **A greeting that starts with `OTA` is answered `READY` and the loop starts.** -/
theorem handleOTASession_greeting {current : Nat} {input line : Bytes} {polls : List Poll}
    {afterLine : Conn} (lineRead : readWithTimeout 128 input polls = ⟨line, none, afterLine⟩)
    (long : 3 ≤ line.length) (greeting : line.take 3 = ascii "OTA") :
    handleOTASession current ⟨input, polls⟩ =
      .reply (ascii "READY " ++ writeOTAInt otaMaxFwSize ++ ascii "\n") ::
        receiveAll (Receiver.start (getTargetPartition current)) afterLine := by
  simp [handleOTASession, lineRead, greeting, Nat.not_lt.mpr long, receiveAll]

end Bindicator.Ota
