/-
**The push round trip: the device against the stream `otaPush` sends.**

The session reads the greeting with one `readWithTimeout` and the digest with another; both
return on the first bytes in. The CLI writes nothing after `OTA\n` before `READY`, so when the
line arrives whole the greeting read takes it exactly; the frames may come in any segments, as
`readExactly` collects them. `PushDelivery` says this of a list of polls. Under it:

* `receiveAll_chunkBytes`: the loop accepts the chunk frames one by one, whatever their
  segmentation;
* `receiveAll_doneMessage`: after them it checks the client's digest and says `VERIFIED`;
* `otaPush_round_trip`: the session replies `READY`, writes each chunk `fw[i:end]` at the target
  partition offset plus `i`, acknowledges the CLI's count `i + len(chunk)` after each, says
  `VERIFIED` and reboots into the target, and nothing else but erases;
* `otaPush_succeeds`: the client's checks pass on the session's replies, read one whole reply at
  a time, and the device reboots into the target: the two ends of the protocol agree;
* `greeting_split_rejects`: if the greeting arrives as `OTA` and then `\n`, the newline is left in
  the stream and read as the first byte of a length: the first full chunk is refused with
  `ERROR chunk too large`.
-/

import Bindicator.Cli.Push
import Bindicator.Ota.Verify

namespace Bindicator.Ota

open Cli

/-- What the device is to do for the passes of a push: write each chunk at the partition offset
plus its loop index, then acknowledge the CLI's count. -/
def pushTrace (offset : Nat) (rounds : List Round) : List Effect :=
  rounds.flatMap fun round => [.write (offset + round.index) round.chunk, ackLine round.sent]

/-- The device's running total is the CLI's loop index: each pass followed by another carries a
whole `otaChunkSize`. -/
theorem acceptTrace_chunkRounds (offset : Nat) (fw : Bytes) (fuel i : Nat) :
    acceptTrace offset i ((chunkRounds fw fuel i).map Round.chunk) =
      pushTrace offset (chunkRounds fw fuel i) := by
  induction fuel generalizing i with
  | zero => rfl
  | succ fuel ih =>
    by_cases within : i < fw.length
    · rw [chunkRounds_succ fw fuel i within]
      by_cases more : i + otaChunkSize < fw.length
      · have full : ((fw.drop i).take otaChunkSize).length = otaChunkSize := by
          simp only [List.length_take, List.length_drop]
          omega
        simp only [List.map_cons, acceptTrace, full, ih, pushTrace, List.flatMap_cons, Round.sent]
        rfl
      · rw [chunkRounds_of_le fw fuel _ (by omega)]
        rfl
    · rw [chunkRounds_of_le fw _ i (by omega)]
      rfl

/-! ## Deliveries -/

/-- The polls read the frames of `chunks`: for each, the four header bytes and then the chunk,
in any segments and each read before its deadline. -/
inductive DeliversFrames : List Bytes → List Poll → List Poll → Prop where
  | nil (polls : List Poll) : DeliversFrames [] polls polls
  | cons (chunk : Bytes) (chunks : List Bytes) (polls afterHeader afterChunk rest : List Poll) :
      Delivers 4 polls afterHeader → Delivers chunk.length afterHeader afterChunk →
      DeliversFrames chunks afterChunk rest → DeliversFrames (chunk :: chunks) polls rest

/-- The deliveries of a push in which each of the session's two `readWithTimeout` reads gets its
line whole: after empty polls the greeting's four bytes, and after the frames and the `DONE`
header, at least the space and the 64 digits of the digest. -/
def PushDelivery (chunks : List Bytes) (polls : List Poll) : Prop :=
  ∃ greetWaits afterGreeting afterFrames afterDone digestWaits digestRead rest,
    polls = List.replicate greetWaits (.arrived 0) ++ .arrived 4 :: afterGreeting ∧
    DeliversFrames chunks afterGreeting afterFrames ∧ Delivers 4 afterFrames afterDone ∧
    afterDone = List.replicate digestWaits (.arrived 0) ++ .arrived digestRead :: rest ∧
    65 ≤ digestRead

/-! ## The session, part by part -/

/-- `DONE` read as a length is over `len(otaChunk)`. -/
theorem bufSize_lt_done : otaBufSize < leUint32 (ascii "DONE") := by decide

/-- **The loop accepts the chunk frames one by one**, whatever their segmentation, when each
chunk fits the buffer and the total fits the partition. -/
theorem receiveAll_chunkBytes (chunks : List Bytes) (st : Receiver) (tail : Bytes)
    (polls rest : List Poll) (delivered : DeliversFrames chunks polls rest)
    (small : ∀ chunk ∈ chunks, chunk.length ≤ otaBufSize)
    (fits : st.totalBytes + (chunks.map List.length).sum ≤ otaMaxFwSize)
    (offsetFits : st.partitionOffset + otaMaxFwSize < 2 ^ 32) :
    ∃ body st', receiveAll st ⟨chunkBytes chunks ++ tail, polls⟩ = body ++ receiveAll st' ⟨tail, rest⟩ ∧
      body.filter (fun e => !e.isErase) = acceptTrace st.partitionOffset st.totalBytes chunks ∧
      st'.hashed = st.hashed ++ chunks.flatten ∧ st'.targetPartition = st.targetPartition := by
  induction delivered generalizing st with
  | nil => exact ⟨[], st, by simp [chunkBytes], rfl, by simp, rfl⟩
  | cons chunk chunks polls afterHeader afterChunk rest header payload _ ih =>
    have chunkSmall := small chunk (List.mem_cons_self _ _)
    simp only [List.map_cons, List.sum_cons] at fits
    have announced : leUint32 (lenBuf chunk) = chunk.length := by
      rw [lenBuf, leUint32_putUint32, u32, u32, Nat.mod_mod, Nat.mod_eq_of_lt]
      unfold otaBufSize at chunkSmall
      omega
    have notDone : lenBuf chunk ≠ ascii "DONE" := fun same => by
      have := bufSize_lt_done
      rw [← same, announced] at this
      omega
    have headerRead : readExactly 4 ⟨chunkBytes (chunk :: chunks) ++ tail, polls⟩ =
        ⟨lenBuf chunk, none, ⟨chunk ++ (chunkBytes chunks ++ tail), afterHeader⟩⟩ := by
      have split : chunkBytes (chunk :: chunks) ++ tail = lenBuf chunk ++ (chunk ++ (chunkBytes chunks ++ tail)) := by
        simp [chunkBytes]
      rw [split, readExactly_delivers 4 _ polls afterHeader header (by simp [lenBuf]),
        List.take_left' (by simp [lenBuf]), List.drop_left' (by simp [lenBuf])]
    have payloadRead : readExactly chunk.length ⟨chunk ++ (chunkBytes chunks ++ tail), afterHeader⟩ =
        ⟨chunk, none, ⟨chunkBytes chunks ++ tail, afterChunk⟩⟩ := by
      rw [readExactly_delivers _ _ afterHeader afterChunk payload (by simp), List.take_left,
        List.drop_left]
    have noWrap : u32 (st.totalBytes + chunk.length) = st.totalBytes + chunk.length :=
      Nat.mod_eq_of_lt (by unfold otaMaxFwSize at fits; omega)
    have step := receiveStep_accept headerRead notDone announced chunkSmall
      (by rw [noWrap]; omega) payloadRead
    obtain ⟨body, st', run, trace, hashed, target⟩ :=
      ih (st.accept (eraseChunk st chunk.length).2 chunk)
        (fun c mem => small c (List.mem_cons_of_mem _ mem))
        (by simp only [Receiver.accept, noWrap]; omega) offsetFits
    simp only [Receiver.accept, noWrap] at trace hashed target
    refine ⟨(eraseChunk st chunk.length).1 ++ [.write (u32 (st.partitionOffset + st.totalBytes)) chunk,
        ackReply (u32 (st.totalBytes + chunk.length))] ++ body, st',
      by rw [receiveAll_next step, run]; simp only [List.append_assoc], ?_, by rw [hashed]; simp,
      target⟩
    rw [List.filter_append, acceptEffects_filter st chunk (by omega) offsetFits, trace]
    rfl

/-- The digest read takes the space and the digest, and maybe the newline: past its first byte,
trimmed, it is the digest. -/
theorem trimSpace_digestField (digest : Bytes) (k : Nat)
    (clean : ∀ b ∈ digest, isSpaceByte b = false) (whole : digest.length + 1 ≤ k) :
    trimSpace (((ascii " " ++ digest ++ ascii "\n").take k).drop 1) = digest := by
  rw [List.take_append_eq_append_take, List.take_of_length_le (by simp [ascii]; omega)]
  simp only [ascii, List.singleton_append, List.cons_append, List.drop_succ_cons, List.drop_zero]
  exact trimSpace_append_spaces _ _ clean fun b mem => by
    have := List.mem_of_mem_take mem
    simp_all [isSpaceByte]

/-- The greeting read takes `OTA\n` whole and leaves the frames and the `DONE` line. -/
theorem readWithTimeout_pushGreeting (fw : Bytes) (greetWaits : Nat) (afterGreeting : List Poll) :
    readWithTimeout 128 (otaPushStream fw)
        (List.replicate greetWaits (.arrived 0) ++ .arrived 4 :: afterGreeting) =
      ⟨ascii "OTA\n", none,
        ⟨chunkBytes ((otaPushRounds fw).map Round.chunk) ++ doneMessage fw, afterGreeting⟩⟩ := by
  rw [readWithTimeout_first 128 4 greetWaits _ afterGreeting (by simp [otaPushStream, ascii])
    (by norm_num), show min 4 128 = (ascii "OTA\n").length from rfl, otaPushStream,
    List.append_assoc, List.take_left, List.drop_left]

/-- Every chunk of the push fits the device's buffer. -/
theorem otaPushRounds_small (fw : Bytes) :
    ∀ chunk ∈ (otaPushRounds fw).map Round.chunk, chunk.length ≤ otaBufSize := fun chunk mem => by
  obtain ⟨round, inRounds, rfl⟩ := List.mem_map.mp mem
  have := (chunkRounds_length fw _ _ round inRounds).2
  unfold otaChunkSize at this
  unfold otaBufSize
  omega

/-- **The device verifies the client's `DONE` line** when it has hashed the image and the digest
read gets the space and the 64 digits: it replies `VERIFIED` and reboots into the target. -/
theorem receiveAll_doneMessage (fw : Bytes) (st : Receiver) (afterFrames rest : List Poll)
    (digestWaits digestRead : Nat) (hashed : st.hashed = fw)
    (doneHeader : Delivers 4 afterFrames
      (List.replicate digestWaits (.arrived 0) ++ .arrived digestRead :: rest))
    (whole : 65 ≤ digestRead) :
    receiveAll st ⟨doneMessage fw, afterFrames⟩ =
      [.reply (ascii "VERIFIED\n"), .reboot st.targetPartition] := by
  have doneRead : readExactly 4 ⟨doneMessage fw, afterFrames⟩ =
      ⟨ascii "DONE", none, ⟨ascii " " ++ formatHashHex (sha256 fw) ++ ascii "\n",
        List.replicate digestWaits (.arrived 0) ++ .arrived digestRead :: rest⟩⟩ := by
    rw [readExactly_delivers 4 _ afterFrames _ doneHeader (by simp [doneMessage, ascii])]
    rfl
  have digestRead' := readWithTimeout_first 124 digestRead digestWaits
    (ascii " " ++ formatHashHex (sha256 fw) ++ ascii "\n") rest (by simp [ascii]) (by omega)
  rw [receiveAll_stop (receiveStep_done doneRead)]
  refine doneLine_matching ?_
  rw [digestRead', hashed]
  exact trimSpace_digestField _ _ (formatHashHex_noSpace _)
    (by rw [formatHashHex_length, sha256_length]; omega)

/-- The session against a push, besides erases: `READY`, the chunk writes and their `ACK`s, then
`VERIFIED` and the reboot into the target. -/
theorem otaPush_session (current : Nat) (fw : Bytes) (polls : List Poll)
    (fits : fw.length ≤ otaMaxFwSize)
    (delivered : PushDelivery ((otaPushRounds fw).map Round.chunk) polls) :
    (handleOTASession current ⟨otaPushStream fw, polls⟩).filter (fun e => !e.isErase) =
      readyReply :: pushTrace (getPartitionOffset (getTargetPartition current)) (otaPushRounds fw) ++
        [.reply (ascii "VERIFIED\n"), .reboot (getTargetPartition current)] := by
  obtain ⟨greetWaits, afterGreeting, afterFrames, afterDone, digestWaits, digestRead, rest, rfl,
    frames, doneHeader, rfl, whole⟩ := delivered
  have offsetFits : (Receiver.start (getTargetPartition current)).partitionOffset + otaMaxFwSize <
      2 ^ 32 := by
    have := getPartitionOffset_le (getTargetPartition current)
    simp only [Receiver.start]
    unfold partitionBOffset otaMaxFwSize at *
    omega
  have sizes : (((otaPushRounds fw).map Round.chunk).map List.length).sum = fw.length := by
    rw [← List.length_flatten, otaPushRounds_chunks]
  obtain ⟨body, st, run, trace, hashed, target⟩ :=
    receiveAll_chunkBytes _ (Receiver.start (getTargetPartition current)) (doneMessage fw) _ _
      frames (otaPushRounds_small fw) (by rw [sizes]; exact (Nat.zero_add _).le.trans fits) offsetFits
  rw [handleOTASession_greeting (readWithTimeout_pushGreeting fw greetWaits afterGreeting)
      (by decide) (by decide), run,
    receiveAll_doneMessage fw st afterFrames rest digestWaits digestRead
      (by rw [hashed, otaPushRounds_chunks]; rfl) doneHeader whole,
    target, writeOTAInt_eq_decimal _ (by unfold otaMaxFwSize; norm_num)]
  have pushed := acceptTrace_chunkRounds (getPartitionOffset (getTargetPartition current)) fw
    fw.length 0
  rw [← otaPushRounds] at pushed
  rw [← readyReply, List.cons_append, filter_readyReply, List.filter_append, trace]
  exact congrArg (readyReply :: · ++ _) pushed

/-- **The device does with the push what the CLI means**, on every delivery of `PushDelivery`:
the chunks are the image; besides erases the session replies `READY`, writes each chunk
`fw[i:end]` at the target partition offset plus `i` and acknowledges the CLI's count
`i + len(chunk)`, then says `VERIFIED` and reboots into the target. -/
theorem otaPush_round_trip (current : Nat) (fw : Bytes) (polls : List Poll)
    (fits : fw.length ≤ otaMaxFwSize)
    (delivered : PushDelivery ((otaPushRounds fw).map Round.chunk) polls) :
    ((otaPushRounds fw).map Round.chunk).flatten = fw ∧
      (handleOTASession current ⟨otaPushStream fw, polls⟩).filter (fun e => !e.isErase) =
        readyReply :: pushTrace (getPartitionOffset (getTargetPartition current)) (otaPushRounds fw) ++
          [.reply (ascii "VERIFIED\n"), .reboot (getTargetPartition current)] :=
  ⟨otaPushRounds_chunks fw, otaPush_session current fw polls fits delivered⟩

/-- A delivery of the push of `[1, 2, 3]`: every read returns its part whole. -/
theorem smallImage_delivered :
    PushDelivery ((otaPushRounds [1, 2, 3]).map Round.chunk)
      [.arrived 4, .arrived 4, .arrived 3, .arrived 4, .arrived 66] :=
  have frames : DeliversFrames [[1, 2, 3]] [.arrived 4, .arrived 3, .arrived 4, .arrived 66]
      [.arrived 4, .arrived 66] :=
    .cons _ _ _ [.arrived 3, .arrived 4, .arrived 66] _ _ (.arrive 4 4 _ _ (by norm_num) (.done _))
      (.arrive 3 3 _ _ (by norm_num) (.done _)) (.nil _)
  ⟨0, _, _, _, 0, 66, [], rfl, frames, .arrive 4 4 _ _ (by norm_num) (.done _), rfl, by norm_num⟩

/-- The round trip at a three-byte image, every read returning its part whole. -/
theorem otaPush_round_trip_small_image :
    [1, 2, 3].length ≤ otaMaxFwSize ∧
      PushDelivery ((otaPushRounds [1, 2, 3]).map Round.chunk)
        [.arrived 4, .arrived 4, .arrived 3, .arrived 4, .arrived 66] ∧
      ((otaPushRounds [1, 2, 3]).map Round.chunk).flatten = [1, 2, 3] ∧
      (handleOTASession partitionA ⟨otaPushStream [1, 2, 3],
          [.arrived 4, .arrived 4, .arrived 3, .arrived 4, .arrived 66]⟩).filter
          (fun e => !e.isErase) =
        readyReply :: pushTrace (getPartitionOffset (getTargetPartition partitionA))
          (otaPushRounds [1, 2, 3]) ++
          [.reply (ascii "VERIFIED\n"), .reboot (getTargetPartition partitionA)] :=
  ⟨by decide, smallImage_delivered,
    otaPush_round_trip partitionA [1, 2, 3] _ (by decide) smallImage_delivered⟩

/-! ## The client against the device -/

/-- The bytes of a reply. -/
def Effect.replyBytes : Effect → Option Bytes
  | .reply bytes => some bytes
  | _ => none

/-- An `ACK` line, as the client reads it. -/
def ackBytes (n : Nat) : Bytes := ascii "ACK " ++ decimal n ++ ascii "\n"

theorem pushTrace_replies (offset : Nat) (rounds : List Round) :
    (pushTrace offset rounds).filterMap Effect.replyBytes = rounds.map fun round => ackBytes round.sent := by
  induction rounds with
  | nil => rfl
  | cons round rounds ih =>
    rw [pushTrace, List.flatMap_cons, ← pushTrace, List.filterMap_append, ih]
    rfl

/-- No byte of a decimal is a space. -/
theorem decimal_noSpace (n : Nat) : ∀ b ∈ decimal n, isAsciiSpace b = false := by
  have digit : ∀ d < 10, isAsciiSpace (digitByte d) = false := by decide
  unfold decimal
  split
  · simpa using digit 0 (by norm_num)
  · simp only [List.mem_reverse, List.mem_map]
    rintro b ⟨d, mem, rfl⟩
    exact digit d (Nat.digits_lt_base (by norm_num) mem)

theorem decimal_ne_nil (n : Nat) : decimal n ≠ [] := by
  unfold decimal
  split
  · exact List.cons_ne_nil _ _
  · simpa using Nat.digits_ne_nil_iff_ne_zero.mpr ‹_›

/-- A line `word`, a space, a decimal and a newline starts, trimmed, with `word`. -/
theorem isPrefixOf_numberLine (word : Bytes) (n : Nat) (nonempty : word ≠ [])
    (clean : ∀ b ∈ word, isAsciiSpace b = false) :
    word.isPrefixOf (trimAsciiSpace (word ++ ascii " " ++ decimal n ++ ascii "\n")) = true := by
  simp only [List.append_assoc]
  exact isPrefixOf_trimAsciiSpace _ _ nonempty (fun b mem => clean b (List.mem_of_mem_head? mem))
    fun b mem => clean b (List.mem_of_mem_getLast? mem)

/-- The chunk loop reads one `ACK` per pass and leaves the rest. -/
theorem ackRounds_acks (rounds : List Round) (rest : List Bytes) :
    ackRounds rounds ((rounds.map fun round => ackBytes round.sent) ++ rest) = .ok rest := by
  induction rounds with
  | nil => rfl
  | cons round rounds ih =>
    rw [List.map_cons, List.cons_append, ackRounds, if_pos, ih]
    exact isPrefixOf_numberLine (ascii "ACK") round.sent (by decide) (by decide)

/-- **`otaPush` succeeds against the device**: on every delivery of `PushDelivery` of an image
that fits, when each of the client's reads returns one whole reply of the session, the client
passes its `READY`, `ACK` and `VERIFIED` checks and returns `nil`, and the device reboots into
the target partition. -/
theorem otaPush_succeeds (current : Nat) (fw : Bytes) (polls : List Poll)
    (fits : fw.length ≤ otaMaxFwSize)
    (delivered : PushDelivery ((otaPushRounds fw).map Round.chunk) polls) :
    otaPushReplies fw ((handleOTASession current ⟨otaPushStream fw, polls⟩).filterMap Effect.replyBytes) =
        .ok () ∧
      .reboot (getTargetPartition current) ∈ handleOTASession current ⟨otaPushStream fw, polls⟩ := by
  have session := otaPush_session current fw polls fits delivered
  have noErase : (fun e : Effect => if !e.isErase then e.replyBytes else none) = Effect.replyBytes := by
    funext e
    cases e <;> rfl
  have replies : (handleOTASession current ⟨otaPushStream fw, polls⟩).filterMap Effect.replyBytes =
      (ascii "READY " ++ decimal otaMaxFwSize ++ ascii "\n") ::
        ((otaPushRounds fw).map fun round => ackBytes round.sent) ++ [ascii "VERIFIED\n"] := by
    rw [← noErase, ← List.filterMap_filter, session, List.filterMap_append, List.filterMap_cons,
      pushTrace_replies]
    rfl
  have ready : (ascii "READY").isPrefixOf
      (trimAsciiSpace (ascii "READY " ++ decimal otaMaxFwSize ++ ascii "\n")) = true :=
    isPrefixOf_numberLine (ascii "READY") otaMaxFwSize (by decide) (by decide)
  refine ⟨?_, List.mem_of_mem_filter (show _ ∈ List.filter _ _ by rw [session]; simp)⟩
  rw [replies, List.cons_append, otaPushReplies, ackRounds_acks]
  simp only [ready, Bool.not_true, Bool.false_eq_true, if_false]
  exact if_pos (by decide)

/-- The push of `[1, 2, 3]` succeeds. -/
theorem otaPush_succeeds_small_image :
    [1, 2, 3].length ≤ otaMaxFwSize ∧
      PushDelivery ((otaPushRounds [1, 2, 3]).map Round.chunk)
        [.arrived 4, .arrived 4, .arrived 3, .arrived 4, .arrived 66] ∧
      otaPushReplies [1, 2, 3] ((handleOTASession partitionA ⟨otaPushStream [1, 2, 3],
          [.arrived 4, .arrived 4, .arrived 3, .arrived 4, .arrived 66]⟩).filterMap Effect.replyBytes) =
        .ok () ∧
      .reboot (getTargetPartition partitionA) ∈ handleOTASession partitionA ⟨otaPushStream [1, 2, 3],
          [.arrived 4, .arrived 4, .arrived 3, .arrived 4, .arrived 66]⟩ :=
  ⟨by decide, smallImage_delivered,
    otaPush_succeeds partitionA [1, 2, 3] _ (by decide) smallImage_delivered⟩

/-- The first bytes of the push of an image with a full first chunk: the greeting, then the
length `4096`. -/
theorem otaPushStream_full_first (fw : Bytes) (full : otaChunkSize ≤ fw.length) :
    ∃ more, otaPushStream fw = ascii "OTA" ++ (ascii "\n" ++ putUint32 otaChunkSize ++ more) := by
  obtain ⟨fuel, length⟩ : ∃ fuel, fw.length = fuel + 1 :=
    ⟨fw.length - 1, by unfold otaChunkSize at full; omega⟩
  have chunkLength : ((fw.drop 0).take otaChunkSize).length = otaChunkSize := by
    simp only [List.drop_zero, List.length_take]
    omega
  have greeting : ascii "OTA\n" = ascii "OTA" ++ ascii "\n" := rfl
  rw [otaPushStream, otaPushRounds, length, chunkRounds_succ fw fuel 0 (by omega), List.map_cons,
    chunkBytes, List.flatMap_cons, lenBuf, chunkLength, u32, Nat.mod_eq_of_lt (by decide), greeting]
  exact ⟨_, by simp only [List.append_assoc]; rfl⟩

/-- **A greeting cut after `OTA` leaves its newline to the first header**: for every image with a
full first chunk, the header read is `\n 00 10 00`, over the buffer, and the session ends with
`ERROR chunk too large` having written nothing. -/
theorem greeting_split_chunkTooLarge (current : Nat) (fw : Bytes) (polls : List Poll)
    (full : otaChunkSize ≤ fw.length) :
    handleOTASession current ⟨otaPushStream fw, .arrived 3 :: .arrived 4 :: polls⟩ =
      [.reply (ascii "READY 2031616\n"), .reply (ascii "ERROR chunk too large\n")] := by
  obtain ⟨more, stream⟩ := otaPushStream_full_first fw full
  have lineRead : readWithTimeout 128 (otaPushStream fw) (.arrived 3 :: .arrived 4 :: polls) =
      ⟨ascii "OTA", none, ⟨ascii "\n" ++ putUint32 otaChunkSize ++ more, .arrived 4 :: polls⟩⟩ := by
    have first := readWithTimeout_first 128 3 0 (otaPushStream fw) (.arrived 4 :: polls)
      (by simp [stream, ascii]) (by norm_num)
    rw [stream] at first ⊢
    rwa [show min 3 128 = (ascii "OTA").length from rfl, List.take_left, List.drop_left] at first
  have headerRead : readExactly 4 ⟨ascii "\n" ++ putUint32 otaChunkSize ++ more, .arrived 4 :: polls⟩ =
      ⟨ascii "\n" ++ (putUint32 otaChunkSize).take 3, none,
        ⟨(putUint32 otaChunkSize).drop 3 ++ more, polls⟩⟩ := by
    rw [readExactly_delivers 4 _ _ polls (.arrive 4 4 polls polls (by norm_num) (.done polls))
      (by simp only [List.length_append, putUint32_length]; omega)]
    rfl
  rw [handleOTASession_greeting lineRead (by decide) (by decide),
    receiveAll_stop (receiveStep_tooLarge headerRead (by decide) (by decide))]
  decide

/-- **Pushing a 4096-byte image whose greeting arrives as `OTA` and then `\n` fails**: the device
replies `READY`, then `ERROR chunk too large`, and never writes or says `VERIFIED`. -/
theorem greeting_split_rejects :
    handleOTASession partitionA
        ⟨otaPushStream (List.replicate 4096 0), [.arrived 3, .arrived 4]⟩ =
      [.reply (ascii "READY 2031616\n"), .reply (ascii "ERROR chunk too large\n")] :=
  greeting_split_chunkTooLarge partitionA _ [] (List.length_replicate _ _).ge

end Bindicator.Ota
