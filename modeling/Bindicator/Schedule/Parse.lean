/-
**The schedule response: `parseScheduleResponse` against the fields it is meant to read.**

Node-RED answers the schedule request with `TIMESTAMP,YYYY-MM-DD:TYPE,YYYY-MM-DD:TYPE,...`.
`parseScheduleResponse` reads the leading digits into the `int64` `parsedTimestamp`, skips one
comma, and then walks the entries up to each comma, storing into `jobStorage` the ones with a
colon at index 10, a valid date and a known bin type, until `maxJobs` are stored.

* `parseScheduleResponse_jobs`: for every response and every prior content of the job storage,
  the jobs left are the first fifteen of the fields that `fieldJob` accepts, the fields being
  the comma-separated pieces after the digits and one comma;
* `parseScheduleResponse_timestamp`: `parsedTimestamp` is the digits' value wrapped to 64 bits;
* `fetchSchedule_overflow_syncs`: a digit run past `2 ^ 63` still reaches the clock.
-/

import Bindicator.Decimal
import Mathlib.Logic.Function.Basic
import Mathlib.Data.List.Basic

namespace Bindicator.Schedule

/-! ## Jobs and the parser's variables -/

/-- `BinType`, a `uint8`. -/
abbrev BinType := UInt8

/-- `BinUnknown`. -/
def binUnknown : BinType := 0

/-- `BinGreen`. -/
def binGreen : BinType := 1

/-- `BinBlack`. -/
def binBlack : BinType := 2

/-- `BinBrown`. -/
def binBrown : BinType := 3

/-- `BinJob`: a `uint16` year, `uint8` month and day, and the bin. -/
structure BinJob where
  year : Nat
  month : Nat
  day : Nat
  bin : BinType
  deriving DecidableEq, Repr

/-- `maxJobs = 15`, the length of `jobStorage`. -/
def maxJobs : Nat := 15

/-- The package variables the parser writes. -/
structure Store where
  jobStorage : Nat → BinJob
  jobCount : Nat
  parsedTimestamp : Int

/-- `getJobs`: `jobStorage[:jobCount]`. -/
def getJobs (s : Store) : List BinJob := (List.range s.jobCount).map s.jobStorage

@[simp] theorem getJobs_length (s : Store) : (getJobs s).length = s.jobCount := by
  simp [getJobs]

/-! ## The field decoders -/

/-- `int(b - '0')`: byte arithmetic, so a byte below `'0'` gives a large value, not a negative
one. -/
def asciiDigit (b : UInt8) : Nat := (b - 48).toNat

/-- `atoi2`: two digits, `0` if the slice is shorter or either byte is not a digit. (Its checks
`d < 0` never hold: `d` is a byte.) -/
def atoi2 (s : Bytes) : Nat :=
  if s.length < 2 then 0
  else if 9 < asciiDigit (s.getD 0 0) ∨ 9 < asciiDigit (s.getD 1 0) then 0
  else asciiDigit (s.getD 0 0) * 10 + asciiDigit (s.getD 1 0)

/-- `atoi4`: four digits, `0` if the slice is shorter or a byte is not a digit. -/
def atoi4 (s : Bytes) : Nat :=
  if s.length < 4 then 0
  else if 9 < asciiDigit (s.getD 0 0) ∨ 9 < asciiDigit (s.getD 1 0) ∨ 9 < asciiDigit (s.getD 2 0) ∨
      9 < asciiDigit (s.getD 3 0) then 0
  else asciiDigit (s.getD 0 0) * 1000 + asciiDigit (s.getD 1 0) * 100 +
    asciiDigit (s.getD 2 0) * 10 + asciiDigit (s.getD 3 0)

/-- `parseBinType`: by the first byte (`G`/`g`, `B`/`b`), the second (`L`/`l`, `R`/`r`) and a
length of at least five. -/
def parseBinType (s : Bytes) : BinType :=
  match s with
  | [] => binUnknown
  | c :: _ =>
    if c == 71 || c == 103 then (if 5 ≤ s.length then binGreen else binUnknown)
    else if c == 66 || c == 98 then
      if 5 ≤ s.length then
        if 2 ≤ s.length && (s.getD 1 0 == 76 || s.getD 1 0 == 108) then binBlack
        else if 2 ≤ s.length && (s.getD 1 0 == 82 || s.getD 1 0 == 114) then binBrown
        else binUnknown
      else binUnknown
    else binUnknown

theorem atoi2_le (s : Bytes) : atoi2 s ≤ 99 := by
  unfold atoi2
  split_ifs <;> omega

theorem atoi4_le (s : Bytes) : atoi4 s ≤ 9999 := by
  unfold atoi4
  split_ifs <;> omega

/-! ## The parser -/

/-- `entry[lo:hi]`. -/
def slice (s : Bytes) (lo hi : Nat) : Bytes := (s.drop lo).take (hi - lo)

/-- The loop looking for the first `':'` of an entry: its index, `-1` if there is none. -/
def colonIndex (entry : Bytes) : Int :=
  match entry.findIdx? (· == 58) with
  | some i => i
  | none => -1

/-- The job an entry stores, if it is one: at least eleven bytes, the first colon at index 10,
a bin type that is not `BinUnknown`, a positive year, a month in `1..12` and a day in `1..31`,
stored as `uint16(year)`, `uint8(month)`, `uint8(day)`. -/
def parseEntry (entry : Bytes) : Option BinJob :=
  if 11 ≤ entry.length ∧ colonIndex entry = 10 then
    if parseBinType (entry.drop 11) ≠ binUnknown ∧ 0 < atoi4 (slice entry 0 4) ∧
        0 < atoi2 (slice entry 5 7) ∧ atoi2 (slice entry 5 7) ≤ 12 ∧
        0 < atoi2 (slice entry 8 10) ∧ atoi2 (slice entry 8 10) ≤ 31 then
      some ⟨atoi4 (slice entry 0 4) % 2 ^ 16, atoi2 (slice entry 5 7) % 2 ^ 8,
        atoi2 (slice entry 8 10) % 2 ^ 8, parseBinType (entry.drop 11)⟩
    else none
  else none

/-- `jobStorage[jobCount] = job; jobCount++`. -/
def storeJob (s : Store) (job : BinJob) : Store :=
  { s with jobStorage := Function.update s.jobStorage s.jobCount job, jobCount := s.jobCount + 1 }

/-- The entry loop, `for pos < len(data) && jobCount < maxJobs`, on the bytes from `pos` on: the
entry runs to the next comma, and `pos` moves past it. Each turn takes at least one byte, so
`len(data)` turns are enough. -/
def jobLoop : Nat → Store → Bytes → Store
  | 0, s, _ => s
  | fuel + 1, s, rest =>
    if rest ≠ [] ∧ s.jobCount < maxJobs then
      jobLoop fuel ((parseEntry (rest.takeWhile (· != 44))).elim s (storeJob s))
        ((rest.dropWhile (· != 44)).drop 1)
    else s

/-- `if pos < len(data) && data[pos] == ',' { pos++ }`. -/
def skipComma : Bytes → Bytes
  | 44 :: rest => rest
  | rest => rest

/-- `parseScheduleResponse(data)`: `clearJobs()`, `parsedTimestamp = 0`; nothing more for an empty
response; else the timestamp digits, one comma, and the entry loop. It returns `jobCount`. -/
def parseScheduleResponse (s : Store) (data : Bytes) : Nat × Store :=
  let cleared := { s with jobCount := 0, parsedTimestamp := 0 }
  if data = [] then (0, cleared)
  else
    let parsed := jobLoop data.length { cleared with parsedTimestamp := (digitLoop 63 0 data).1 }
      (skipComma (digitLoop 63 0 data).2)
    (parsed.jobCount, parsed)

/-! ## What the loop stores -/

@[simp] theorem getJobs_storeJob (s : Store) (job : BinJob) :
    getJobs (storeJob s job) = getJobs s ++ [job] := by
  simp only [getJobs, storeJob, List.range_succ, List.map_append, List.map_cons, List.map_nil,
    Function.update_same]
  congr 1
  exact List.map_congr_left fun i mem => Function.update_noteq (List.mem_range.mp mem).ne _ _

theorem jobLoop_parsedTimestamp (fuel : Nat) (s : Store) (rest : Bytes) :
    (jobLoop fuel s rest).parsedTimestamp = s.parsedTimestamp := by
  induction fuel generalizing s rest with
  | zero => rfl
  | succ fuel ih =>
    unfold jobLoop
    split
    · rw [ih]
      cases parseEntry (rest.takeWhile (· != 44)) <;> rfl
    · rfl

/-- Splitting at commas takes the bytes up to the first comma, then splits what follows it. -/
theorem splitOn_eq (rest : Bytes) :
    rest.splitOn 44 = rest.takeWhile (· != 44) ::
      (if rest.dropWhile (· != 44) = [] then [] else ((rest.dropWhile (· != 44)).drop 1).splitOn 44) := by
  have whole := (List.takeWhile_append_dropWhile (· != 44) rest).symm
  have clean : ∀ x ∈ rest.takeWhile (· != 44), ¬(x == 44) = true := fun x mem => by
    simpa using List.mem_takeWhile_imp mem
  split
  · rename_i none
    rw [none, List.append_nil] at whole
    conv_lhs => rw [whole]
    exact List.splitOnP_eq_single _ _ clean
  · rename_i some
    obtain ⟨sep, after, split⟩ := List.exists_cons_of_ne_nil some
    have comma : sep = 44 := by
      have := List.head_dropWhile_not (· != 44) rest (by rw [split]; exact List.cons_ne_nil _ _)
      simpa [split] using this
    rw [split] at whole ⊢
    conv_lhs => rw [whole, comma]
    exact List.splitOnP_first _ _ clean 44 (by decide) after

theorem parseEntry_nil : parseEntry [] = none := rfl

/-- The jobs of the fields: those of the entry up to the first comma, then those of the fields
after it. -/
theorem filterMap_splitOn (rest : Bytes) :
    (rest.splitOn 44).filterMap parseEntry = (parseEntry (rest.takeWhile (· != 44))).toList ++
      (((rest.dropWhile (· != 44)).drop 1).splitOn 44).filterMap parseEntry := by
  have after : (if rest.dropWhile (· != 44) = [] then [] else
      ((rest.dropWhile (· != 44)).drop 1).splitOn 44).filterMap parseEntry =
      (((rest.dropWhile (· != 44)).drop 1).splitOn 44).filterMap parseEntry := by
    split
    · rename_i none
      rw [none]
      rfl
    · rfl
  rw [splitOn_eq, List.filterMap_cons, ← after]
  cases parseEntry (rest.takeWhile (· != 44)) <;> rfl

/-- **The loop stores the first jobs of its fields, up to `maxJobs`.** -/
theorem jobLoop_jobs (fuel : Nat) (s : Store) (rest : Bytes) (enough : rest.length ≤ fuel)
    (bounded : s.jobCount ≤ maxJobs) :
    getJobs (jobLoop fuel s rest) = (getJobs s ++ (rest.splitOn 44).filterMap parseEntry).take maxJobs := by
  induction fuel generalizing s rest with
  | zero =>
    obtain rfl : rest = [] := List.eq_nil_of_length_eq_zero (by omega)
    simp [jobLoop, parseEntry_nil, List.take_of_length_le, bounded]
  | succ fuel ih =>
    unfold jobLoop
    split
    · rename_i going
      have shorter : ((rest.dropWhile (· != 44)).drop 1).length ≤ fuel := by
        have := (@List.dropWhile_suffix _ rest (· != 44)).length_le
        have := List.length_pos.mpr going.1
        rw [List.length_drop]
        omega
      rw [filterMap_splitOn]
      cases parseEntry (rest.takeWhile (· != 44)) with
      | none => rw [Option.elim, ih _ _ shorter bounded]; rfl
      | some job =>
        rw [Option.elim, ih _ _ shorter (by simp only [storeJob]; omega), getJobs_storeJob,
          List.append_assoc]
        rfl
    · rename_i stopped
      rcases not_and_or.mp stopped with empty | full
      · obtain rfl : rest = [] := by simpa using empty
        simp [parseEntry_nil, List.take_of_length_le, bounded]
      · have : s.jobCount = maxJobs := by omega
        rw [List.take_append_of_le_length (by simp; omega), List.take_of_length_le (by simp; omega)]

/-! ## The fields, as meant -/

/-- The job a field stands for, read as the schedule format means it: at least eleven bytes, the
first `':'` at index 10, a positive year, a month in `1..12`, a day in `1..31` and a known bin
type after the colon. -/
def fieldJob (f : Bytes) : Option BinJob :=
  if 11 ≤ f.length ∧ f.getD 10 0 = 58 ∧ 58 ∉ f.take 10 ∧ 0 < atoi4 (f.take 4) ∧
      0 < atoi2 ((f.drop 5).take 2) ∧ atoi2 ((f.drop 5).take 2) ≤ 12 ∧
      0 < atoi2 ((f.drop 8).take 2) ∧ atoi2 ((f.drop 8).take 2) ≤ 31 ∧
      parseBinType (f.drop 11) ≠ binUnknown then
    some ⟨atoi4 (f.take 4), atoi2 ((f.drop 5).take 2), atoi2 ((f.drop 8).take 2), parseBinType (f.drop 11)⟩
  else none

/-- The comma-separated fields after the leading digits and one optional comma. -/
def scheduleFields (data : Bytes) : List Bytes :=
  let rest := data.dropWhile isDigitByte
  (if rest.head? = some 44 then rest.tail else rest).splitOn 44

/-- The jobs a response stands for: the first `maxJobs` fields that are jobs, in order. -/
def scheduleJobs (data : Bytes) : List BinJob := ((scheduleFields data).filterMap fieldJob).take maxJobs

theorem findIdx?_eq_some_iff {p : UInt8 → Bool} (l : Bytes) (k : Nat) :
    l.findIdx? p = some k ↔ k < l.length ∧ p (l.getD k 0) = true ∧ ∀ x ∈ l.take k, p x = false := by
  induction l generalizing k with
  | nil => simp
  | cons x l ih =>
    cases k with
    | zero => by_cases h : p x <;> simp [h]
    | succ k => by_cases h : p x <;> simp [h, List.findIdx?_succ, ih]

/-- The colon loop stops at index 10 exactly when byte 10 is the first colon. -/
theorem colonIndex_eq_ten (entry : Bytes) :
    colonIndex entry = 10 ↔ 10 < entry.length ∧ entry.getD 10 0 = 58 ∧ 58 ∉ entry.take 10 := by
  have found : colonIndex entry = 10 ↔ entry.findIdx? (· == 58) = some 10 := by
    unfold colonIndex
    split <;> rename_i found <;> rw [found]
    · simp only [Option.some.injEq]
      omega
    · simp
  rw [found, findIdx?_eq_some_iff]
  simp [List.forall_mem_ne']

/-- **Each entry is read as the format means**: the loop's decoding of an entry is `fieldJob`. -/
theorem parseEntry_eq_fieldJob (f : Bytes) : parseEntry f = fieldJob f := by
  have year : atoi4 (f.take 4) % 2 ^ 16 = atoi4 (f.take 4) :=
    Nat.mod_eq_of_lt (Nat.lt_of_le_of_lt (atoi4_le _) (by norm_num))
  have month : atoi2 ((f.drop 5).take 2) % 2 ^ 8 = atoi2 ((f.drop 5).take 2) :=
    Nat.mod_eq_of_lt (Nat.lt_of_le_of_lt (atoi2_le _) (by norm_num))
  have day : atoi2 ((f.drop 8).take 2) % 2 ^ 8 = atoi2 ((f.drop 8).take 2) :=
    Nat.mod_eq_of_lt (Nat.lt_of_le_of_lt (atoi2_le _) (by norm_num))
  unfold parseEntry fieldJob slice
  simp only [colonIndex_eq_ten, List.drop_zero, Nat.sub_zero, Nat.reduceSub, year, month, day, ← ite_and]
  -- the same guards, in another order; `11 ≤ len` gives the loop's `10 < len`
  exact if_congr
    ⟨fun ⟨⟨long, _, colon, first⟩, bin, y, m, m12, d, d31⟩ =>
        ⟨long, colon, first, y, m, m12, d, d31, bin⟩,
      fun ⟨long, colon, first, y, m, m12, d, d31, bin⟩ =>
        ⟨⟨long, long, colon, first⟩, bin, y, m, m12, d, d31⟩⟩
    rfl rfl

theorem skipComma_eq (rest : Bytes) :
    skipComma rest = if rest.head? = some 44 then rest.tail else rest := by
  match rest with
  | [] => rfl
  | b :: tail =>
    by_cases comma : b = 44
    · subst comma
      rfl
    · simp only [List.head?_cons, Option.some.injEq, comma, if_false]
      unfold skipComma
      split
      · rename_i same
        exact absurd (List.cons.inj same).1 comma
      · rfl

/-! ## The response -/

/-- **The jobs `parseScheduleResponse` leaves**, for every response and every prior content of the
job storage: it returns `jobCount`, and `getJobs()` is the first fifteen fields that are jobs. -/
theorem parseScheduleResponse_jobs (s : Store) (data : Bytes) :
    (parseScheduleResponse s data).1 = (parseScheduleResponse s data).2.jobCount ∧
      getJobs (parseScheduleResponse s data).2 = scheduleJobs data := by
  unfold parseScheduleResponse
  split
  · subst data
    exact ⟨rfl, rfl⟩
  · refine ⟨rfl, ?_⟩
    have fuel : (skipComma (data.dropWhile isDigitByte)).length ≤ data.length := by
      have := (@List.dropWhile_suffix _ data isDigitByte).length_le
      rw [skipComma_eq]
      split
      · rw [List.length_tail]; omega
      · exact this
    dsimp only
    rw [digitLoop_zero, jobLoop_jobs _ _ _ fuel (by simp [maxJobs]), scheduleJobs, scheduleFields,
      ← skipComma_eq]
    simp [getJobs, funext parseEntry_eq_fieldJob]

/-- **The timestamp is the leading digits' value, wrapped to `int64`.** -/
theorem parseScheduleResponse_timestamp (s : Store) (data : Bytes) :
    (parseScheduleResponse s data).2.parsedTimestamp = toInt64 (digitsValue (data.takeWhile isDigitByte)) := by
  unfold parseScheduleResponse
  split
  · subst data
    rfl
  · rw [jobLoop_parsedTimestamp, digitLoop_zero]
    rfl

/-- Below `2 ^ 63` the timestamp is the digits' value. -/
theorem parseScheduleResponse_timestamp_exact (s : Store) (data : Bytes)
    (fits : digitsValue (data.takeWhile isDigitByte) < 2 ^ 63) :
    (parseScheduleResponse s data).2.parsedTimestamp = digitsValue (data.takeWhile isDigitByte) := by
  rw [parseScheduleResponse_timestamp, toInt64, wrapSigned_of_lt (by omega) (by exact_mod_cast fits)]

/-! ## The clock -/

/-- The end of `fetchScheduleViaMQTT`, once the response is in `responseBuf[:responseLen]`: the
Unix time it passes to `time.Unix` for `runtime.AdjustTimeOffset`, when `parsedTimestamp > 0`,
and the jobs it returns. -/
def fetchScheduleViaMQTT (s : Store) (response : Bytes) : Option Int × List BinJob :=
  let parsed := (parseScheduleResponse s response).2
  (if 0 < parsed.parsedTimestamp then some parsed.parsedTimestamp else none, getJobs parsed)

/-- **A timestamp past `2 ^ 63` still sets the clock**: `2 ^ 64 + 1737207000` wraps to
`1737207000`, a plausible Unix time, and `fetchScheduleViaMQTT` adjusts the clock to it. -/
theorem fetchSchedule_overflow_syncs (s : Store) :
    2 ^ 63 ≤ digitsValue ((ascii "18446744075446758616,2026-01-17:BLACK").takeWhile isDigitByte) ∧
      (fetchScheduleViaMQTT s (ascii "18446744075446758616,2026-01-17:BLACK")).1 = some 1737207000 := by
  refine ⟨by decide, ?_⟩
  unfold fetchScheduleViaMQTT
  dsimp only
  rw [parseScheduleResponse_timestamp]
  decide

end Bindicator.Schedule
