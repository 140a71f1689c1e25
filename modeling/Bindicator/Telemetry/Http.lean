/-
**`sendHTTPPost`: the request on the wire, and what the collector reads of it.**

`flushLogs`, `flushMetrics` and `flushSpans` build their payload in `BodyBuf` and post its first
`bodyLen` bytes with `sendHTTPPost(path, bodyLen)`. On an established connection it writes the
header lines (`writeHTTPInt` gives the `Content-Length`), then the body in a loop of writes of at
most 1024 bytes, each of which the connection may take only in part (`written += n`) or fail
(`conn.Abort()`, "write failed: body"). One `conn.Read` of the reply follows, and a reply of at
least 12 bytes whose tenth is `'2'` is a success.

The collector is an HTTP/1.1 server: it reads the request line and the header lines up to the
empty line, then as many bytes of body as `Content-Length` says (`readRequest`).

* `writeBody_complete`, `writeBody_short`: whatever the connection takes at each write, a body
  loop that completes has sent exactly `BodyBuf[:bodyLen]`, and one that stops has sent less;
* `readRequest_post`, `readRequest_short`: the collector reads the request line and the body
  back from the header lines and a full body, and reads no request from a short one;
* `sendHTTPPost_delivers`: so the collector receives the body exactly when the body loop
  completes, and nothing when a write fails;
* `flushLogs_delivers`: a flush of the log queue delivers the JSON document of the flushed entries.
-/

import Bindicator.Telemetry.Payload

namespace Bindicator.Telemetry

/-- `"\r\n"`. -/
def crlf : Bytes := [13, 10]

/-- `writeHTTPInt(&conn, n)` of a body length: `'0'` for zero, else the digit loop over
`var buf [10]byte`, the loop of `writeOTAInt`. -/
def writeHTTPInt (n : Nat) : Bytes := writeOTAInt n

/-- The header writes of `sendHTTPPost`, `host` being `c.Addr().String()`. -/
def httpHeaders (path host : Bytes) (bodyLen : Nat) : Bytes :=
  ascii "POST " ++ path ++ ascii " HTTP/1.1\r\nHost: " ++ host ++
    ascii "\r\nContent-Type: application/json\r\nContent-Length: " ++ writeHTTPInt bodyLen ++
    ascii "\r\nConnection: close\r\n\r\n"

/-- How the connection answers one `conn.Write` of the body. -/
inductive WriteAnswer where
  /-- It takes `n` bytes; `io.Writer` never reports more than it was given. -/
  | took (n : Nat)
  /-- It returns an error. -/
  | failed
  deriving DecidableEq, Repr

/-- How the body loop ends. -/
inductive BodyEnd where
  /-- `written` reached `bodyLen`. -/
  | complete
  /-- A write failed: `conn.Abort()` and "write failed: body". -/
  | failed
  /-- The connection's answers ran out first. -/
  | stalled
  deriving DecidableEq, Repr

/-- The body loop from `written` on, `for written < bodyLen { chunk := min(bodyLen-written, 1024);
n, err := conn.Write(BodyBuf[written:written+chunk]); ...; written += n }`, over the connection's
answers: the bytes it sends, and how it ends. -/
def writeBody (bodyBuf : Bytes) (bodyLen : Nat) : List WriteAnswer → Nat → Bytes × BodyEnd
  | answers, written =>
    if written < bodyLen then
      match answers with
      | [] => ([], .stalled)
      | .failed :: _ => ([], .failed)
      | .took n :: rest =>
        let taken := min n (min (bodyLen - written) 1024)
        let after := writeBody bodyBuf bodyLen rest (written + taken)
        ((bodyBuf.drop written).take taken ++ after.1, after.2)
    else ([], .complete)

/-- What `sendHTTPPost` returns. -/
inductive PostResult where
  /-- `nil`. -/
  | ok
  /-- "write failed: body". -/
  | writeFailed
  /-- "http error". -/
  | httpError
  deriving DecidableEq, Repr

/-- `respLen >= 12 && respBuf[9] == '2'`. -/
def responseOK (resp : Bytes) : Bool := 12 ≤ resp.length && resp.getD 9 0 == 50

/-- `sendHTTPPost(path, bodyLen)` on an established connection, given the connection's answers to
the body's writes and the bytes of its one `conn.Read(respBuf[:])`: the bytes sent, and the result,
`none` while the body loop waits for the connection. -/
def sendHTTPPost (path host bodyBuf : Bytes) (bodyLen : Nat) (answers : List WriteAnswer) (resp : Bytes) :
    Bytes × Option PostResult :=
  (httpHeaders path host bodyLen ++ (writeBody bodyBuf bodyLen answers 0).1,
    match (writeBody bodyBuf bodyLen answers 0).2 with
    | .complete => some (if responseOK (resp.take 256) then .ok else .httpError)
    | .failed => some .writeFailed
    | .stalled => none)

/-! ## The collector's reader -/

/-- The bytes before the first CR LF of a stream, and those after it. -/
def takeLine : Bytes → Option (Bytes × Bytes)
  | [] => none
  | b :: rest =>
    if b = 13 ∧ rest.head? = some 10 then some ([], rest.tail)
    else (takeLine rest).map fun (line, after) => (b :: line, after)

/-- The lines of a message head up to the empty line that ends it, and the bytes after it; at most
`fuel` lines. -/
def readHead : Nat → Bytes → Option (List Bytes × Bytes)
  | 0, _ => none
  | fuel + 1, stream =>
    (takeLine stream).bind fun (line, rest) =>
      if line = [] then some ([], rest)
      else (readHead fuel rest).map fun (lines, body) => (line :: lines, body)

/-- The value of the header `name`: the rest of the first line that starts with `name: `. -/
def headerValue (name : Bytes) : List Bytes → Option Bytes
  | [] => none
  | line :: lines =>
    if (name ++ ascii ": ").isPrefixOf line then some (line.drop (name.length + 2)) else headerValue name lines

/-- A `Content-Length` value: a nonempty run of digits. -/
def parseContentLength (value : Bytes) : Option Nat :=
  if !value.isEmpty && value.all isDigitByte then some (digitsValue value) else none

/-- A request as an HTTP/1.1 server frames it: the request line, and the `Content-Length` bytes of
body after the head. -/
def readRequest (stream : Bytes) : Option (Bytes × Bytes) :=
  (readHead stream.length stream).bind fun (lines, rest) =>
    match lines with
    | [] => none
    | requestLine :: headers =>
      ((headerValue (ascii "Content-Length") headers).bind parseContentLength).bind fun n =>
        if n ≤ rest.length then some (requestLine, rest.take n) else none

/-- The request line `sendHTTPPost` writes. -/
def requestLine (path : Bytes) : Bytes := ascii "POST " ++ path ++ ascii " HTTP/1.1"

/-! ## The body loop -/

section Body

variable (bodyBuf : Bytes) (bodyLen : Nat)

theorem writeBody_done (answers : List WriteAnswer) {written : Nat} (done : bodyLen ≤ written) :
    writeBody bodyBuf bodyLen answers written = ([], .complete) := by
  rw [writeBody.eq_def]
  exact if_neg (Nat.not_lt.mpr done)

theorem writeBody_nil {written : Nat} (short : written < bodyLen) :
    writeBody bodyBuf bodyLen [] written = ([], .stalled) := by
  rw [writeBody, if_pos short]

theorem writeBody_failed {written : Nat} (rest : List WriteAnswer) (short : written < bodyLen) :
    writeBody bodyBuf bodyLen (.failed :: rest) written = ([], .failed) := by
  rw [writeBody, if_pos short]

theorem writeBody_took {n written : Nat} (rest : List WriteAnswer) (short : written < bodyLen) :
    writeBody bodyBuf bodyLen (.took n :: rest) written =
      ((bodyBuf.drop written).take (min n (min (bodyLen - written) 1024)) ++
          (writeBody bodyBuf bodyLen rest (written + min n (min (bodyLen - written) 1024))).1,
        (writeBody bodyBuf bodyLen rest (written + min n (min (bodyLen - written) 1024))).2) := by
  rw [writeBody, if_pos short]

/-- **A body loop that completes has sent `BodyBuf[written:bodyLen]`**, whatever the connection
took at each write. -/
theorem writeBody_complete (answers : List WriteAnswer) (written : Nat) (within : written ≤ bodyLen)
    (complete : (writeBody bodyBuf bodyLen answers written).2 = .complete) :
    (writeBody bodyBuf bodyLen answers written).1 = (bodyBuf.drop written).take (bodyLen - written) := by
  induction answers generalizing written with
  | nil =>
    rcases Nat.lt_or_ge written bodyLen with short | done
    · rw [writeBody_nil bodyBuf bodyLen short] at complete
      cases complete
    · rw [writeBody_done bodyBuf bodyLen _ done, Nat.sub_eq_zero_of_le done, List.take_zero]
  | cons answer rest ih =>
    rcases Nat.lt_or_ge written bodyLen with short | done
    · cases answer with
      | failed =>
        rw [writeBody_failed bodyBuf bodyLen rest short] at complete
        cases complete
      | took n =>
        have step : min n (min (bodyLen - written) 1024) ≤ bodyLen - written :=
          (min_le_right _ _).trans (min_le_left _ _)
        rw [writeBody_took bodyBuf bodyLen rest short] at complete ⊢
        dsimp only at complete ⊢
        rw [ih _ (by omega) complete]
        generalize min n (min (bodyLen - written) 1024) = taken at step ⊢
        rw [show bodyLen - written = taken + (bodyLen - (written + taken)) by omega, List.take_add,
          List.drop_drop]
    · rw [writeBody_done bodyBuf bodyLen _ done, Nat.sub_eq_zero_of_le done, List.take_zero]

/-- **A body loop that stops has sent less than `BodyBuf[written:bodyLen]`.** -/
theorem writeBody_short (answers : List WriteAnswer) (written : Nat)
    (stopped : (writeBody bodyBuf bodyLen answers written).2 ≠ .complete) :
    (writeBody bodyBuf bodyLen answers written).1.length < bodyLen - written := by
  induction answers generalizing written with
  | nil =>
    rcases Nat.lt_or_ge written bodyLen with short | done
    · rw [writeBody_nil bodyBuf bodyLen short, List.length_nil]
      omega
    · exact absurd (by rw [writeBody_done bodyBuf bodyLen _ done]) stopped
  | cons answer rest ih =>
    rcases Nat.lt_or_ge written bodyLen with short | done
    · cases answer with
      | failed =>
        rw [writeBody_failed bodyBuf bodyLen rest short, List.length_nil]
        omega
      | took n =>
        rw [writeBody_took bodyBuf bodyLen rest short] at stopped ⊢
        dsimp only at stopped ⊢
        have after := ih _ stopped
        rw [List.length_append, List.length_take, List.length_drop]
        omega
    · exact absurd (by rw [writeBody_done bodyBuf bodyLen _ done]) stopped

end Body

/-! ## The head round trip -/

theorem takeLine_crlf (line rest : Bytes) (noCR : 13 ∉ line) : takeLine (line ++ crlf ++ rest) = some (line, rest) := by
  induction line with
  | nil => rfl
  | cons b line ih =>
    have notCR : b ≠ 13 := fun same => noCR (same ▸ List.mem_cons_self _ _)
    rw [List.cons_append, List.cons_append, takeLine, if_neg (fun both => notCR both.1),
      ih (fun mem => noCR (List.mem_cons_of_mem _ mem))]
    rfl

/-- Lines with no CR, each followed by CR LF, then an empty line: `readHead` gives the lines back
and the bytes after them. -/
theorem readHead_lines (lines : List Bytes) (rest : Bytes) (fuel : Nat) (enough : lines.length < fuel)
    (nonempty : ∀ line ∈ lines, line ≠ []) (noCR : ∀ line ∈ lines, 13 ∉ line) :
    readHead fuel (lines.flatMap (· ++ crlf) ++ crlf ++ rest) = some (lines, rest) := by
  induction lines generalizing fuel with
  | nil =>
    obtain ⟨fuel, rfl⟩ : ∃ k, fuel = k + 1 := ⟨fuel - 1, by simp at enough; omega⟩
    rfl
  | cons line lines ih =>
    obtain ⟨fuel, rfl⟩ : ∃ k, fuel = k + 1 := ⟨fuel - 1, by simp at enough; omega⟩
    have first := takeLine_crlf line (lines.flatMap (· ++ crlf) ++ crlf ++ rest)
      (noCR line (List.mem_cons_self _ _))
    simp only [List.append_assoc] at first
    simp only [List.flatMap_cons, List.append_assoc, readHead, first, Option.some_bind,
      if_neg (nonempty line (List.mem_cons_self _ _))]
    rw [← List.append_assoc, ih fuel (by simpa using enough) (fun l mem => nonempty l (List.mem_cons_of_mem _ mem))
      (fun l mem => noCR l (List.mem_cons_of_mem _ mem))]
    rfl

/-- The header writes are five lines and an empty one. -/
theorem httpHeaders_lines (path host : Bytes) (bodyLen : Nat) :
    httpHeaders path host bodyLen =
      [requestLine path, ascii "Host: " ++ host, ascii "Content-Type: application/json",
        ascii "Content-Length: " ++ writeHTTPInt bodyLen, ascii "Connection: close"].flatMap (· ++ crlf) ++ crlf := by
  simp only [httpHeaders, requestLine, List.flatMap_cons, List.flatMap_nil, List.append_nil, List.append_assoc]
  rfl

theorem writeHTTPInt_digits (bodyLen : Nat) (fits : bodyLen ≤ bodyBufSize) :
    writeHTTPInt bodyLen = decimal bodyLen :=
  writeOTAInt_eq_decimal bodyLen (lt_of_le_of_lt fits (by decide))

/-- The collector finds `Content-Length` in the header lines `sendHTTPPost` writes. -/
theorem headerValue_contentLength (host : Bytes) (bodyLen : Nat) :
    headerValue (ascii "Content-Length")
        [ascii "Host: " ++ host, ascii "Content-Type: application/json",
          ascii "Content-Length: " ++ writeHTTPInt bodyLen, ascii "Connection: close"] =
      some (writeHTTPInt bodyLen) := by
  have found : (ascii "Content-Length" ++ ascii ": ").isPrefixOf (ascii "Content-Length: " ++ writeHTTPInt bodyLen) :=
    List.isPrefixOf_iff_prefix.mpr (List.prefix_append _ _)
  simp only [headerValue, found, if_true]
  rfl

theorem parseContentLength_decimal (n : Nat) : parseContentLength (decimal n) = some n := by
  have digits : (decimal n).all isDigitByte = true := List.all_eq_true.mpr (decimal_digits n)
  have nonempty : (decimal n).isEmpty = false := by
    unfold decimal
    split
    · rfl
    · simpa using Nat.digits_ne_nil_iff_ne_zero.mpr ‹_›
  simp [parseContentLength, digits, nonempty, digitsValue_decimal]

/-- The lines `sendHTTPPost` writes are nonempty and hold no CR when the path and the host hold
none. -/
theorem headerLines_wellFormed (path host : Bytes) (bodyLen : Nat) (pathLine : 13 ∉ path) (hostLine : 13 ∉ host)
    (fits : bodyLen ≤ bodyBufSize) :
    ∀ line ∈ [requestLine path, ascii "Host: " ++ host, ascii "Content-Type: application/json",
        ascii "Content-Length: " ++ writeHTTPInt bodyLen, ascii "Connection: close"], line ≠ [] ∧ 13 ∉ line := by
  have digits : 13 ∉ writeHTTPInt bodyLen := fun mem => by
    have := decimal_digits bodyLen 13 (writeHTTPInt_digits bodyLen fits ▸ mem)
    exact absurd this (by decide)
  intro line mem
  simp only [List.mem_cons, List.mem_singleton, List.not_mem_nil, or_false] at mem
  rcases mem with rfl | rfl | rfl | rfl | rfl
  · refine ⟨List.append_ne_nil_of_right_ne_nil _ (by decide), ?_⟩
    rw [requestLine, List.mem_append, List.mem_append]
    exact not_or.mpr ⟨not_or.mpr ⟨by decide, pathLine⟩, by decide⟩
  · exact ⟨List.append_ne_nil_of_left_ne_nil (by decide) _,
      by rw [List.mem_append]; exact not_or.mpr ⟨by decide, hostLine⟩⟩
  · exact ⟨by decide, by decide⟩
  · exact ⟨List.append_ne_nil_of_left_ne_nil (by decide) _,
      by rw [List.mem_append]; exact not_or.mpr ⟨by decide, digits⟩⟩
  · exact ⟨by decide, by decide⟩

/-- **The collector reads back what follows the header lines**: the request line, and the first
`bodyLen` bytes when there are that many; no request when there are fewer. -/
theorem readRequest_headers (path host rest : Bytes) (bodyLen : Nat) (pathLine : 13 ∉ path) (hostLine : 13 ∉ host)
    (fits : bodyLen ≤ bodyBufSize) :
    readRequest (httpHeaders path host bodyLen ++ rest) =
      if bodyLen ≤ rest.length then some (requestLine path, rest.take bodyLen) else none := by
  have wellFormed := headerLines_wellFormed path host bodyLen pathLine hostLine fits
  rw [readRequest, httpHeaders_lines, readHead_lines _ rest _ ?enough (fun line mem => (wellFormed line mem).1)
    (fun line mem => (wellFormed line mem).2), Option.some_bind]
  · dsimp only
    rw [headerValue_contentLength, Option.some_bind, writeHTTPInt_digits bodyLen fits, parseContentLength_decimal,
      Option.some_bind]
  · simp [crlf]
    omega

/-- **The collector receives the body exactly when the body loop completes**: for every way the
connection takes the body's writes, when `sendHTTPPost` returns `nil` or "http error" the collector
has read the request line and `BodyBuf[:bodyLen]`; when a write failed, or the connection has not
taken the whole body, it has read no request. -/
theorem sendHTTPPost_delivers (path host bodyBuf : Bytes) (bodyLen : Nat) (answers : List WriteAnswer) (resp : Bytes)
    (wire : Bytes) (result : Option PostResult) (pathLine : 13 ∉ path) (hostLine : 13 ∉ host)
    (within : bodyLen ≤ bodyBuf.length) (fits : bodyLen ≤ bodyBufSize)
    (sent : sendHTTPPost path host bodyBuf bodyLen answers resp = (wire, result)) :
    (result = some .writeFailed ∨ result = none → readRequest wire = none) ∧
    (result = some .ok ∨ result = some .httpError →
      readRequest wire = some (requestLine path, bodyBuf.take bodyLen)) := by
  rw [sendHTTPPost, Prod.mk.injEq] at sent
  obtain ⟨rfl, rfl⟩ := sent
  rw [readRequest_headers _ _ _ _ pathLine hostLine fits]
  cases ending : (writeBody bodyBuf bodyLen answers 0).2
  case complete =>
    have whole := writeBody_complete bodyBuf bodyLen answers 0 (Nat.zero_le _) ending
    rw [List.drop_zero, Nat.sub_zero] at whole
    have full : bodyLen ≤ (writeBody bodyBuf bodyLen answers 0).1.length := by
      rw [whole, List.length_take]
      omega
    refine ⟨fun stopped => ?_, fun _ => by rw [if_pos full, whole, List.take_take, min_self]⟩
    simp only [ending] at stopped
    rcases stopped with bad | bad <;> split at bad <;> cases bad
  all_goals
    have short := writeBody_short bodyBuf bodyLen answers 0 (by rw [ending]; exact nofun)
    refine ⟨fun _ => if_neg (by omega), fun done => ?_⟩
    simp only [ending] at done
    simp at done

/-- **A flush of the log queue delivers the logs document**: when `flushLogs` takes the queued
entries and their document fits in `BodyBuf`, the collector reads a `POST /v1/logs` whose body is
exactly the OTLP JSON document of those entries if `sendHTTPPost` returns `nil` or "http error",
and no request if a write of the body failed or the connection has not taken it all. -/
theorem flushLogs_delivers (version gitSHA host : Bytes) (t : State) (entries : List LogEntry)
    (answers : List WriteAnswer) (resp wire : Bytes) (result : Option PostResult)
    (flushed : (flushLogs t).1 = some entries) (times : ∀ entry ∈ entries, IsInt64 entry.timestamp)
    (fits : (logsJson version gitSHA entries).render.length ≤ bodyBufSize) (hostLine : 13 ∉ host)
    (sent : sendHTTPPost (ascii "/v1/logs") host (buildLogsJSON version gitSHA t.logQueue).2
      (buildLogsJSON version gitSHA t.logQueue).1 answers resp = (wire, result)) :
    (result = some .writeFailed ∨ result = none → readRequest wire = none) ∧
    (result = some .ok ∨ result = some .httpError →
      readRequest wire = some (ascii "POST /v1/logs HTTP/1.1", (logsJson version gitSHA entries).render)) := by
  unfold flushLogs at flushed
  split at flushed
  · cases flushed
  · rename_i queued
    simp only [Option.some.injEq] at flushed
    subst flushed
    have count : t.logQueue.count ≠ 0 := fun zero => queued (by simp [zero])
    rw [buildLogsJSON_document version gitSHA t.logQueue count times fits] at sent
    have delivered := sendHTTPPost_delivers _ host _ _ answers resp wire result (by decide) hostLine le_rfl fits sent
    rw [List.take_length] at delivered
    exact delivered

set_option maxRecDepth 20000 in
/-- The boot log, flushed to a collector at `192.168.1.10` over a connection that takes the body in
one write and answers `200 OK`. -/
theorem flushLogs_delivers_boot :
    (flushLogs (bootState.run [.enable, .log 1 9 (ascii "bindicator:boot") none]).2).1 = some bootLog.entries ∧
    (∀ entry ∈ bootLog.entries, IsInt64 entry.timestamp) ∧
    (logsJson (ascii "v1.2.0") (ascii "0123456789abcdef") bootLog.entries).render.length ≤ bodyBufSize ∧
    13 ∉ ascii "192.168.1.10" ∧
    ((sendHTTPPost (ascii "/v1/logs") (ascii "192.168.1.10")
          (buildLogsJSON (ascii "v1.2.0") (ascii "0123456789abcdef") bootLog).2
          (buildLogsJSON (ascii "v1.2.0") (ascii "0123456789abcdef") bootLog).1 [.took 2048]
          (ascii "HTTP/1.1 200 OK\r\n")).2 = some .ok ∨
        (sendHTTPPost (ascii "/v1/logs") (ascii "192.168.1.10")
          (buildLogsJSON (ascii "v1.2.0") (ascii "0123456789abcdef") bootLog).2
          (buildLogsJSON (ascii "v1.2.0") (ascii "0123456789abcdef") bootLog).1 [.took 2048]
          (ascii "HTTP/1.1 200 OK\r\n")).2 = some .httpError →
      readRequest (sendHTTPPost (ascii "/v1/logs") (ascii "192.168.1.10")
          (buildLogsJSON (ascii "v1.2.0") (ascii "0123456789abcdef") bootLog).2
          (buildLogsJSON (ascii "v1.2.0") (ascii "0123456789abcdef") bootLog).1 [.took 2048]
          (ascii "HTTP/1.1 200 OK\r\n")).1 =
        some (ascii "POST /v1/logs HTTP/1.1", (logsJson (ascii "v1.2.0") (ascii "0123456789abcdef") bootLog.entries).render)) :=
  have flushed : (flushLogs (bootState.run [.enable, .log 1 9 (ascii "bindicator:boot") none]).2).1 =
      some bootLog.entries := rfl
  have times : ∀ entry ∈ bootLog.entries, IsInt64 entry.timestamp := by decide
  have fits : (logsJson (ascii "v1.2.0") (ascii "0123456789abcdef") bootLog.entries).render.length ≤ bodyBufSize := by
    rw [← logsJson_text _ _ _ times]
    decide
  ⟨flushed, times, fits, by decide,
    (flushLogs_delivers (ascii "v1.2.0") (ascii "0123456789abcdef") (ascii "192.168.1.10") _ _ [.took 2048]
      (ascii "HTTP/1.1 200 OK\r\n") _ _ flushed times fits (by decide) (Prod.mk.eta).symm).2⟩

end Bindicator.Telemetry
