/-
**The console's line discipline: `authenticateConsole` and `handleConsoleSession`.**

Both read the connection in `conn.Read` calls of up to 64 bytes into a `readBuf`, skip telnet
`IAC` sequences (`0xFF` and the two bytes after it, across reads), and keep the printable bytes
of a line. `authenticateConsole` compares the first line with the password; a line of 63 bytes
is refused. `handleConsoleSession` hands every line to `processCommand`, treats a run of line
ends as one, and refuses a line that reaches 1023 bytes. Each of them, when it stops inside a
read, drops the rest of `readBuf`.

* `authLoop_eq_authFlat`: the password check sees the bytes, not the reads: its outcome is
  `authFlat` of their concatenation;
* `authenticateConsole_segments`: two deliveries of the same bytes authenticate alike;
* `authFlat_first_line`: the outcome is fixed by the first line, so a connection is one attempt;
* `console_segmentation_drops_command`: commands sent in the read of the password are dropped,
  so the commands `processCommand` sees depend on how the bytes are segmented;
* `handleConsoleSession_commands`: past authentication they do not: when no line reaches the
  buffer's limit, the session runs the commands of the bytes, however they are read.
-/

import Bindicator.Bytes

namespace Bindicator.Console

/-- `consoleBufSize = 1024`: a command line holds at most `consoleBufSize - 1` bytes. -/
def consoleBufSize : Nat := 1024

/-- `len(passBuf) = 64`: a password holds at most `passBufSize - 1` bytes. -/
def passBufSize : Nat := 64

/-- A connection as the console reads it: the segments its bytes arrive in, one `conn.Read` each,
and then whether the client closes (`io.EOF`) or falls silent. -/
structure ConsoleConn where
  reads : List Bytes
  closes : Bool
  deriving DecidableEq, Repr

/-- How `authenticateConsole` ends. -/
inductive AuthResult where
  /-- The password matched: `resetFailures()`, then `true`. -/
  | accepted
  /-- A wrong password, a line too long, or the ten seconds over: `recordFailure()`, `false`. -/
  | rejected
  /-- The connection closed first: `false`, with no failure recorded. -/
  | closed
  deriving DecidableEq, Repr

/-- `'\n'` or `'\r'`. -/
def isLineEnd (b : UInt8) : Bool := b == 10 || b == 13

/-- `b >= 32 && b < 127`. -/
def isPrintable (b : UInt8) : Bool := 32 ≤ b.toNat && b.toNat < 127

/-- Where the byte loop of `authenticateConsole` stops in a read. -/
inductive PassScan where
  /-- At a line end, with the password read so far. -/
  | line (pass : Bytes)
  /-- At the end of the read, or with `passBuf` full: the password and `skipIAC`. -/
  | pending (pass : Bytes) (skipIAC : Nat)

/-- The byte loop of `authenticateConsole` over one read,
`for i := 0; i < n && passLen < len(passBuf)-1; i++`. -/
def scanPassword : Bytes → Bytes → Nat → PassScan
  | [], pass, skipIAC => .pending pass skipIAC
  | b :: rest, pass, skipIAC =>
    if pass.length < passBufSize - 1 then
      if 0 < skipIAC then scanPassword rest pass (skipIAC - 1)
      else if b == 0xFF then scanPassword rest pass 2
      else if isLineEnd b then .line pass
      else if isPrintable b then scanPassword rest (pass ++ [b]) skipIAC
      else scanPassword rest pass skipIAC
    else .pending pass skipIAC

/-- The read loop of `authenticateConsole`: the outcome, and the reads left to the session. Out of
reads, the connection has closed or the deadline passes. -/
def authLoop (password : Bytes) (closes : Bool) : List Bytes → Bytes → Nat → AuthResult × List Bytes
  | [], _, _ => (if closes then .closed else .rejected, [])
  | read :: reads, pass, skipIAC =>
    match scanPassword read pass skipIAC with
    | .line pass => (if pass = password then .accepted else .rejected, reads)
    | .pending pass skipIAC =>
      if passBufSize - 1 ≤ pass.length then (.rejected, reads)
      else authLoop password closes reads pass skipIAC

/-- `authenticateConsole(conn)`, with `credentials.ConsolePassword()` as `password`. -/
def authenticateConsole (password : Bytes) (conn : ConsoleConn) : AuthResult × List Bytes :=
  authLoop password conn.closes conn.reads [] 0

/-- What `handleConsoleSession` does with the client's lines. -/
inductive SessionEvent where
  /-- `processCommand(conn, ..., consoleBuf[:cmdLen], ...)`. -/
  | command (line : Bytes)
  /-- The `"> "` after a line end. -/
  | prompt
  /-- `"Line too long"`. -/
  | lineTooLong
  deriving DecidableEq, Repr

/-- The byte loop of `handleConsoleSession` over one read,
`for i := 0; i < n && cmdLen < len(consoleBuf)-1; i++`: the events, the line so far and
`skipIAC`. `gotNewline` starts each read false. -/
def scanCommands : Bytes → Bytes → Nat → Bool → List SessionEvent × Bytes × Nat
  | [], cmd, skipIAC, _ => ([], cmd, skipIAC)
  | b :: rest, cmd, skipIAC, gotNewline =>
    if cmd.length < consoleBufSize - 1 then
      if 0 < skipIAC then scanCommands rest cmd (skipIAC - 1) gotNewline
      else if b == 0xFF then scanCommands rest cmd 2 gotNewline
      else if isLineEnd b then
        if gotNewline then scanCommands rest cmd skipIAC gotNewline
        else
          ((if cmd = [] then [] else [.command cmd]) ++ .prompt :: (scanCommands rest [] skipIAC true).1,
            (scanCommands rest [] skipIAC true).2)
      else if isPrintable b then scanCommands rest (cmd ++ [b]) skipIAC false
      else scanCommands rest cmd skipIAC gotNewline
    else ([], cmd, skipIAC)

/-- The read loop of `handleConsoleSession`, until the connection closes; after each read, a line
of `len(consoleBuf)-1` bytes is refused. -/
def sessionLoop : List Bytes → Bytes → Nat → List SessionEvent
  | [], _, _ => []
  | read :: reads, cmd, skipIAC =>
    if consoleBufSize - 1 ≤ (scanCommands read cmd skipIAC false).2.1.length then
      (scanCommands read cmd skipIAC false).1 ++ .lineTooLong ::
        sessionLoop reads [] (scanCommands read cmd skipIAC false).2.2
    else
      (scanCommands read cmd skipIAC false).1 ++
        sessionLoop reads (scanCommands read cmd skipIAC false).2.1 (scanCommands read cmd skipIAC false).2.2

/-- `handleConsoleSession(conn, ...)` on the reads left after authentication. -/
def handleConsoleSession (reads : List Bytes) : List SessionEvent := sessionLoop reads [] 0

/-- One connection of `consoleServer` past the lockout gate: authentication, and the session if it
succeeds. -/
def consoleConnection (password : Bytes) (conn : ConsoleConn) : AuthResult × List SessionEvent :=
  match authenticateConsole password conn with
  | (.accepted, reads) => (.accepted, handleConsoleSession reads)
  | (result, _) => (result, [])

/-- What the claim compares: the lines given to `processCommand` and the refusals, without the
prompts. -/
def SessionEvent.isPrompt : SessionEvent → Bool
  | .prompt => true
  | _ => false

/-! ## The password check reads bytes -/

/-- The password check on the bytes as one stream: the same loop with no reads. -/
def authFlat (password : Bytes) (closes : Bool) : Bytes → Bytes → Nat → AuthResult
  | [], pass, _ =>
    if passBufSize - 1 ≤ pass.length then .rejected else if closes then .closed else .rejected
  | b :: rest, pass, skipIAC =>
    if passBufSize - 1 ≤ pass.length then .rejected
    else if 0 < skipIAC then authFlat password closes rest pass (skipIAC - 1)
    else if b == 0xFF then authFlat password closes rest pass 2
    else if isLineEnd b then (if pass = password then .accepted else .rejected)
    else if isPrintable b then authFlat password closes rest (pass ++ [b]) skipIAC
    else authFlat password closes rest pass skipIAC

theorem authFlat_full (password : Bytes) (closes : Bool) (bytes pass : Bytes) (skipIAC : Nat)
    (full : passBufSize - 1 ≤ pass.length) : authFlat password closes bytes pass skipIAC = .rejected := by
  cases bytes <;> simp [authFlat, full]

/-- How the check goes on from where its byte loop stopped in a read, with `more` to come. -/
def PassScan.finish (password : Bytes) (closes : Bool) (more : Bytes) : PassScan → AuthResult
  | .line pass => if pass = password then .accepted else .rejected
  | .pending pass skipIAC => authFlat password closes more pass skipIAC

/-- One read of the check, then the rest of the stream. -/
theorem authFlat_append (password : Bytes) (closes : Bool) (read more pass : Bytes) (skipIAC : Nat) :
    authFlat password closes (read ++ more) pass skipIAC =
      (scanPassword read pass skipIAC).finish password closes more := by
  induction read generalizing pass skipIAC with
  | nil => rfl
  | cons b read ih =>
    by_cases full : passBufSize - 1 ≤ pass.length
    · simp only [List.cons_append, authFlat, scanPassword, if_pos full, if_neg (Nat.not_lt.mpr full)]
      exact (authFlat_full _ _ _ _ _ full).symm
    · simp only [List.cons_append, authFlat, scanPassword, if_neg full, if_pos (Nat.lt_of_not_le full)]
      split_ifs <;> first | rfl | exact ih _ _ | simp_all [PassScan.finish]

/-- **The read loop is the check on the bytes**: from a password not yet full, `authLoop` ends as
`authFlat` on the concatenation of the reads. -/
theorem authLoop_eq_authFlat (password : Bytes) (closes : Bool) (reads : List Bytes) (pass : Bytes)
    (skipIAC : Nat) (room : pass.length < passBufSize - 1) :
    (authLoop password closes reads pass skipIAC).1 = authFlat password closes reads.flatten pass skipIAC := by
  induction reads generalizing pass skipIAC with
  | nil => simp [authLoop, authFlat, Nat.not_le.mpr room]
  | cons read reads ih =>
    rw [List.flatten_cons, authFlat_append, authLoop]
    cases scanPassword read pass skipIAC with
    | line pass => rfl
    | pending pass skipIAC =>
      dsimp only [PassScan.finish]
      split
      · rename_i full
        exact (authFlat_full _ _ _ _ _ full).symm
      · rename_i notFull
        exact ih _ _ (Nat.lt_of_not_le notFull)

/-- **The outcome of `authenticateConsole` depends on the bytes, not on how they are read.** -/
theorem authenticateConsole_segments (password : Bytes) (closes : Bool) (reads reads' : List Bytes)
    (same : reads.flatten = reads'.flatten) :
    (authenticateConsole password ⟨reads, closes⟩).1 = (authenticateConsole password ⟨reads', closes⟩).1 := by
  unfold authenticateConsole
  rw [authLoop_eq_authFlat _ _ _ _ _ (by decide), authLoop_eq_authFlat _ _ _ _ _ (by decide), same]

theorem authenticateConsole_segments_password :
    [ascii "pw\n"].flatten = [ascii "p", ascii "w\n"].flatten ∧
      (authenticateConsole (ascii "pw") ⟨[ascii "pw\n"], true⟩).1 =
        (authenticateConsole (ascii "pw") ⟨[ascii "p", ascii "w\n"], true⟩).1 :=
  ⟨rfl, authenticateConsole_segments _ _ _ _ rfl⟩

/-- **The outcome is fixed by the first line**: after a line with no `IAC` byte and its line end,
nothing the client sends changes it, nor whether the connection then closes. -/
theorem authFlat_first_line (password : Bytes) (closes closes' : Bool) (line rest rest' pass : Bytes)
    (lineEnd : UInt8) (plain : ∀ b ∈ line, b ≠ 0xFF ∧ isLineEnd b = false) (ends : isLineEnd lineEnd = true) :
    authFlat password closes (line ++ lineEnd :: rest) pass 0 =
      authFlat password closes' (line ++ lineEnd :: rest') pass 0 := by
  have notIAC : (lineEnd == 0xFF) = false := by
    simp only [isLineEnd, Bool.or_eq_true, beq_iff_eq] at ends
    rcases ends with rfl | rfl <;> rfl
  induction line generalizing pass with
  | nil => simp [authFlat, ends, notIAC]
  | cons b line ih =>
    obtain ⟨notFF, notEnd⟩ := plain b (List.mem_cons_self _ _)
    have rest := fun pass => ih pass fun c mem => plain c (List.mem_cons_of_mem _ mem)
    simp only [List.cons_append, authFlat, notEnd, beq_iff_eq, notFF, if_false, Nat.lt_irrefl,
      Bool.false_eq_true]
    split_ifs <;> first | rfl | exact rest _

/-- **A command sent in the read of the password is lost**: the client sends `pw\nhelp\n`.
Read as `pw\n` then `help\n`, the session runs `help`; read at once, `authenticateConsole`
returns at the line end and `help\n` goes with its `readBuf`, so the session runs nothing. -/
theorem console_segmentation_drops_command :
    [ascii "pw\n", ascii "help\n"].flatten = [ascii "pw\nhelp\n"].flatten ∧
      consoleConnection (ascii "pw") ⟨[ascii "pw\n", ascii "help\n"], true⟩ =
        (.accepted, [.command (ascii "help"), .prompt]) ∧
      consoleConnection (ascii "pw") ⟨[ascii "pw\nhelp\n"], true⟩ = (.accepted, []) := by
  decide

/-! ## The session's commands read bytes -/

/-- The lines given to `processCommand`. -/
def commandsOf (events : List SessionEvent) : List Bytes :=
  events.filterMap fun
    | .command line => some line
    | _ => none

/-- The commands of a byte stream read at once, with the line and `skipIAC` left; `none` when a
byte comes while the line holds `len(consoleBuf) - 1` bytes. -/
def commandsFlat : Bytes → Bytes → Nat → Option (List Bytes × Bytes × Nat)
  | [], cmd, skipIAC => some ([], cmd, skipIAC)
  | b :: rest, cmd, skipIAC =>
    if cmd.length < consoleBufSize - 1 then
      if 0 < skipIAC then commandsFlat rest cmd (skipIAC - 1)
      else if b == 0xFF then commandsFlat rest cmd 2
      else if isLineEnd b then
        (commandsFlat rest [] skipIAC).map fun (cmds, line, skip) => ((if cmd = [] then [] else [cmd]) ++ cmds, line, skip)
      else if isPrintable b then commandsFlat rest (cmd ++ [b]) skipIAC
      else commandsFlat rest cmd skipIAC
    else none

@[simp] theorem commandsOf_nil : commandsOf [] = [] := rfl

@[simp] theorem commandsOf_append (xs ys : List SessionEvent) :
    commandsOf (xs ++ ys) = commandsOf xs ++ commandsOf ys := List.filterMap_append xs ys _

@[simp] theorem commandsOf_command (line : Bytes) (events : List SessionEvent) :
    commandsOf (.command line :: events) = line :: commandsOf events := rfl

@[simp] theorem commandsOf_prompt (events : List SessionEvent) : commandsOf (.prompt :: events) = commandsOf events := rfl

@[simp] theorem commandsOf_lineTooLong (events : List SessionEvent) :
    commandsOf (.lineTooLong :: events) = commandsOf events := rfl

/-- One stream after another. -/
theorem commandsFlat_append (xs ys cmd : Bytes) (skipIAC : Nat) :
    commandsFlat (xs ++ ys) cmd skipIAC =
      (commandsFlat xs cmd skipIAC).bind fun (cmds, line, skip) =>
        (commandsFlat ys line skip).map fun (more, line', skip') => (cmds ++ more, line', skip') := by
  induction xs generalizing cmd skipIAC with
  | nil => simp [commandsFlat]
  | cons b xs ih =>
    simp only [List.cons_append, commandsFlat]
    split_ifs <;> simp [ih, Option.map_bind, Option.bind_map, Function.comp_def]

/-- A stream split in two: the commands of each part, the second read from where the first
leaves the line. -/
theorem commandsFlat_append_some {xs ys cmd : Bytes} {skipIAC : Nat} {cmds : List Bytes} {line : Bytes} {skip : Nat}
    (flat : commandsFlat (xs ++ ys) cmd skipIAC = some (cmds, line, skip)) :
    ∃ first line₁ skip₁ more, commandsFlat xs cmd skipIAC = some (first, line₁, skip₁) ∧
      commandsFlat ys line₁ skip₁ = some (more, line, skip) ∧ cmds = first ++ more := by
  rw [commandsFlat_append] at flat
  obtain ⟨⟨first, line₁, skip₁⟩, split, rest⟩ := Option.bind_eq_some.mp flat
  obtain ⟨⟨more, line₂, skip₂⟩, tail, joined⟩ := Option.map_eq_some'.mp rest
  simp only [Prod.mk.injEq] at joined
  obtain ⟨rfl, rfl, rfl⟩ := joined
  exact ⟨first, line₁, skip₁, more, split, tail, rfl⟩

/-- **One read of the session's byte loop keeps the commands of its bytes**: after a line end
(`gotNewline`) the line is empty, so skipping the next line ends drops no command. -/
theorem scanCommands_flat (read cmd : Bytes) (skipIAC : Nat) (gotNewline : Bool)
    (cleared : gotNewline = true → cmd = []) {cmds : List Bytes} {line : Bytes} {skip : Nat}
    (flat : commandsFlat read cmd skipIAC = some (cmds, line, skip)) :
    commandsOf (scanCommands read cmd skipIAC gotNewline).1 = cmds ∧
      (scanCommands read cmd skipIAC gotNewline).2 = (line, skip) := by
  induction read generalizing cmd skipIAC gotNewline cmds with
  | nil =>
    cases flat
    exact ⟨rfl, rfl⟩
  | cons b rest ih =>
    unfold commandsFlat at flat
    unfold scanCommands
    split at flat
    case isFalse => cases flat
    case isTrue room =>
      rw [if_pos room]
      split at flat
      · rw [if_pos ‹_›]
        exact ih _ _ _ cleared flat
      · rw [if_neg ‹_›]
        split at flat
        · rw [if_pos ‹_›]
          exact ih _ _ _ cleared flat
        · rw [if_neg ‹_›]
          split at flat
          · rw [if_pos ‹_›]
            obtain ⟨⟨cmds', line', skip'⟩, rest', joined⟩ := Option.map_eq_some'.mp flat
            simp only [Prod.mk.injEq] at joined
            obtain ⟨rfl, rfl, rfl⟩ := joined
            cases gotNewline
            · simp only [Bool.false_eq_true, ↓reduceIte, commandsOf_append, commandsOf_prompt]
              obtain ⟨same, left⟩ := ih [] skipIAC true (fun _ => rfl) rest'
              refine ⟨?_, left⟩
              rw [same]
              split <;> rfl
            · obtain rfl := cleared rfl
              simpa using ih [] skipIAC true (fun _ => rfl) rest'
          · rw [if_neg ‹_›]
            split at flat
            · rw [if_pos ‹_›]
              exact ih _ _ false nofun flat
            · rw [if_neg ‹_›]
              exact ih _ _ _ cleared flat

/-- Reads with no bytes give no command. -/
theorem sessionLoop_empty (reads : List Bytes) (cmd : Bytes) (skipIAC : Nat) (empty : reads.flatten = []) :
    commandsOf (sessionLoop reads cmd skipIAC) = [] := by
  induction reads generalizing cmd skipIAC with
  | nil => rfl
  | cons read reads ih =>
    obtain ⟨rfl, rest⟩ := List.append_eq_nil.mp (List.flatten_cons ▸ empty)
    unfold sessionLoop
    split <;> simp [scanCommands, ih _ _ rest]

/-- The read loop of the session on the reads left: the commands of their bytes read at once. -/
theorem sessionLoop_flat (reads : List Bytes) (cmd : Bytes) (skipIAC : Nat) {cmds : List Bytes} {line : Bytes}
    {skip : Nat} (flat : commandsFlat reads.flatten cmd skipIAC = some (cmds, line, skip)) :
    commandsOf (sessionLoop reads cmd skipIAC) = cmds := by
  induction reads generalizing cmd skipIAC cmds line skip with
  | nil =>
    cases flat
    rfl
  | cons read reads ih =>
    rw [List.flatten_cons] at flat
    obtain ⟨first, line', skip', more, firstFlat, moreFlat, rfl⟩ := commandsFlat_append_some flat
    obtain ⟨same, left⟩ := scanCommands_flat read cmd skipIAC false nofun firstFlat
    unfold sessionLoop
    rw [left]
    split
    · rename_i full
      have empty : reads.flatten = [] := by
        cases h : reads.flatten with
        | nil => rfl
        | cons b bs =>
          rw [h] at moreFlat
          simp [commandsFlat, Nat.not_lt.mpr full] at moreFlat
      rw [empty] at moreFlat
      cases moreFlat
      simp [same, sessionLoop_empty reads [] _ empty]
    · simp [same, ih _ _ moreFlat]

/-- **The session runs the commands of the bytes, however they are read**: when no line of the
client's bytes reaches `len(consoleBuf) - 1` bytes, the lines `handleConsoleSession` gives to
`processCommand` are those of the bytes read at once, for every segmentation of them into reads;
only the prompts depend on it. -/
theorem handleConsoleSession_commands (reads : List Bytes) {cmds : List Bytes} {line : Bytes} {skip : Nat}
    (flat : commandsFlat reads.flatten [] 0 = some (cmds, line, skip)) :
    commandsOf (handleConsoleSession reads) = cmds :=
  sessionLoop_flat reads [] 0 flat

/-- `help` and `status`, the CR and LF of the first in different reads. -/
theorem handleConsoleSession_commands_split :
    commandsFlat [ascii "hel", ascii "p\r", ascii "\nstatus\r\n"].flatten [] 0 =
      some ([ascii "help", ascii "status"], [], 0) ∧
    commandsOf (handleConsoleSession [ascii "hel", ascii "p\r", ascii "\nstatus\r\n"]) =
      [ascii "help", ascii "status"] :=
  have flat : commandsFlat [ascii "hel", ascii "p\r", ascii "\nstatus\r\n"].flatten [] 0 =
      some ([ascii "help", ascii "status"], [], 0) := by decide
  ⟨flat, handleConsoleSession_commands _ flat⟩

end Bindicator.Console
