/-
**`runCommand` against the console: one connection, in every interleaving of its reads.**

`runCommand(addr, cmd, password)` reads the console's password prompt once (`authenticate`),
writes the password and `\r\n`, reads in `consumeUntilPrompt` until the text it has read holds
`> `, writes the command and `\r\n`, and reads the response once. The console writes its prompt,
reads the password line (`authenticateConsole`), writes `restoreEcho()` and, when the password
matches, the welcome that ends in `> `; then it hands each line it reads to `processCommand`
(`handleConsoleSession`). Each `conn.Read` returns some of the bytes the other side has written
and this side has not read yet, up to its buffer, and a read of the CLI may fail (a deadline, or
the connection closed): `Conversation.run` takes every such interleaving.
`authenticateConsole` drops the rest of the read that holds the password's line end.

* `Talk.step`, `Talk.run`: until the console accepts the password it writes no `>`, so the CLI
  has written at most the password line; afterwards the console has read only what is left of the
  password's `\r\n` and of the command line;
* `runCommand_delivers`: as long as no read of the CLI fails, the console runs no line but the
  CLI's command, and runs it once it has read all the CLI wrote;
* `runCommand_cut`: when `consumeUntilPrompt` gives up before the welcome (a read deadline), the
  console can read the password line and the start of the command in one read, drop that start
  with the rest of the read, and run the command's tail, a line the CLI never sent;
* `runCommand_stray_prompt`: with no read failing, the CLI can still print nothing for a command
  the console runs: a line feed the console reads apart from the password's carriage return is an
  empty line, answered with `> `, and a response read that returns only that prompt prints empty.
-/

import Bindicator.Console.Command

namespace Bindicator.Cli

/-- The loop of `stripTelnetIAC` over `data[i:]`, with `skip` bytes of an `IAC` sequence still to
pass: an `IAC` (`0xFF`) with a byte after it is passed with that byte, and with one more (if any)
when that byte is `WILL`, `WONT`, `DO` or `DONT` (`0xFB` to `0xFE`); other bytes, and an `IAC` at
the end, are kept. -/
def stripLoop : Nat → Bytes → Bytes
  | _, [] => []
  | skip + 1, _ :: tail => stripLoop skip tail
  | 0, b :: tail =>
    if b = 0xFF ∧ tail ≠ [] then stripLoop (if 0xFB ≤ tail.headD 0 ∧ tail.headD 0 ≤ 0xFE then 2 else 1) tail
    else b :: stripLoop 0 tail

/-- `stripTelnetIAC(data)`. -/
def stripTelnetIAC (data : Bytes) : Bytes := stripLoop 0 data

/-- `strings.ToLower` on an ASCII byte. -/
def asciiLower (b : UInt8) : UInt8 := if 65 ≤ b ∧ b ≤ 90 then b + 32 else b

/-- `authenticate`'s check of the prompt it reads:
`strings.Contains(strings.ToLower(string(stripTelnetIAC(prompt[:n]))), "password")`. -/
def promptAccepted (prompt : Bytes) : Bool :=
  containsBytes ((stripTelnetIAC prompt).map asciiLower) (ascii "password")

/-- What `runCommand` prints of its response:
`strings.TrimSpace(strings.TrimSuffix(string(response[:n]), "> "))`. -/
def commandOutput (response : Bytes) : Bytes := trimAsciiSpace (trimSuffix response (ascii "> "))

/-- `stripTelnetIAC` only drops bytes. -/
theorem stripLoop_sublist (skip : Nat) (data : Bytes) : List.Sublist (stripLoop skip data) data := by
  induction data generalizing skip with
  | nil => cases skip <;> exact List.Sublist.slnil
  | cons b tail ih =>
    cases skip with
    | succ skip => exact (ih skip).cons _
    | zero =>
      rw [stripLoop]
      split
      · exact (ih _).cons _
      · exact (ih 0).cons₂ _

theorem mem_stripTelnetIAC {b : UInt8} {data : Bytes} (kept : b ∈ stripTelnetIAC data) : b ∈ data :=
  (stripLoop_sublist 0 data).subset kept

/-- A text that holds `> ` holds a `>`. -/
theorem containsBytes_prompt {s : Bytes} (holds : containsBytes s (ascii "> ") = true) : (62 : UInt8) ∈ s := by
  obtain ⟨i, -, found⟩ := List.any_eq_true.mp holds
  obtain ⟨rest, starts⟩ := List.isPrefixOf_iff_prefix.mp found
  exact List.mem_of_mem_drop (starts ▸ List.mem_append_left rest (show (62 : UInt8) ∈ ascii "> " by decide))


end Bindicator.Cli

namespace Bindicator.Console

/-- `telnetWillEcho`, `IAC WILL ECHO`. -/
def telnetWillEcho : Bytes := [0xFF, 0xFB, 0x01]

/-- `telnetWontEcho`, `IAC WONT ECHO`. -/
def telnetWontEcho : Bytes := [0xFF, 0xFC, 0x01]

/-- What `authenticateConsole` writes before it reads. -/
def passwordPrompt : Bytes := telnetWillEcho ++ ascii "Password: "

/-- `restoreEcho()`. -/
def restoreEcho : Bytes := telnetWontEcho ++ ascii "\r\n"

/-- The welcome `consoleServer` writes after `authenticateConsole` returns true. -/
def welcome : Bytes := ascii "Openenterprise Bindicator Debug Console\r\nType \x27help\x27 for commands\r\n> "

/-- What `handleConsoleSession` writes for an event, with `respond line` what `processCommand`
writes for the line. -/
def eventText (respond : Bytes → Bytes) : SessionEvent → Bytes
  | .command line => respond line
  | .prompt => ascii "> "
  | .lineTooLong => ascii "\r\nLine too long\r\n> "

/-- One read of `handleConsoleSession`: the byte loop, then the `Line too long` check. -/
def sessionRead (read cmd : Bytes) (skipIAC : Nat) : List SessionEvent × Bytes × Nat :=
  if consoleBufSize - 1 ≤ (scanCommands read cmd skipIAC false).2.1.length then
    ((scanCommands read cmd skipIAC false).1 ++ [.lineTooLong], [], (scanCommands read cmd skipIAC false).2.2)
  else scanCommands read cmd skipIAC false

/-- `sessionLoop` is `sessionRead` read after read. -/
theorem sessionLoop_cons (read : Bytes) (reads : List Bytes) (cmd : Bytes) (skipIAC : Nat) :
    sessionLoop (read :: reads) cmd skipIAC =
      (sessionRead read cmd skipIAC).1 ++
        sessionLoop reads (sessionRead read cmd skipIAC).2.1 (sessionRead read cmd skipIAC).2.2 := by
  simp only [sessionLoop, sessionRead]
  split <;> simp

/-- Where `runCommand` is. -/
inductive ClientPhase where
  /-- `authenticate`: the read of the password prompt. -/
  | prompt
  /-- `consumeUntilPrompt`, with the text `accumulated` so far. -/
  | consume (accumulated : Bytes)
  /-- The read of the response. -/
  | reply
  /-- `runCommand` printed `output` and returned. -/
  | done (output : Bytes)
  /-- `authenticate` returned an error. -/
  | failed
  deriving DecidableEq, Repr

/-- The size of the CLI's read buffer: `prompt` (64 bytes), `consumeUntilPrompt`'s `buf` (256),
`response` (4096); it reads nothing once it has returned. -/
def ClientPhase.bufSize : ClientPhase → Nat
  | .prompt => 64
  | .consume _ => 256
  | .reply => 4096
  | .done _ | .failed => 0

/-- Whether the CLI has left `consumeUntilPrompt`: it reads the response, or has returned. -/
def ClientPhase.answered : ClientPhase → Bool
  | .reply | .done _ => true
  | .prompt | .consume _ | .failed => false

/-- What the CLI has written after the password line: the command line, once it has left
`consumeUntilPrompt`. -/
def ClientPhase.sent (command : Bytes) : ClientPhase → Bytes
  | .reply | .done _ => command ++ ascii "\r\n"
  | .prompt | .consume _ | .failed => []

/-- Where the console is on the connection. -/
inductive ConsolePhase where
  /-- `authenticateConsole`, with `passBuf[:passLen]` and `skipIAC`. -/
  | auth (pass : Bytes) (skipIAC : Nat)
  /-- `handleConsoleSession`, with `consoleBuf[:cmdLen]` and `skipIAC`. -/
  | session (cmd : Bytes) (skipIAC : Nat)
  /-- `authenticateConsole` returned false and the connection is closed. -/
  | closed
  deriving DecidableEq, Repr

/-- One console connection with `runCommand` at the other end. -/
structure Conversation where
  /-- The bytes the CLI has written and the console has not read. -/
  up : Bytes
  /-- The bytes the console has written and the CLI has not read. -/
  down : Bytes
  console : ConsolePhase
  client : ClientPhase
  /-- The lines the console has handed to `processCommand`, in order. -/
  commands : List Bytes
  deriving DecidableEq, Repr

/-- The connection once the console has accepted it: it has written its password prompt. -/
def connected : Conversation := ⟨[], passwordPrompt, .auth [] 0, .prompt, []⟩

/-- What happens next on the connection. -/
inductive Move where
  /-- The console's `conn.Read(readBuf[:])` returns the first `n` bytes waiting. -/
  | consoleRead (n : Nat)
  /-- `authenticateConsole`'s ten seconds run out. -/
  | consoleDeadline
  /-- The CLI's `conn.Read` returns the first `n` bytes waiting. -/
  | clientRead (n : Nat)
  /-- The CLI's `conn.Read` returns an error: its deadline passed or the connection closed. -/
  | clientError
  deriving DecidableEq, Repr

/-- `len(readBuf)` in `authenticateConsole` and `handleConsoleSession`. -/
def readBufSize : Nat := 64

section Moves

variable (expected password command : Bytes) (respond : Bytes → Bytes)

/-- The console takes `read` off the connection, with `credentials.ConsolePassword()` as
`expected`: one pass of `authenticateConsole`'s loop, or of `handleConsoleSession`'s. -/
def Conversation.consoleTakes (c : Conversation) (read : Bytes) : Option Conversation :=
  match c.console with
  | .auth pass skipIAC =>
    match scanPassword read pass skipIAC with
    | .line pass =>
      if pass = expected then some { c with down := c.down ++ restoreEcho ++ welcome, console := .session [] 0 }
      else some { c with down := c.down ++ restoreEcho, console := .closed }
    | .pending pass skipIAC =>
      if passBufSize - 1 ≤ pass.length then some { c with down := c.down ++ restoreEcho, console := .closed }
      else some { c with console := .auth pass skipIAC }
  | .session cmd skipIAC =>
    some { c with down := c.down ++ (sessionRead read cmd skipIAC).1.flatMap (eventText respond),
                  console := .session (sessionRead read cmd skipIAC).2.1 (sessionRead read cmd skipIAC).2.2,
                  commands := c.commands ++ commandsOf (sessionRead read cmd skipIAC).1 }
  | .closed => none

/-- The CLI takes `read` off the connection: `authenticate`'s check, a pass of
`consumeUntilPrompt`'s loop, or the response. -/
def Conversation.clientTakes (c : Conversation) (read : Bytes) : Option Conversation :=
  match c.client with
  | .prompt =>
    some (if Cli.promptAccepted read then { c with up := c.up ++ password ++ ascii "\r\n", client := .consume [] }
      else { c with client := .failed })
  | .consume accumulated =>
    some (if Cli.containsBytes (accumulated ++ Cli.stripTelnetIAC read) (ascii "> ") then
        { c with up := c.up ++ command ++ ascii "\r\n", client := .reply }
      else { c with client := .consume (accumulated ++ Cli.stripTelnetIAC read) })
  | .reply => some { c with client := .done (Cli.commandOutput read) }
  | .done _ | .failed => none

/-- One move; `none` when it cannot happen. A failed read ends `authenticate` with an error, ends
`consumeUntilPrompt` (the command is sent anyway), and leaves the response empty. -/
def Conversation.step (c : Conversation) : Move → Option Conversation
  | .consoleRead n =>
    if 0 < n ∧ n ≤ readBufSize ∧ n ≤ c.up.length then
      { c with up := c.up.drop n }.consoleTakes expected respond (c.up.take n)
    else none
  | .consoleDeadline =>
    match c.console with
    | .auth _ _ => some { c with down := c.down ++ restoreEcho, console := .closed }
    | _ => none
  | .clientRead n =>
    if 0 < n ∧ n ≤ c.client.bufSize ∧ n ≤ c.down.length then
      { c with down := c.down.drop n }.clientTakes password command (c.down.take n)
    else none
  | .clientError =>
    match c.client with
    | .prompt => some { c with client := .failed }
    | .consume _ => some { c with up := c.up ++ command ++ ascii "\r\n", client := .reply }
    | .reply => some { c with client := .done (Cli.commandOutput []) }
    | .done _ | .failed => none

/-- The moves one after another. -/
def Conversation.run (c : Conversation) : List Move → Option Conversation
  | [] => some c
  | move :: moves => (c.step expected password command respond move).bind fun c' => c'.run moves

end Moves


/-! ## What each side's read takes -/

/-- `authenticateConsole` keeps a run of printable bytes while `passBuf` has room. -/
theorem scanPassword_printable (xs rest pass : Bytes) (printable : ∀ b ∈ xs, isPrintable b = true)
    (room : pass.length + xs.length < passBufSize - 1) :
    scanPassword (xs ++ rest) pass 0 = scanPassword rest (pass ++ xs) 0 := by
  induction xs generalizing pass with
  | nil => rw [List.nil_append, List.append_nil]
  | cons b xs ih =>
    have visible := printable b (List.mem_cons_self _ _)
    obtain ⟨notIAC, notEnd⟩ := isPrintable_byte visible
    rw [List.cons_append, scanPassword, if_pos (by simp at room; omega)]
    simp only [Nat.lt_irrefl, notIAC, notEnd, visible, Bool.false_eq_true, ↓reduceIte]
    rw [ih _ (fun c mem => printable c (List.mem_cons_of_mem _ mem)) (by simp at room ⊢; omega),
      List.append_assoc, List.singleton_append]

/-- A carriage return ends the password. -/
theorem scanPassword_return (rest pass : Bytes) (room : pass.length < passBufSize - 1) :
    scanPassword (13 :: rest) pass 0 = .line pass := by
  rw [scanPassword, if_pos room]
  rfl

/-- The console's read of `n` bytes of the password line, `k` bytes in: the password so far, or
the whole password at its carriage return. -/
theorem scanPassword_passwordLine (password : Bytes) (printable : ∀ b ∈ password, isPrintable b = true)
    (short : password.length < passBufSize - 1) (k n : Nat) (within : k ≤ password.length) :
    scanPassword (((password ++ ascii "\r\n").drop k).take n) (password.take k) 0 =
      if k + n ≤ password.length then .pending (password.take (k + n)) 0 else .line password := by
  have later : ∀ b ∈ password.drop k, isPrintable b = true := fun b mem => printable b (List.mem_of_mem_drop mem)
  rw [List.drop_append_of_le_length within]
  split
  · rename_i inside
    rw [List.take_append_of_le_length (by simp; omega), ← List.append_nil ((password.drop k).take n),
      scanPassword_printable _ _ _ (fun b mem => later b (List.mem_of_mem_take mem)) (by simp; omega),
      ← List.take_add]
    rfl
  · rename_i beyond
    obtain ⟨m, more⟩ : ∃ m, n - (password.drop k).length = m + 1 :=
      ⟨_, (Nat.succ_pred_eq_of_pos (by simp; omega)).symm⟩
    rw [List.take_append_eq_append_take, List.take_of_length_le (by simp; omega), more]
    show scanPassword (password.drop k ++ 13 :: ([10] : Bytes).take m) _ 0 = _
    rw [scanPassword_printable _ _ _ later (by simp; omega), List.take_append_drop]
    exact scanPassword_return _ _ short

/-- What is left of the password line past its carriage return: its line feed, or nothing. -/
theorem passwordLine_drop (password : Bytes) (m : Nat) (beyond : password.length < m) :
    (password ++ ascii "\r\n").drop m = [] ∨ (password ++ ascii "\r\n").drop m = [10] := by
  obtain ⟨j, more⟩ : ∃ j, m - password.length = j + 1 := ⟨_, (Nat.succ_pred_eq_of_pos (by omega)).symm⟩
  rw [List.drop_append_eq_append_drop, List.drop_eq_nil_of_le (by omega), List.nil_append, more]
  rcases j with _ | j
  · exact .inr rfl
  · exact .inl (List.drop_eq_nil_of_le (by simp [ascii]))


/-! ## The session reads the bytes after the password line -/

/-- A byte is taken only while the line has room. -/
theorem commandsFlat_cons_room {b : UInt8} {rest cmd : Bytes} {skipIAC : Nat} {result : List Bytes × Bytes × Nat}
    (flat : commandsFlat (b :: rest) cmd skipIAC = some result) : cmd.length < consoleBufSize - 1 := by
  by_contra full
  rw [commandsFlat, if_neg full] at flat
  cases flat

/-- A line end with the line empty runs nothing. -/
theorem commandsFlat_lineFeed (rest : Bytes) : commandsFlat (10 :: rest) [] 0 = commandsFlat rest [] 0 := by
  rw [commandsFlat, if_pos (by decide)]
  simp only [Nat.lt_irrefl, ↓reduceIte, show (10 == (0xFF : UInt8)) = false from rfl, show isLineEnd 10 = true from rfl,
    Bool.false_eq_true, List.nil_append]
  cases commandsFlat rest [] 0 <;> rfl

/-- The console is in `handleConsoleSession` and has read `line.take j` of `line`, the bytes the CLI
sends it there: its line buffer, `skipIAC` and the lines it ran are those of the bytes it read. -/
def SessionView (line : Bytes) (c : Conversation) : Prop :=
  ∃ cmd skipIAC j, c.console = .session cmd skipIAC ∧ j ≤ line.length ∧ c.up = line.drop j ∧
    commandsFlat (line.take j) [] 0 = some (c.commands, cmd, skipIAC)

/-- The view reads only the console's side. -/
theorem SessionView.of_eq {line : Bytes} {c c' : Conversation} (view : SessionView line c)
    (console : c'.console = c.console) (up : c'.up = c.up) (commands : c'.commands = c.commands) :
    SessionView line c' := by
  obtain ⟨cmd, skipIAC, j, session, within, waiting, read⟩ := view
  exact ⟨cmd, skipIAC, j, console ▸ session, within, up ▸ waiting, commands ▸ read⟩

/-- The CLI writes more before the console has read past `line`. -/
theorem SessionView.append {line : Bytes} {c : Conversation} (view : SessionView line c) (more : Bytes) :
    SessionView (line ++ more) { c with up := c.up ++ more } := by
  obtain ⟨cmd, skipIAC, j, session, within, waiting, read⟩ := view
  refine ⟨cmd, skipIAC, j, session, by simp; omega, ?_, ?_⟩
  · rw [List.drop_append_of_le_length within, ← waiting]
  · rw [List.take_append_of_le_length within, read]

/-- The lines run so far start the lines of the whole stream. -/
theorem SessionView.commands_prefix {line : Bytes} {cmds : List Bytes} (whole : commandsFlat line [] 0 = some (cmds, [], 0))
    {c : Conversation} (view : SessionView line c) : List.IsPrefix c.commands cmds := by
  obtain ⟨cmd, skipIAC, j, -, -, -, read⟩ := view
  obtain ⟨first, line₁, skip₁, more, upTo, -, total⟩ :=
    commandsFlat_append_some ((List.take_append_drop j line).symm ▸ whole)
  rw [read, Option.some.injEq, Prod.mk.injEq] at upTo
  exact ⟨more, by rw [total, upTo.1]⟩

/-- Once the console has read the whole stream, it has run its lines. -/
theorem SessionView.commands_read_all {line : Bytes} {cmds : List Bytes} (whole : commandsFlat line [] 0 = some (cmds, [], 0))
    {c : Conversation} (view : SessionView line c) (drained : c.up = []) : c.commands = cmds := by
  obtain ⟨cmd, skipIAC, j, -, -, waiting, read⟩ := view
  rw [List.take_of_length_le (List.drop_eq_nil_iff.mp (waiting ▸ drained)), whole, Option.some.injEq,
    Prod.mk.injEq] at read
  exact read.1.symm

/-- What the console reads in its session, what is left of the password line and what the CLI
sent after it, holds no line but the command, and the command once the CLI has sent it. -/
theorem sent_whole (command : Bytes) (sendable : ∀ b ∈ command, isPrintable b = true) (nonempty : command ≠ [])
    (fits : command.length < consoleBufSize - 1) {tail : Bytes} (rest : tail = [] ∨ tail = [10]) (client : ClientPhase) :
    commandsFlat (tail ++ client.sent command) [] 0 = some (if client.answered then [command] else [], [], 0) := by
  have line := commandsFlat_line command nonempty sendable fits
  rcases rest with rfl | rfl <;> cases client <;>
    simp only [ClientPhase.sent, ClientPhase.answered, List.nil_append, List.singleton_append, commandsFlat_lineFeed,
      line, if_true, Bool.false_eq_true, if_false] <;> rfl

section Moves

variable (expected password command : Bytes) (respond : Bytes → Bytes)

/-- **One read of the session keeps the view**: the console's byte loop does on the read what
`commandsFlat` does on the stream, and no line reaches `Line too long` while the stream `line`
has its commands whole. -/
theorem SessionView.consoleRead {line : Bytes} {cmds : List Bytes} (whole : commandsFlat line [] 0 = some (cmds, [], 0))
    {c c' : Conversation} {n : Nat} (view : SessionView line c)
    (stepped : c.step expected password command respond (.consoleRead n) = some c') : SessionView line c' := by
  obtain ⟨cmd, skipIAC, j, session, within, waiting, read⟩ := view
  rw [Conversation.step] at stepped
  split at stepped
  · rename_i fits
    rw [waiting, List.length_drop] at fits
    simp only [Conversation.consoleTakes, session, waiting, Option.some.injEq] at stepped
    subst stepped
    have split : line.take (j + n) = line.take j ++ (line.drop j).take n := List.take_add _ _ _
    obtain ⟨reached, line₁, skip₁, later, upTo, after, total⟩ :=
      commandsFlat_append_some ((List.take_append_drop (j + n) line).symm ▸ whole)
    obtain ⟨first, line₀, skip₀, more, before, piece, joined⟩ := commandsFlat_append_some (split ▸ upTo)
    rw [read] at before
    simp only [Option.some.injEq, Prod.mk.injEq] at before
    obtain ⟨rfl, rfl, rfl⟩ := before
    obtain ⟨ran, left⟩ := scanCommands_flat _ _ _ false (fun h => nomatch h) piece
    have room : line₁.length < consoleBufSize - 1 := by
      cases rest : line.drop (j + n) with
      | nil =>
        rw [rest] at after
        simp only [commandsFlat, Option.some.injEq, Prod.mk.injEq] at after
        rw [after.2.1]
        decide
      | cons b tail => exact commandsFlat_cons_room (rest ▸ after)
    have kept : sessionRead ((line.drop j).take n) cmd skipIAC = scanCommands ((line.drop j).take n) cmd skipIAC false := by
      rw [sessionRead, if_neg (by simp only [left]; omega)]
    refine ⟨line₁, skip₁, j + n, by simp only [kept, left], by omega, List.drop_drop _ _ _, ?_⟩
    rw [upTo, kept, ran, joined]
  · cases stepped

end Moves


/-! ## What each move can do -/

section Moves

variable {expected password command : Bytes} {respond : Bytes → Bytes}

/-- A read of the console leaves the CLI where it is, and takes bytes that are there. -/
theorem Conversation.step_consoleRead_client {c c' : Conversation} {n : Nat}
    (stepped : c.step expected password command respond (.consoleRead n) = some c') :
    c'.client = c.client ∧ 0 < n ∧ n ≤ readBufSize ∧ n ≤ c.up.length := by
  rw [Conversation.step] at stepped
  split at stepped
  · rename_i fits
    refine ⟨?_, fits⟩
    simp only [Conversation.consoleTakes] at stepped
    split at stepped
    · split at stepped <;> split at stepped <;> cases stepped <;> rfl
    · cases stepped
      rfl
    · cases stepped
  · cases stepped

/-- Only `authenticateConsole` has a deadline: it writes `restoreEcho()` and the connection closes. -/
theorem Conversation.step_consoleDeadline_cases {c c' : Conversation}
    (stepped : c.step expected password command respond .consoleDeadline = some c') :
    (∃ pass skipIAC, c.console = .auth pass skipIAC) ∧ c' = { c with down := c.down ++ restoreEcho, console := .closed } := by
  rw [Conversation.step] at stepped
  split at stepped
  · rename_i pass skipIAC auth
    exact ⟨⟨pass, skipIAC, auth⟩, (Option.some.inj stepped).symm⟩
  · cases stepped

/-- What a read of the CLI can do: the console's side stays as it is. -/
theorem Conversation.step_clientRead_cases {c c' : Conversation} {n : Nat}
    (stepped : c.step expected password command respond (.clientRead n) = some c') :
    c'.console = c.console ∧ c'.commands = c.commands ∧ c'.down = c.down.drop n ∧
      (c.client = .prompt ∧ Cli.promptAccepted (c.down.take n) = true ∧ c'.up = c.up ++ password ++ ascii "\r\n" ∧
          c'.client = .consume [] ∨
        c.client = .prompt ∧ c'.up = c.up ∧ c'.client = .failed ∨
        (∃ accumulated, c.client = .consume accumulated ∧
          (Cli.containsBytes (accumulated ++ Cli.stripTelnetIAC (c.down.take n)) (ascii "> ") = true ∧
              c'.up = c.up ++ command ++ ascii "\r\n" ∧ c'.client = .reply ∨
            c'.up = c.up ∧ c'.client = .consume (accumulated ++ Cli.stripTelnetIAC (c.down.take n)))) ∨
        c.client = .reply ∧ c'.up = c.up ∧ c'.client = .done (Cli.commandOutput (c.down.take n))) := by
  rw [Conversation.step] at stepped
  split at stepped
  · simp only [Conversation.clientTakes] at stepped
    split at stepped
    · rename_i prompt
      split at stepped <;> (simp only [Option.some.injEq] at stepped; subst stepped)
      · exact ⟨rfl, rfl, rfl, .inl ⟨prompt, ‹_›, rfl, rfl⟩⟩
      · exact ⟨rfl, rfl, rfl, .inr (.inl ⟨prompt, rfl, rfl⟩)⟩
    · rename_i accumulated consume
      split at stepped <;> (simp only [Option.some.injEq] at stepped; subst stepped)
      · exact ⟨rfl, rfl, rfl, .inr (.inr (.inl ⟨accumulated, consume, .inl ⟨‹_›, rfl, rfl⟩⟩))⟩
      · exact ⟨rfl, rfl, rfl, .inr (.inr (.inl ⟨accumulated, consume, .inr ⟨rfl, rfl⟩⟩))⟩
    · rename_i reply
      simp only [Option.some.injEq] at stepped
      subst stepped
      exact ⟨rfl, rfl, rfl, .inr (.inr (.inr ⟨reply, rfl, rfl⟩))⟩
    all_goals cases stepped
  · cases stepped

/-- What a failed read of the CLI can do: the console's side stays as it is. -/
theorem Conversation.step_clientError_cases {c c' : Conversation}
    (stepped : c.step expected password command respond .clientError = some c') :
    c'.console = c.console ∧ c'.commands = c.commands ∧
      (c.client = .prompt ∧ c'.up = c.up ∧ c'.client = .failed ∨
        (∃ accumulated, c.client = .consume accumulated) ∧ c'.up = c.up ++ command ++ ascii "\r\n" ∧ c'.client = .reply ∨
        c.client = .reply ∧ c'.up = c.up ∧ c'.client = .done (Cli.commandOutput [])) := by
  rw [Conversation.step] at stepped
  split at stepped <;> cases stepped
  · exact ⟨rfl, rfl, .inl ⟨‹_›, rfl, rfl⟩⟩
  · exact ⟨rfl, rfl, .inr (.inl ⟨⟨_, ‹_›⟩, rfl, rfl⟩)⟩
  · exact ⟨rfl, rfl, .inr (.inr ⟨‹_›, rfl, rfl⟩)⟩

end Moves


/-! ## No command byte reaches the password's read -/

/-- What holds on the connection while `runCommand` talks to the console and none of its reads
fails. Until the console accepts the password it has written no `>`, so the CLI has written at
most the password line; afterwards the console reads what is left of the line's `\r\n` and the
command line the CLI writes once it has seen the welcome's `> `. -/
inductive Talk (password command : Bytes) (c : Conversation) : Prop where
  /-- The CLI reads the prompt, or has given up on it; it has written nothing. -/
  | prompting (auth : c.console = .auth [] 0) (silent : c.up = []) (none : c.commands = [])
      (quiet : (62 : UInt8) ∉ c.down) (asking : c.client = .prompt ∨ c.client = .failed)
  /-- The console has read `k` bytes of the password line, all the CLI has written. -/
  | reading (k : Nat) (within : k ≤ password.length) (auth : c.console = .auth (password.take k) 0)
      (sending : c.up = (password ++ ascii "\r\n").drop k) (none : c.commands = []) (quiet : (62 : UInt8) ∉ c.down)
      {accumulated : Bytes} (consuming : c.client = .consume accumulated) (unseen : (62 : UInt8) ∉ accumulated)
  /-- The console has refused the password; nothing the CLI can read holds a `>`. -/
  | refused (closed : c.console = .closed) (none : c.commands = []) (quiet : (62 : UInt8) ∉ c.down)
      (waiting : c.client = .prompt ∨ c.client = .failed ∨
        ∃ accumulated, c.client = .consume accumulated ∧ (62 : UInt8) ∉ accumulated)
  /-- The console has accepted the password and read `tail`, what its read left of the line's
  `\r\n`, and part of the command line once the CLI has sent it. -/
  | accepted (tail : Bytes) (rest : tail = [] ∨ tail = [10]) (past : c.client ≠ .prompt ∧ c.client ≠ .failed)
      (view : SessionView (tail ++ c.client.sent command) c)

/-- The console's prompt and `restoreEcho()` hold no `>`. -/
theorem quiet_restoreEcho {down : Bytes} (quiet : (62 : UInt8) ∉ down) : (62 : UInt8) ∉ down ++ restoreEcho :=
  fun mem => (List.mem_append.mp mem).elim quiet (by decide)

/-- The connection starts as `Talk`. -/
theorem Talk.connected (password command : Bytes) : Talk password command connected :=
  .prompting rfl rfl rfl (by decide) (.inl rfl)

section Moves

variable {expected password command : Bytes} {respond : Bytes → Bytes}

theorem Talk.consoleDeadline {c c' : Conversation} (talk : Talk password command c)
    (stepped : c.step expected password command respond .consoleDeadline = some c') : Talk password command c' := by
  obtain ⟨⟨pass, skipIAC, auth⟩, rfl⟩ := Conversation.step_consoleDeadline_cases stepped
  cases talk with
  | prompting _ _ none quiet asking => exact .refused rfl none (quiet_restoreEcho quiet) (asking.imp_right .inl)
  | reading _ _ _ _ none quiet consuming unseen =>
    exact .refused rfl none (quiet_restoreEcho quiet) (.inr (.inr ⟨_, consuming, unseen⟩))
  | refused closed => rw [closed] at auth; cases auth
  | accepted _ _ _ view =>
    obtain ⟨_, _, _, session, -⟩ := view
    rw [session] at auth
    cases auth

/-- **A read of the CLI keeps `Talk`**: before the console accepts, what the CLI reads holds no
`>`, so `consumeUntilPrompt` goes on; after, the CLI writes the command line behind what the
console has still to read. -/
theorem Talk.clientRead {c c' : Conversation} {n : Nat} (talk : Talk password command c)
    (stepped : c.step expected password command respond (.clientRead n) = some c') : Talk password command c' := by
  obtain ⟨console, commands, down, phases⟩ := Conversation.step_clientRead_cases stepped
  have quiet' : (62 : UInt8) ∉ c.down → (62 : UInt8) ∉ c'.down := fun quiet mem => quiet (List.mem_of_mem_drop (down ▸ mem))
  have unseen' : ∀ accumulated, (62 : UInt8) ∉ c.down → (62 : UInt8) ∉ accumulated →
      (62 : UInt8) ∉ accumulated ++ Cli.stripTelnetIAC (c.down.take n) := fun accumulated quiet unseen mem =>
    (List.mem_append.mp mem).elim unseen fun kept => quiet (List.mem_of_mem_take (Cli.mem_stripTelnetIAC kept))
  have silent' : ∀ accumulated, (62 : UInt8) ∉ c.down → (62 : UInt8) ∉ accumulated →
      Cli.containsBytes (accumulated ++ Cli.stripTelnetIAC (c.down.take n)) (ascii "> ") ≠ true :=
    fun accumulated quiet unseen holds => unseen' accumulated quiet unseen (Cli.containsBytes_prompt holds)
  cases talk with
  | prompting auth silent none quiet asking =>
    rcases phases with ⟨-, -, up, client⟩ | ⟨-, up, client⟩ | ⟨_, consume, -⟩ | ⟨reply, -⟩
    · exact .reading 0 (Nat.zero_le _) (console ▸ auth) (by rw [up, silent]; rfl) (commands ▸ none) (quiet' quiet)
        client (List.not_mem_nil _)
    · exact .prompting (console ▸ auth) (up ▸ silent) (commands ▸ none) (quiet' quiet) (.inr client)
    · rcases asking with client | client <;> rw [client] at consume <;> cases consume
    · rcases asking with client | client <;> rw [client] at reply <;> cases reply
  | reading k within auth sending none quiet consuming unseen =>
    rcases phases with ⟨prompt, -⟩ | ⟨prompt, -⟩ | ⟨accumulated, consume, phase⟩ | ⟨reply, -⟩
    · rw [consuming] at prompt; cases prompt
    · rw [consuming] at prompt; cases prompt
    · rw [consuming, ClientPhase.consume.injEq] at consume
      subst consume
      rcases phase with ⟨holds, -⟩ | ⟨up, client⟩
      · exact absurd holds (silent' _ quiet unseen)
      · exact .reading k within (console ▸ auth) (up ▸ sending) (commands ▸ none) (quiet' quiet) client
          (unseen' _ quiet unseen)
    · rw [consuming] at reply; cases reply
  | refused closed none quiet waiting =>
    rcases phases with ⟨-, -, -, client⟩ | ⟨-, -, client⟩ | ⟨accumulated, consume, phase⟩ | ⟨reply, -⟩
    · exact .refused (console ▸ closed) (commands ▸ none) (quiet' quiet) (.inr (.inr ⟨[], client, List.not_mem_nil _⟩))
    · exact .refused (console ▸ closed) (commands ▸ none) (quiet' quiet) (.inr (.inl client))
    · obtain ⟨_, consume', unseen⟩ : ∃ a, c.client = .consume a ∧ (62 : UInt8) ∉ a := by
        rcases waiting with prompt | failed | found
        · rw [prompt] at consume; cases consume
        · rw [failed] at consume; cases consume
        · exact found
      rw [consume', ClientPhase.consume.injEq] at consume
      subst consume
      rcases phase with ⟨holds, -⟩ | ⟨-, client⟩
      · exact absurd holds (silent' _ quiet unseen)
      · exact .refused (console ▸ closed) (commands ▸ none) (quiet' quiet) (.inr (.inr ⟨_, client, unseen' _ quiet unseen⟩))
    · rcases waiting with client | client | ⟨_, client, -⟩ <;> rw [client] at reply <;> cases reply
  | accepted tail rest past view =>
    rcases phases with ⟨prompt, -⟩ | ⟨prompt, -⟩ | ⟨accumulated, consume, phase⟩ | ⟨reply, up, client⟩
    · exact absurd prompt past.1
    · exact absurd prompt past.1
    · rw [consume, ClientPhase.sent, List.append_nil] at view
      rcases phase with ⟨-, up, client⟩ | ⟨up, client⟩
      · refine .accepted tail rest (by rw [client]; simp) ?_
        rw [client, ClientPhase.sent]
        exact (view.append _).of_eq console (by rw [up, List.append_assoc]) commands
      · refine .accepted tail rest (by rw [client]; simp) ?_
        rw [client, ClientPhase.sent, List.append_nil]
        exact view.of_eq console up commands
    · refine .accepted tail rest (by rw [client]; simp) ?_
      rw [client]
      rw [reply] at view
      exact view.of_eq console up commands

/-- **A read of the console keeps `Talk`**: in `authenticateConsole` it reads only the password
line, so the read that reaches its carriage return drops at most the line feed; in the session,
`SessionView.consoleRead`. -/
theorem Talk.consoleRead (printable : ∀ b ∈ password, isPrintable b = true) (short : password.length < passBufSize - 1)
    (sendable : ∀ b ∈ command, isPrintable b = true) (nonempty : command ≠ [])
    (fits : command.length < consoleBufSize - 1) {c c' : Conversation} {n : Nat} (talk : Talk password command c)
    (stepped : c.step expected password command respond (.consoleRead n) = some c') : Talk password command c' := by
  obtain ⟨client, room⟩ := Conversation.step_consoleRead_client stepped
  cases talk with
  | prompting _ silent =>
    rw [silent] at room
    exact absurd room.2.2 (by simp only [List.length_nil]; omega)
  | reading k within auth sending none quiet consuming unseen =>
    rw [Conversation.step, if_pos room] at stepped
    simp only [Conversation.consoleTakes, auth, sending, scanPassword_passwordLine password printable short k n within] at stepped
    by_cases inside : k + n ≤ password.length
    · simp only [inside, if_true, if_neg (show ¬passBufSize - 1 ≤ (password.take (k + n)).length by simp; omega),
        Option.some.injEq] at stepped
      subst stepped
      exact .reading (k + n) inside rfl (List.drop_drop _ _ _) none quiet consuming unseen
    · simp only [inside, if_false] at stepped
      split at stepped <;> (simp only [Option.some.injEq] at stepped; subst stepped)
      · refine .accepted _ (passwordLine_drop password (k + n) (by omega)) (by rw [consuming]; simp) ?_
        refine ⟨[], 0, 0, rfl, Nat.zero_le _, ?_, by simp only [List.take_zero]; rw [none]; rfl⟩
        simp only [consuming, ClientPhase.sent, List.append_nil, List.drop_zero, List.drop_drop, Nat.add_zero]
      · exact .refused rfl none (quiet_restoreEcho quiet) (.inr (.inr ⟨_, consuming, unseen⟩))
  | refused closed =>
    rw [Conversation.step, if_pos room] at stepped
    simp only [Conversation.consoleTakes, closed] at stepped
    cases stepped
  | accepted tail rest past view =>
    refine .accepted tail rest (client ▸ past) ?_
    rw [client]
    exact view.consoleRead _ _ _ _ (sent_whole command sendable nonempty fits rest c.client) stepped

/-- **`Talk` holds after every move but a failed read of the CLI.** -/
theorem Talk.step (printable : ∀ b ∈ password, isPrintable b = true) (short : password.length < passBufSize - 1)
    (sendable : ∀ b ∈ command, isPrintable b = true) (nonempty : command ≠ [])
    (fits : command.length < consoleBufSize - 1) {c c' : Conversation} {move : Move} (talk : Talk password command c)
    (patient : move ≠ .clientError) (stepped : c.step expected password command respond move = some c') :
    Talk password command c' := by
  cases move with
  | consoleRead n => exact talk.consoleRead printable short sendable nonempty fits stepped
  | consoleDeadline => exact talk.consoleDeadline stepped
  | clientRead n => exact talk.clientRead stepped
  | clientError => exact absurd rfl patient

/-- **`Talk` holds along every run in which no read of the CLI fails.** -/
theorem Talk.run (printable : ∀ b ∈ password, isPrintable b = true) (short : password.length < passBufSize - 1)
    (sendable : ∀ b ∈ command, isPrintable b = true) (nonempty : command ≠ [])
    (fits : command.length < consoleBufSize - 1) {c c' : Conversation} (talk : Talk password command c)
    (moves : List Move) (patient : Move.clientError ∉ moves)
    (ran : c.run expected password command respond moves = some c') : Talk password command c' := by
  induction moves generalizing c with
  | nil =>
    cases ran
    exact talk
  | cons move moves ih =>
    obtain ⟨c₁, stepped, rest⟩ := Option.bind_eq_some.mp ran
    exact ih (talk.step printable short sendable nonempty fits (fun same => patient (same ▸ List.mem_cons_self _ _)) stepped)
      (fun mem => patient (List.mem_cons_of_mem _ mem)) rest

/-- Once the CLI has sent its command, only the console's reads move the view, and the CLI stays
past `consumeUntilPrompt`. -/
theorem SessionView.step_answered {line : Bytes} {cmds : List Bytes} (whole : commandsFlat line [] 0 = some (cmds, [], 0))
    {c c' : Conversation} {move : Move} (view : SessionView line c) (answered : c.client.answered = true)
    (stepped : c.step expected password command respond move = some c') :
    SessionView line c' ∧ c'.client.answered = true := by
  cases move with
  | consoleRead n =>
    obtain ⟨client, -⟩ := Conversation.step_consoleRead_client stepped
    exact ⟨view.consoleRead _ _ _ _ whole stepped, client ▸ answered⟩
  | consoleDeadline =>
    obtain ⟨⟨pass, skipIAC, auth⟩, -⟩ := Conversation.step_consoleDeadline_cases stepped
    obtain ⟨_, _, _, session, -⟩ := view
    rw [session] at auth
    cases auth
  | clientRead n =>
    obtain ⟨console, commands, -, phases⟩ := Conversation.step_clientRead_cases stepped
    rcases phases with ⟨prompt, -⟩ | ⟨prompt, -⟩ | ⟨_, consume, -⟩ | ⟨-, up, client⟩
    · rw [prompt] at answered; cases answered
    · rw [prompt] at answered; cases answered
    · rw [consume] at answered; cases answered
    · exact ⟨view.of_eq console up commands, by rw [client]; rfl⟩
  | clientError =>
    obtain ⟨console, commands, phases⟩ := Conversation.step_clientError_cases stepped
    rcases phases with ⟨prompt, -⟩ | ⟨⟨_, consume⟩, -⟩ | ⟨-, up, client⟩
    · rw [prompt] at answered; cases answered
    · rw [consume] at answered; cases answered
    · exact ⟨view.of_eq console up commands, by rw [client]; rfl⟩

theorem SessionView.run_answered {line : Bytes} {cmds : List Bytes} (whole : commandsFlat line [] 0 = some (cmds, [], 0))
    {c c' : Conversation} (view : SessionView line c) (answered : c.client.answered = true) (moves : List Move)
    (ran : c.run expected password command respond moves = some c') : SessionView line c' ∧ c'.client.answered = true := by
  induction moves generalizing c with
  | nil =>
    cases ran
    exact ⟨view, answered⟩
  | cons move moves ih =>
    obtain ⟨c₁, stepped, rest⟩ := Option.bind_eq_some.mp ran
    obtain ⟨view₁, answered₁⟩ := view.step_answered whole answered stepped
    exact ih view₁ answered₁ rest

end Moves

/-- **`runCommand` delivers its command**: in every interleaving of the two sides' reads in which
no read of the CLI fails, the console hands `processCommand` no line but the CLI's command, and
has handed it the command once it has read all the CLI wrote after the CLI left
`consumeUntilPrompt`, whatever the console's password. -/
theorem runCommand_delivers (expected password command : Bytes) (respond : Bytes → Bytes)
    (printable : ∀ b ∈ password, isPrintable b = true) (short : password.length < passBufSize - 1)
    (sendable : ∀ b ∈ command, isPrintable b = true) (nonempty : command ≠ [])
    (fits : command.length < consoleBufSize - 1) (moves : List Move) (patient : Move.clientError ∉ moves) {c : Conversation}
    (ran : connected.run expected password command respond moves = some c) :
    List.IsPrefix c.commands [command] ∧ (c.client.answered = true → c.up = [] → c.commands = [command]) := by
  cases (Talk.connected password command).run printable short sendable nonempty fits moves patient ran with
  | prompting _ _ none _ asking =>
    refine ⟨none ▸ List.nil_prefix, fun answered => ?_⟩
    rcases asking with client | client <;> rw [client] at answered <;> cases answered
  | reading _ _ _ _ none _ consuming =>
    refine ⟨none ▸ List.nil_prefix, fun answered => ?_⟩
    rw [consuming] at answered
    cases answered
  | refused _ none _ waiting =>
    refine ⟨none ▸ List.nil_prefix, fun answered => ?_⟩
    rcases waiting with client | client | ⟨_, client, -⟩ <;> rw [client] at answered <;> cases answered
  | accepted tail rest _ view =>
    have whole := sent_whole command sendable nonempty fits rest c.client
    refine ⟨?_, fun answered drained => ?_⟩
    · have ran := view.commands_prefix whole
      split at ran
      · exact ran
      · exact (List.prefix_nil.mp ran) ▸ List.nil_prefix
    · rw [if_pos answered] at whole
      exact view.commands_read_all whole drained

/-- `status` with the console's password `secret`, each side reading at once what the other wrote. -/
theorem runCommand_delivers_status :
    (∀ b ∈ ascii "secret", isPrintable b = true) ∧ (ascii "secret").length < passBufSize - 1 ∧
    (∀ b ∈ ascii "status", isPrintable b = true) ∧ ascii "status" ≠ [] ∧
    (ascii "status").length < consoleBufSize - 1 ∧
    Move.clientError ∉ [.clientRead 13, .consoleRead 8, .clientRead 74, .consoleRead 8, .clientRead 14] ∧
    connected.run (ascii "secret") (ascii "secret") (ascii "status") (fun _ => ascii "Status: OK\r\n")
      [.clientRead 13, .consoleRead 8, .clientRead 74, .consoleRead 8, .clientRead 14] =
      some ⟨[], [], .session [] 0, .done (ascii "Status: OK"), [ascii "status"]⟩ ∧
    List.IsPrefix [ascii "status"] [ascii "status"] ∧
    ((ClientPhase.done (ascii "Status: OK")).answered = true → ([] : Bytes) = [] → [ascii "status"] = [ascii "status"]) :=
  have printable : ∀ b ∈ ascii "secret", isPrintable b = true := by decide
  have sendable : ∀ b ∈ ascii "status", isPrintable b = true := by decide
  have patient : Move.clientError ∉ [.clientRead 13, .consoleRead 8, .clientRead 74, .consoleRead 8, .clientRead 14] := by
    decide
  have ran : connected.run (ascii "secret") (ascii "secret") (ascii "status") (fun _ => ascii "Status: OK\r\n")
      [.clientRead 13, .consoleRead 8, .clientRead 74, .consoleRead 8, .clientRead 14] =
      some ⟨[], [], .session [] 0, .done (ascii "Status: OK"), [ascii "status"]⟩ := by decide
  ⟨printable, by decide, sendable, by decide, by decide, patient, ran,
    runCommand_delivers _ _ _ _ printable (by decide) sendable (by decide) (by decide) _ patient ran⟩


/-- **`runCommand` can print nothing for a command the console runs.** When the console reads the
password's carriage return and its line feed in two reads, the line feed is an empty line of the
session and the console answers it with a prompt. A CLI whose response read returns that prompt
alone prints an empty response, and no read of it failed; the console, once it has read the
command line, runs the command. -/
theorem runCommand_stray_prompt (expected password command : Bytes) (respond : Bytes → Bytes)
    (printable : ∀ b ∈ password, isPrintable b = true) (short : password.length < passBufSize - 1)
    (same : password = expected) (sendable : ∀ b ∈ command, isPrintable b = true) (nonempty : command ≠ [])
    (fits : command.length < consoleBufSize - 1) :
    ∃ c, connected.run expected password command respond
        [.clientRead passwordPrompt.length, .consoleRead (password.length + 1), .clientRead (restoreEcho ++ welcome).length,
          .consoleRead 1, .clientRead 2] = some c ∧ c.client = .done [] ∧
      ∀ moves c', c.run expected password command respond moves = some c' → c'.up = [] → c'.commands = [command] := by
  subst same
  have first : connected.step password password command respond (.clientRead passwordPrompt.length) =
      some ⟨password ++ ascii "\r\n", [], .auth [] 0, .consume [], []⟩ := rfl
  have second : (⟨password ++ ascii "\r\n", [], .auth [] 0, .consume [], []⟩ : Conversation).step password password
      command respond (.consoleRead (password.length + 1)) =
      some ⟨[10], [] ++ restoreEcho ++ welcome, .session [] 0, .consume [], []⟩ := by
    have carriage := scanPassword_passwordLine password printable short 0 (password.length + 1) (Nat.zero_le _)
    rw [List.drop_zero, List.take_zero, if_neg (by omega)] at carriage
    rw [Conversation.step, if_pos ⟨by omega, by simp only [readBufSize, passBufSize] at short ⊢; omega, by simp [ascii]⟩]
    simp only [Conversation.consoleTakes, carriage, ↓reduceIte]
    rw [List.drop_append_eq_append_drop, List.drop_eq_nil_of_le (by omega), Nat.add_sub_cancel_left]
    rfl
  have third : (⟨[10], [] ++ restoreEcho ++ welcome, .session [] 0, .consume [], []⟩ : Conversation).step password
      password command respond (.clientRead (restoreEcho ++ welcome).length) =
      some ⟨[10] ++ command ++ ascii "\r\n", [], .session [] 0, .reply, []⟩ := rfl
  have fourth : (⟨[10] ++ command ++ ascii "\r\n", [], .session [] 0, .reply, []⟩ : Conversation).step password
      password command respond (.consoleRead 1) =
      some ⟨command ++ ascii "\r\n", [] ++ ascii "> ", .session [] 0, .reply, []⟩ := by
    rw [Conversation.step, if_pos ⟨by omega, by decide, by simp⟩]
    rfl
  refine ⟨_, by rw [Conversation.run, first, Option.some_bind, Conversation.run, second, Option.some_bind,
    Conversation.run, third, Option.some_bind, Conversation.run, fourth, Option.some_bind]; rfl, rfl,
    fun moves c' ran drained => ?_⟩
  have whole := commandsFlat_line command nonempty sendable fits
  have unread : SessionView (command ++ ascii "\r\n") ⟨command ++ ascii "\r\n", [], .session [] 0, .done [], []⟩ :=
    ⟨[], 0, 0, rfl, Nat.zero_le _, rfl, rfl⟩
  exact (unread.run_answered whole rfl moves ran).1.commands_read_all whole drained

/-- The password `secret` and the command `status`: the CLI prints nothing. -/
theorem runCommand_stray_prompt_status :
    (∀ b ∈ ascii "secret", isPrintable b = true) ∧ (ascii "secret").length < passBufSize - 1 ∧
    ascii "secret" = ascii "secret" ∧ (∀ b ∈ ascii "status", isPrintable b = true) ∧ ascii "status" ≠ [] ∧
    (ascii "status").length < consoleBufSize - 1 ∧
    ∃ c, connected.run (ascii "secret") (ascii "secret") (ascii "status") (fun _ => ascii "Status: OK\r\n")
        [.clientRead passwordPrompt.length, .consoleRead ((ascii "secret").length + 1),
          .clientRead (restoreEcho ++ welcome).length, .consoleRead 1, .clientRead 2] = some c ∧ c.client = .done [] ∧
      ∀ moves c', c.run (ascii "secret") (ascii "secret") (ascii "status") (fun _ => ascii "Status: OK\r\n") moves =
        some c' → c'.up = [] → c'.commands = [ascii "status"] :=
  have printable : ∀ b ∈ ascii "secret", isPrintable b = true := by decide
  have sendable : ∀ b ∈ ascii "status", isPrintable b = true := by decide
  ⟨printable, by decide, rfl, sendable, by decide, by decide,
    runCommand_stray_prompt _ _ _ _ printable (by decide) rfl sendable (by decide) (by decide)⟩

end Bindicator.Console
