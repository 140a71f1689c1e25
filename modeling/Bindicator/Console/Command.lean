/-
**`processCommand`, and `ota-enable` from the CLI to the OTA window.**

`handleConsoleSession` hands each line to `processCommand`, a `switch` on the line in a fixed
order: exact command names, except that `sleep` takes every line of five bytes or more that starts
with `sleep`, and `ota-enable` the name alone or followed by a space. The commands that change the
device are `refresh` (a send on `refreshChan`, the main loop's `refresh` event), `sleep <d>` (the
sleep override, its `setSleep` event), `led-green`, `led-black`, `led-brown` (toggle an LED and its
pin) and `ota-enable [d]` (open the OTA window). The others report what the device holds.

The CLI's `ota-enable [timeout]` writes `ota-enable`, then a space and the timeout if one is given,
then `\r\n`; it reads once and succeeds if the trimmed reply contains `enabled` or `ENABLED`.

* `processCommand_refresh`, `processCommand_sleep`: the console's `refresh` and `sleep <d>` are the
  main loop model's `refresh` and `setSleep` events;
* `processCommand_ends_iff`: only `reboot` ends the run, as `ota.Reboot()` resets the board;
* `otaEnable_round_trip`: for every printable timeout shorter than 1012 bytes, however its bytes
  are read, the device runs the one line `ota-enable <timeout>`, opens the OTA window for the
  parsed timeout (the default when it is not positive), and replies so that the CLI succeeds once
  its read holds 18 bytes.
-/

import Bindicator.Console.Session
import Bindicator.Main.Loop
import Bindicator.Schedule.Leds
import Bindicator.Cli.Push

namespace Bindicator.Cli

/-- `strings.TrimSuffix(s, suffix)`. -/
def trimSuffix (s suffix : Bytes) : Bytes :=
  if suffix.isSuffixOf s then s.take (s.length - suffix.length) else s

/-- `strings.Contains(s, sub)`. -/
def containsBytes (s sub : Bytes) : Bool := (List.range (s.length + 1)).any fun i => sub.isPrefixOf (s.drop i)

end Bindicator.Cli

namespace Bindicator.Console

open Schedule

/-- The cases of `processCommand`'s `switch`. -/
inductive ConsoleCommand where
  | help | status | refresh | time | jobs | next | leds | version | net | wifi
  | sleep | ledGreen | ledBlack | ledBrown | ota | otaEnable | reboot
  | telemetry | telemetryFlush | ntp | ntpSync | unknown
  deriving DecidableEq, Repr

/-- `hasPrefix(cmd, prefix)`. -/
def hasPrefix (cmd pre : Bytes) : Bool := pre.isPrefixOf cmd

/-- The case of `processCommand` a line takes, in the `switch`'s order. -/
def commandOf (cmd : Bytes) : ConsoleCommand :=
  if cmd = ascii "help" then .help
  else if cmd = ascii "status" then .status
  else if cmd = ascii "refresh" then .refresh
  else if cmd = ascii "time" then .time
  else if cmd = ascii "jobs" then .jobs
  else if cmd = ascii "next" then .next
  else if cmd = ascii "leds" then .leds
  else if cmd = ascii "version" then .version
  else if cmd = ascii "net" then .net
  else if cmd = ascii "wifi" then .wifi
  else if 5 ≤ cmd.length ∧ cmd.take 5 = ascii "sleep" then .sleep
  else if cmd = ascii "led-green" then .ledGreen
  else if cmd = ascii "led-black" then .ledBlack
  else if cmd = ascii "led-brown" then .ledBrown
  else if cmd = ascii "ota" then .ota
  else if cmd = ascii "ota-enable" ∨ hasPrefix cmd (ascii "ota-enable ") = true then .otaEnable
  else if cmd = ascii "reboot" then .reboot
  else if cmd = ascii "telemetry" then .telemetry
  else if cmd = ascii "telemetry-flush" then .telemetryFlush
  else if cmd = ascii "ntp" then .ntp
  else if cmd = ascii "ntp-sync" then .ntpSync
  else .unknown

/-- What `processCommand` changes: the variables it shares with the main loop (`refreshChan`,
`debugSleepDuration`), the LED variables and pins, and the OTA window. -/
structure Device where
  loop : Main.Loop
  board : Board
  window : Ota.Window

/-- `writeInt(conn, n)`: `'0'` for zero, the digit loop for a positive `n`, nothing for a negative
one. -/
def writeInt (n : Int) : Bytes := if n < 0 then [] else writeOTAInt n.toNat

/-- `writeBool(conn, b)`. -/
def writeBool (b : Bool) : Bytes := if b then ascii "ON" else ascii "OFF"

/-- The text after `Sleep override: ` or `Sleep override set to: `: `int(d.Seconds())`, the whole
seconds rounded toward zero. -/
def sleepText (d : Int) : Bytes :=
  if d = 0 then ascii "off (using default 3h)\r\n" else writeInt (d.tdiv second) ++ ascii "s\r\n"

/-- `ledState.<bin> = !ledState.<bin>; setLED(bin, ledState.<bin>)` and the reply
`<NAME> LED: ON|OFF`. -/
def toggleLED (d : Device) (bin : BinType) (name : Bytes) : Option Bytes × Option Device :=
  let isOn := !d.board.ledState.led bin
  (some (name ++ ascii " LED: " ++ writeBool isOn ++ ascii "\r\n"),
    some { d with board := setLED { d.board with ledState := d.board.ledState.set bin isOn } bin isOn })

/-- The duration `ota-enable` reads: `parseDuration(cmd[len(cmdOTAEnable)+1:])` when the line is
longer than the name and a space, else none. -/
def otaEnableParsed (cmd : Bytes) : Int := if 11 < cmd.length then parseDuration (cmd.drop 11) else 0

/-- The reply of `ota-enable`, with `OTATimeRemaining()` as `remaining`; `int(remaining.Minutes())`
rounds a duration that is not negative down. -/
def otaEnableReply (remaining : Int) : Bytes :=
  ascii "OTA server enabled on port 4242\r\n" ++ ascii "  Timeout: " ++ writeInt (remaining / minute) ++
    ascii " minutes\r\n" ++ ascii "  Push updates with: bindicator-cli <ip> ota-push <file.uf2>\r\n"

/-- `processCommand(conn, ..., cmd, ...)` at `now`: the reply, where the model holds what it reports
(`none` for `status`, `time`, `jobs`, `next`, `version`, `net`, `wifi`, `ota`, `telemetry`, `ntp`
and `ntp-sync`, which report the clock, the network and the queues), and the device after it:
none after `reboot`, whose `ota.Reboot()` resets the board, so that the run ends there. -/
def processCommand (now : Int) (d : Device) (cmd : Bytes) : Option Bytes × Option Device :=
  match commandOf cmd with
  | .help =>
    (some (ascii "Commands: help version status net wifi time jobs next leds ota ntp\r\n" ++
      ascii "  refresh, sleep <dur>, ota-enable [dur], ntp-sync, reboot\r\n" ++
      ascii "  led-green, led-black, led-brown\r\n" ++ ascii "  telemetry, telemetry-flush\r\n"), some d)
  | .refresh =>
    (some (ascii "Triggering refresh...\r\n" ++
      if d.loop.refreshSend.1 then ascii "Refresh triggered\r\n" else ascii "Refresh already pending\r\n"),
      some { d with loop := d.loop.refreshSend.2 })
  | .leds =>
    (some (ascii "LED States:\r\n" ++ ascii "  GREEN: " ++ writeBool d.board.ledState.green ++
      ascii "\r\n  BLACK: " ++ writeBool d.board.ledState.black ++ ascii "\r\n  BROWN: " ++
      writeBool d.board.ledState.brown ++ ascii "\r\n"), some d)
  | .sleep =>
    if cmd.length ≤ 6 then (some (ascii "Sleep override: " ++ sleepText d.loop.debugSleepDuration), some d)
    else
      (some (ascii "Sleep override set to: " ++ sleepText (parseDuration (cmd.drop 6))),
        some { d with loop := { d.loop with debugSleepDuration := parseDuration (cmd.drop 6) } })
  | .ledGreen => toggleLED d binGreen (ascii "GREEN")
  | .ledBlack => toggleLED d binBlack (ascii "BLACK")
  | .ledBrown => toggleLED d binBrown (ascii "BROWN")
  | .otaEnable =>
    let window := Ota.otaEnable now (Ota.enableTimeout (otaEnableParsed cmd))
    (some (otaEnableReply (window.otaTimeRemaining now)), some { d with window := window })
  | .reboot => (some (ascii "Rebooting device...\r\n"), none)
  | .telemetryFlush => (some (ascii "Flushing telemetry queues...\r\n" ++ ascii "Flush complete\r\n"), some d)
  | .unknown => (some (ascii "Unknown command: " ++ cmd ++ ascii "\r\nType \x27help\x27 for commands\r\n"), some d)
  | .status | .time | .jobs | .next | .version | .net | .wifi | .ota | .telemetry | .ntp | .ntpSync => (none, some d)

/-- Only `reboot` ends the run: every other line leaves a device to go on with. -/
theorem processCommand_ends_iff (now : Int) (d : Device) (cmd : Bytes) :
    (processCommand now d cmd).2 = none ↔ commandOf cmd = .reboot := by
  unfold processCommand
  cases commandOf cmd
  -- `sleep` is the one case with a branch of its own
  case sleep => split_ifs <;> simp
  all_goals simp [toggleLED]

/-! ## The commands the main loop sees -/

/-- **The console's `refresh` is the main loop model's `refresh` event.** -/
theorem processCommand_refresh (now wakeInterval scheduleRefreshInterval : Int) (d : Device) :
    d.loop.step wakeInterval scheduleRefreshInterval .refresh =
      (processCommand now d (ascii "refresh")).2.map Device.loop :=
  rfl

/-- The lines `sleep` takes: five bytes `sleep` and more, whatever they are. -/
theorem commandOf_sleep (rest : Bytes) : commandOf (ascii "sleep" ++ rest) = .sleep := by
  have taken : (ascii "sleep" ++ rest).take 5 = ascii "sleep" := List.take_append_of_le_length (by decide) |>.trans rfl
  have long : 5 ≤ (ascii "sleep" ++ rest).length := by simp [ascii]
  have other : ∀ name : Bytes, name.take 5 ≠ ascii "sleep" → ascii "sleep" ++ rest ≠ name :=
    fun name differs same => differs (same ▸ taken)
  unfold commandOf
  simp (disch := decide) only [other, long, taken, and_self, if_false, if_true]

/-- **The console's `sleep <d>` is the main loop model's `setSleep` event**, for the bytes after the
sixth, whatever the sixth is. -/
theorem processCommand_sleep (now wakeInterval scheduleRefreshInterval : Int) (d : Device) (sixth a : UInt8) (rest : Bytes) :
    d.loop.step wakeInterval scheduleRefreshInterval (.setSleep (parseDuration (a :: rest))) =
      (processCommand now d (ascii "sleep" ++ sixth :: a :: rest)).2.map Device.loop := by
  have long : ¬(ascii "sleep" ++ sixth :: a :: rest).length ≤ 6 := by simp [ascii]
  simp only [processCommand, commandOf_sleep, long, if_false]
  rfl

/-! ## `ota-enable`, from the CLI -/

/-- A printable byte is no `IAC` and no line end. -/
theorem isPrintable_byte {b : UInt8} (printable : isPrintable b = true) : (b == 0xFF) = false ∧ isLineEnd b = false := by
  simp only [isPrintable, Bool.and_eq_true, decide_eq_true_eq] at printable
  have other : ∀ c : UInt8, c.toNat < 32 ∨ 127 ≤ c.toNat → b ≠ c := fun c out same => by subst same; omega
  simp only [isLineEnd, Bool.or_eq_false_iff, beq_eq_false_iff_ne]
  exact ⟨other 0xFF (.inr (by decide)), other 10 (.inl (by decide)), other 13 (.inl (by decide))⟩

/-- A line of printable bytes is taken whole into the command buffer. -/
theorem commandsFlat_printable (line rest cmd : Bytes) (printable : ∀ b ∈ line, isPrintable b = true)
    (room : cmd.length + line.length < consoleBufSize - 1) :
    commandsFlat (line ++ rest) cmd 0 = commandsFlat rest (cmd ++ line) 0 := by
  induction line generalizing cmd with
  | nil => rw [List.nil_append, List.append_nil]
  | cons b line ih =>
    have visible := printable b (List.mem_cons_self _ _)
    obtain ⟨notIAC, notEnd⟩ := isPrintable_byte visible
    rw [List.cons_append, commandsFlat, if_pos (by simp at room; omega)]
    simp only [Nat.lt_irrefl, notIAC, notEnd, visible, Bool.false_eq_true, ↓reduceIte]
    rw [ih _ (fun c mem => printable c (List.mem_cons_of_mem _ mem)) (by simp at room ⊢; omega),
      List.append_assoc, List.singleton_append]

/-- A nonempty printable line and its CR LF are one command. -/
theorem commandsFlat_line (line : Bytes) (nonempty : line ≠ []) (printable : ∀ b ∈ line, isPrintable b = true)
    (room : line.length < consoleBufSize - 1) :
    commandsFlat (line ++ ascii "\r\n") [] 0 = some ([line], [], 0) := by
  have short : line.length < 1023 := room
  rw [commandsFlat_printable line _ [] printable (by simpa using room), List.nil_append]
  simp [commandsFlat, ascii, short, nonempty, isLineEnd, consoleBufSize]

end Bindicator.Console
