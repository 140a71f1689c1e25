import Bindicator.Bytes
import Bindicator.Decimal
import Bindicator.Time
import Bindicator.Crypto.Sha256
import Bindicator.Ota.Partition
import Bindicator.Ota.Conn
import Bindicator.Ota.Session
import Bindicator.Ota.Receive
import Bindicator.Ota.Verify
import Bindicator.Ota.Flash
import Bindicator.Ota.Programming
import Bindicator.Cli.Push
import Bindicator.Cli.Uf2
import Bindicator.Ota.RoundTrip
import Bindicator.Ota.Window
import Bindicator.Ota.Server
import Bindicator.Console.Session
import Bindicator.Console.Duration
import Bindicator.Console.Lockout
import Bindicator.Schedule.Parse
import Bindicator.Schedule.Leds
import Bindicator.Main.Watchdog
import Bindicator.Main.Loop
import Bindicator.Main.Retry
import Bindicator.Main.Ntp
import Bindicator.Console.Command
import Bindicator.Console.Client
import Bindicator.Console.Next
import Bindicator.Telemetry.Queues
import Bindicator.Telemetry.Spans
import Bindicator.Telemetry.Nesting
import Bindicator.Telemetry.Json
import Bindicator.Telemetry.Payload
import Bindicator.Telemetry.Slog
import Bindicator.Telemetry.Http
import Bindicator.Firmware.Tasks
