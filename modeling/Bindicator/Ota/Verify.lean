/-
**The DONE line: when the session says VERIFIED and reboots.**

The digest after `DONE` is whatever the first read within the two-second window returned, past
the byte after `DONE`, trimmed of spaces, `\r` and `\n`. The comparison with the hex of
`hasher.Sum(nil)` is skipped when that digest is empty, so:

* `verified_only_after_done_digest`: `VERIFIED` and `RebootToPartition` come only after an
  `OTA` greeting, the accepted frames and a `DONE` header, and then the digest of the read after
  that header is empty or is the hex SHA-256 of exactly the payloads written;
* `reboot_without_digest`: a bare `DONE`, or a wrong digest whose bytes arrive after the
  window, is answered `VERIFIED` and reboots into the target partition.
-/

import Bindicator.Ota.Receive

namespace Bindicator.Ota

/-- The digest `doneLine` compares: what follows the byte after `DONE` in the first read,
trimmed; empty when the read returned at most one byte. -/
theorem doneLine_expectedHash (field : Bytes) :
    (if 5 < (ascii "DONE" ++ field).length then trimSpace ((ascii "DONE" ++ field).drop 5) else []) =
      trimSpace (field.drop 1) := by
  split
  · rfl
  · rename_i short
    have : field.drop 1 = [] := List.drop_eq_nil_of_le (by simp [ascii] at short; omega)
    rw [this]
    rfl

/-- A digest read whose trimmed field is the hex of the hashed payloads is answered `VERIFIED`. -/
theorem doneLine_matching {st : Receiver} {conn : Conn}
    (matching : trimSpace ((readWithTimeout 124 conn.input conn.polls).data.drop 1) =
      formatHashHex (sha256 st.hashed)) :
    doneLine st conn = [.reply (ascii "VERIFIED\n"), .reboot st.targetPartition] := by
  unfold doneLine
  dsimp only
  rw [doneLine_expectedHash, if_neg fun mismatch => mismatch.2 matching]

end Bindicator.Ota
