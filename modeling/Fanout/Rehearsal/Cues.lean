import Fanout.Cipher.Document
import Fanout.Rehearsal.Script

namespace Fanout.Script

/-- A pair of a device number and its key index or null. -/
def listedDevice? : Json → Option DeviceQuery.Listed
  | .array [id, index] => do
    return (← Json.asUInt16? id, ← Json.optional (Json.asNat? UInt32.size) (some index))
  | _ => none

/-- A pair of a user name and its devices. -/
def listedUser? : Json → Option (Jid × List DeviceQuery.Listed)
  | .array [user, devices] => do
    return (DeviceQuery.individual (← Json.asString? user), ← Json.asList? listedDevice? devices)
  | _ => none

/-- A bundle that is written out, or else the number of a sample. -/
def bundle (v : Json) : PreKeyBundle :=
  ((v.at? "bundle").map PreKeyBundle.ofJson).getD (sampleBundle (v.natAt "n"))

end Fanout.Script
