import Fanout.Credentials
import Fanout.Devices.Query
import Fanout.Text.Hex

namespace Fanout

abbrev DeviceCache := Dict Jid (List DeviceEntry)

namespace DeviceDirectory

variable {ω : Type} (host : Host ω)

def cached (cache : DeviceCache) (user : Jid) : Option (List DeviceEntry) :=
  cache.find? user.withoutDevice

def invalidate (cache : DeviceCache) (user : Jid) : DeviceCache := cache.erase user.withoutDevice

/-- The users behind addresses, each once, in order of first occurrence. -/
def users : List Jid → List Jid
  | [] => []
  | jid :: rest =>
    jid.withoutDevice :: (users rest).filter (fun user => user ≠ jid.withoutDevice)

/-- The text of 16 random bytes that mark themselves as random. -/
def sidText (bytes : List UInt8) : String :=
  let byte (i : Nat) : UInt8 := bytes.getD i 0
  let marked := (List.range 16).map fun i =>
    if i = 6 then (byte i &&& 0x0f) ||| 0x40
    else if i = 8 then (byte i &&& 0x3f) ||| 0x80
    else byte i
  let part (start len : Nat) : String := Hex.encode ((marked.drop start).take len)
  String.intercalate "-" [part 0 4, part 4 2, part 6 2, part 8 2, part 10 6]

/-- Asks for the devices of users and remembers every user of the answer. -/
def fetch (wanted : List Jid) : Act (Held DeviceCache ω) (List (Jid × List DeviceEntry)) := do
  let noise ← Held.inWorld (World.noiseBytes host 16)
  let answer ← Held.inWorld (World.query host (DeviceQuery.query wanted (sidText noise)))
  let fetched ← Act.ofExcept (DeviceQuery.parse answer)
  Held.setOwn ((← Held.getOwn).insertAll fetched)
  return fetched

def keep (credentials : Credentials) (ignoreZero : Bool) (d : DeviceEntry) : Except Error Bool :=
  if ignoreZero ∧ d.device = 0 then .ok false
  else d.toJid.map fun jid => !credentials.isOwnDevice jid

/-- The devices of users, our own one left out. What the cache does not give is asked for in one
query. -/
def resolve (credentials : Credentials) (jids : List Jid) (useCache ignoreZero : Bool) :
    Act (Held DeviceCache ω) (List DeviceEntry) := do
  let known ← if useCache then Held.getOwn else pure ∅
  let users := users jids
  let wanted := users.filter fun user => !known.contains user
  let fetched ← if wanted = [] then pure [] else fetch host wanted
  let resolved := known.insertAll fetched
  let devices := users.flatMap fun user => (resolved.find? user).getD []
  Act.ofExcept (devices.filterM (keep credentials ignoreZero))

end DeviceDirectory

end Fanout
