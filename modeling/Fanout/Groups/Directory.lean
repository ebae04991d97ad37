import Fanout.Groups.Metadata
import Fanout.Host

namespace Fanout

abbrev GroupCache := Dict Jid GroupMetadata

namespace GroupDirectory

variable {ω : Type} (host : Host ω)

def invalidate (cache : GroupCache) (group : Jid) : GroupCache := cache.erase group

def fetch (group : Jid) : Act (Held GroupCache ω) GroupMetadata := do
  let answer ← Held.inWorld (World.query host (GroupQuery.query group))
  let metadata ← Act.ofExcept (GroupQuery.parse answer)
  Held.setOwn ((← Held.getOwn).insert group metadata)
  return metadata

def metadata (group : Jid) (useCache : Bool) : Act (Held GroupCache ω) GroupMetadata := do
  match useCache, (← Held.getOwn).find? group with
  | true, some metadata => return metadata
  | _, _ => fetch host group

end GroupDirectory

end Fanout
