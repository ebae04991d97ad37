import Fanout.Devices.Directory
import Fanout.Groups.Directory
import Fanout.SenderKey.Memory
import Fanout.Session.Assertion

namespace Fanout

structure Directories (ω : Type) where
  devices : DeviceCache
  groups : GroupCache
  memory : SenderKeyMemory
  world : World ω

namespace Directories

variable {ω α : Type}

def inWorld (x : Act (World ω) α) : Act (Directories ω) α :=
  Act.zoom Directories.world (fun w d => { d with world := w }) x

def inDevices (x : Act (Held DeviceCache ω) α) : Act (Directories ω) α :=
  Act.zoom (fun d => ⟨d.devices, d.world⟩) (fun h d => { d with devices := h.own, world := h.world }) x

def inGroups (x : Act (Held GroupCache ω) α) : Act (Directories ω) α :=
  Act.zoom (fun d => ⟨d.groups, d.world⟩) (fun h d => { d with groups := h.own, world := h.world }) x

def inMemory (x : Act (Held SenderKeyMemory ω) α) : Act (Directories ω) α :=
  Act.zoom (fun d => ⟨d.memory, d.world⟩) (fun h d => { d with memory := h.own, world := h.world }) x

end Directories

end Fanout
