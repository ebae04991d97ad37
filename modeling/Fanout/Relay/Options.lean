import Fanout.Dict
import Fanout.Jid.Text

namespace Fanout

structure RelayOptions where
  /-- The id to use in place of a new one. -/
  messageId : Option String := none
  /-- The only device to deliver to. -/
  participant : Option Jid := none
  additionalAttributes : Dict String String := ∅
  useUserDevicesCache : Bool := true
  useCachedGroupMetadata : Bool := false
  /-- Who receives a status or broadcast-list post. -/
  statusJidList : List Jid := []
  /-- Shown on ciphertexts between devices unless it is zero. -/
  retryCount : UInt32 := 0
deriving DecidableEq, Inhabited

namespace RelayOptions

open Json

def toJson (o : RelayOptions) : Json :=
  .ofMembers (member? "messageId" (o.messageId.map ofString) ++
    member? "participant" (o.participant.map Jid.toJson) ++
    member? "additionalAttributes" (if o.additionalAttributes.isEmpty then none
      else some (.ofMembers (o.additionalAttributes.mapValues ofString).entries)) ++
    [("useUserDevicesCache", .bool o.useUserDevicesCache),
      ("useCachedGroupMetadata", .bool o.useCachedGroupMetadata)] ++
    member? "statusJidList" (if o.statusJidList = [] then none
      else some (.array (o.statusJidList.map Jid.toJson))) ++
    [("retryCount", .ofNat o.retryCount.toNat)])

def ofJson? (v : Json) : Option RelayOptions := do
  match ← v.fields ["messageId", "participant", "additionalAttributes", "useUserDevicesCache",
    "useCachedGroupMetadata", "statusJidList", "retryCount"] with
  | [messageId, participant, attributes, devicesCache, groupCache, statusJidList, retryCount] =>
    return {
      messageId := ← optional asString? messageId
      participant := ← optional Jid.ofJson? participant
      additionalAttributes := ← withDefault ∅ (asDict? asString?) attributes
      useUserDevicesCache := ← withDefault true asBool? devicesCache
      useCachedGroupMetadata := ← withDefault false asBool? groupCache
      statusJidList := ← withDefault [] (asList? Jid.ofJson?) statusJidList
      retryCount := ← withDefault 0 asUInt32? retryCount }
  | _ => none

end RelayOptions

end Fanout
