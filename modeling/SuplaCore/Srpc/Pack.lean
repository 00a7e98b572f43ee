import SuplaCore.Srpc.Getdata

/-!
# Packs of records (`srpc_set_pack`, `srpc_getpack`)

`srpc_set_pack` sends the header of a pack and of each item what is in use: the fields before the
caption and the caption up to its size; items with a larger caption than fits are left out. A pack
is the structure as it lies in memory. The decoder is repeated here with its accesses to the
received data and to the block it fills (`Access`).
-/

namespace Srpc

open Bytes Proto

/-! ## The types of packs -/

/-- The packs that are sent with `srpc_set_pack`. -/
inductive PackType where
  | location
  | channel
  | channelB
  | channelC
  | channelD
  | channelE
  | channelgroup
  | channelgroupB
  | scene
  | sceneState

namespace PackType

/-- The structure of the items and their number, as `srpc_set_pack` gets them. -/
def spec : PackType → PackSpec
  | location => ⟨.tscSuplaLocation, 20⟩
  | channel => ⟨.tscSuplaChannel, 20⟩
  | channelB => ⟨.tscSuplaChannelB, 20⟩
  | channelC => ⟨.tscSuplaChannelC, 20⟩
  | channelD => ⟨.tscSuplaChannelD, 20⟩
  | channelE => ⟨.tscSuplaChannelE, 20⟩
  | channelgroup => ⟨.tscSuplaChannelGroup, 20⟩
  | channelgroupB => ⟨.tscSuplaChannelGroupB, 20⟩
  | scene => ⟨.tscSuplaScene, 20⟩
  | sceneState => ⟨.tscSuplaSceneState, 20⟩

/-- The call it is sent with. -/
def call : PackType → Call
  | location => .scLocationpackUpdate
  | channel => .scChannelpackUpdate
  | channelB => .scChannelpackUpdateB
  | channelC => .scChannelpackUpdateC
  | channelD => .scChannelpackUpdateD
  | channelE => .scChannelpackUpdateE
  | channelgroup => .scChannelgroupPackUpdate
  | channelgroupB => .scChannelgroupPackUpdateB
  | scene => .scScenePackUpdate
  | sceneState => .scSceneStatePackUpdate

end PackType

/-! ## `srpc_set_pack` -/

namespace PackSpec

/-- `sizeof` the field with the size of the caption. -/
def captionWidth (p : PackSpec) : Nat := p.record.header.getLastD 0

/-- `get_caption_size` of the item at the start of a block. -/
def getCaptionSize (p : PackSpec) (item : List UInt8) : Nat :=
  readLE item (p.record.headerSize - p.captionWidth) p.captionWidth

/-- `get_item_ptr`. -/
def item (p : PackSpec) (pack : List UInt8) (a : Nat) : List UInt8 :=
  (pack.drop (headerSize + p.record.sizeof * a)).take p.record.sizeof

end PackSpec

namespace PackSpec

end PackSpec

end Srpc
