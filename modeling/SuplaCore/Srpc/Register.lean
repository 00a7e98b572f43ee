import SuplaCore.Srpc.Getdata

/-!
# Registration of a device (`srpc_ds_async_registerdevice_f`, `_g` and `_in_chunks`)

A device with little memory registers without building the whole structure: the header is sent
with the size of the whole, and then the channels one after another as the callback returns them,
past the queue and the output buffer.
-/

namespace Srpc

open Bytes Proto

/-- The registrations that can be sent in chunks. -/
inductive RegisterDevice where
  | f
  | g

namespace RegisterDevice

def spec : RegisterDevice → VarStruct
  | f => .tdsSuplaRegisterDeviceF
  | g => .tdsSuplaRegisterDeviceG

def call : RegisterDevice → Call
  | f => .dsRegisterDeviceF
  | g => .dsRegisterDeviceG

end RegisterDevice

/-- `sizeof(TDS_SuplaRegisterDeviceHeader)`. -/
def sizeofRegisterDeviceHeader : Nat := 584

/-- `TDS_SuplaRegisterDeviceHeader`; both registrations begin with it. -/
structure RegisterDeviceHeader where
  bytes : List UInt8
  length_bytes : bytes.length = sizeofRegisterDeviceHeader

/-- `channel_count`, the last field. -/
def RegisterDeviceHeader.channelCount (header : RegisterDeviceHeader) : Nat :=
  readLE header.bytes 583 1

/-- `TDS_SuplaDeviceChannel_D` or `TDS_SuplaDeviceChannel_E`. -/
structure DeviceChannel (k : RegisterDevice) where
  bytes : List UInt8
  length_bytes : bytes.length = k.spec.item

/-- `srpc_ds_async_registerdevice_f` and `_g`; `m` is the answer of `malloc` in the queue. -/
def srpcDsAsyncRegisterdevice (k : RegisterDevice) (m : Option Nat) (srpc : Tsrpc)
    (registerdevice : List UInt8) : UInt32 × Tsrpc :=
  let size := k.spec.sizeof - k.spec.item * k.spec.max + k.spec.item * readLE registerdevice 583 1
  if size > k.spec.sizeof then (0, srpc)
  else if srpcCallAllowed srpc.proto k.call.id then
    srpcAsyncCall m srpc ⟨k.call.id, some registerdevice, .ofNat size, none⟩
  else (0, srpc)

/-- The channels that the callback returns, in the order of the loop. -/
def channelsOf {k : RegisterDevice} (getChannelData : Nat → Option (DeviceChannel k)) (n : Nat) :
    List (DeviceChannel k) :=
  (List.range n).filterMap getChannelData

/-- `srpc_ds_async_registerdevice_in_chunks` and `_g`: what it returns, the blocks it passes to
`data_write`, and the new state. -/
def srpcDsAsyncRegisterdeviceInChunks (k : RegisterDevice) (srpc : Tsrpc)
    (registerdevice : RegisterDeviceHeader) (getChannelData : Nat → Option (DeviceChannel k)) :
    UInt32 × List (List UInt8) × Tsrpc :=
  let fullSize := sizeofRegisterDeviceHeader + k.spec.item * registerdevice.channelCount
  if srpcCallAllowed srpc.proto k.call.id then
    let i := sprotoSdpInit srpc.proto
    let d := sprotoSetData i.2 (some registerdevice.bytes) (.ofNat sizeofRegisterDeviceHeader)
      k.call.id
    if d.1 = .true then
      let sdp := { d.2 with dataSize := .ofNat fullSize }
      -- a channel that is missing is passed over
      (sdp.rrId, sdp.bytes.take (headerSize + sizeofRegisterDeviceHeader) ::
        (channelsOf getChannelData registerdevice.channelCount).map DeviceChannel.bytes ++
          [sprotoTag], { srpc with proto := i.1, sdp := sdp })
    else (0, [], { srpc with proto := i.1, sdp := d.2 })
  else (0, [], srpc)

end Srpc
