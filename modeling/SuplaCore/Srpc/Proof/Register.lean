import SuplaCore.Proto.Proof.Framing
import SuplaCore.Srpc.Proof.Srpc
import SuplaCore.Srpc.Register

/-!
# Registering in chunks

The size in the header of the chunked registration is that of the header and of `channel_count`
channels. So what is written is a frame if the callback returns all the channels, and then it is
the frame of the buffered registration; it is none if the callback returns a null pointer
(`in_chunks_whole`).
-/

namespace Srpc

open Bytes Proto

variable {k : RegisterDevice} {srpc : Tsrpc} {header : RegisterDeviceHeader}
  {getChannelData : Nat → Option (DeviceChannel k)}

/-! ## Being a frame -/

/-- The peer takes the bytes as one packet, and decodes it where it has memory. -/
def Accepted (bytes : List UInt8) : Prop :=
  ∀ (r : Realloc) (inb : TSuplaProtoInBuffer) (sdp : TSuplaDataPacket), InOk inb →
    inb.content = bytes →
      (popInSdp r inb sdp).1 = .true ∧ (popInSdp r inb sdp).2.1.content = [] ∧
        ∀ h : Heap, h.ok = true → (decodePacket h (popInSdp r inb sdp).2.2).1 = .true

/-- What was written is one frame, and that of the buffered registration of the same channels. -/
structure Whole (k : RegisterDevice) (srpc : Tsrpc) (header : RegisterDeviceHeader)
    (getChannelData : Nat → Option (DeviceChannel k)) : Prop where
  declared : headerSize + (srpcDsAsyncRegisterdeviceInChunks k srpc header
      getChannelData).2.2.sdp.dataSize.toNat + suplaTagSize =
    (srpcDsAsyncRegisterdeviceInChunks k srpc header getChannelData).2.1.flatten.length
  accepted : Accepted
    (srpcDsAsyncRegisterdeviceInChunks k srpc header getChannelData).2.1.flatten
  same : ∀ (m : Option Nat) (registerdevice rest : List UInt8),
    registerdevice = header.bytes ++
      (((channelsOf getChannelData header.channelCount).map DeviceChannel.bytes).flatten ++ rest) →
    (srpcDsAsyncRegisterdeviceInChunks k srpc header getChannelData).2.1.flatten =
      (srpcDsAsyncRegisterdevice k m srpc registerdevice).2.sdp.frame

/-! ## The channels -/

theorem channelCount_lt (header : RegisterDeviceHeader) : header.channelCount < 256 :=
  readLE_lt header.bytes 583 1

theorem length_channels (channels : List (DeviceChannel k)) :
    (channels.map DeviceChannel.bytes).flatten.length = k.spec.item * channels.length := by
  induction channels with
  | nil => rfl
  | cons c channels ih =>
    rw [List.map_cons, List.flatten_cons, List.length_append, ih, c.length_bytes,
      List.length_cons, Nat.mul_succ, Nat.add_comm]

/-- All channels are there exactly when none is missing. -/
theorem length_channelsOf (n : Nat) : (channelsOf getChannelData n).length ≤ n ∧
    ((channelsOf getChannelData n).length = n ↔ ∀ i < n, getChannelData i ≠ none) := by
  induction n with
  | zero => exact ⟨Nat.le_refl 0, fun _ i hi => absurd hi (Nat.not_lt_zero i), fun _ => rfl⟩
  | succ n ih =>
    have hsucc : channelsOf getChannelData (n + 1) =
        channelsOf getChannelData n ++ (getChannelData n).toList := by
      rw [channelsOf, channelsOf, List.range_succ, List.filterMap_append]
      cases h : getChannelData n <;> simp [h]
    rw [hsucc, List.length_append]
    cases hlast : getChannelData n with
    | none =>
      refine ⟨by simp only [Option.toList_none, List.length_nil]; omega, fun hlen => ?_,
        fun hall => absurd hlast (hall n (Nat.lt_succ_self n))⟩
      simp only [Option.toList_none, List.length_nil] at hlen
      omega
    | some c =>
      simp only [Option.toList_some, List.length_singleton]
      refine ⟨by omega, fun hlen i hi => ?_, fun hall => ?_⟩
      · rcases Nat.lt_succ_iff_lt_or_eq.mp hi with hi | rfl
        · exact ih.2.mp (by omega) i hi
        · rw [hlast]
          exact Option.some_ne_none c
      · have hn := ih.2.mpr fun i hi => hall i (Nat.lt_succ_of_lt hi)
        omega

/-! ## The two packets -/

/-- `full_size`. -/
def fullSize (k : RegisterDevice) (header : RegisterDeviceHeader) : Nat :=
  sizeofRegisterDeviceHeader + k.spec.item * header.channelCount

theorem fullSize_le (k : RegisterDevice) (header : RegisterDeviceHeader) :
    fullSize k header ≤ suplaMaxDataSize := by
  have hitem : k.spec.item ≤ 36 := by cases k <;> decide
  have hcount := channelCount_lt header
  have hchannels := Nat.mul_le_mul hitem (Nat.le_of_lt hcount)
  simp only [fullSize, sizeofRegisterDeviceHeader, suplaMaxDataSize]
  omega

theorem toNat_fullSize (k : RegisterDevice) (header : RegisterDeviceHeader) :
    (UInt32.ofNat (fullSize k header)).toNat = fullSize k header := by
  have hle := fullSize_le k header
  rw [suplaMaxDataSize] at hle
  rw [UInt32.toNat_ofNat', Nat.mod_eq_of_lt (by omega)]

/-- The header of both packets. -/
def packetHeader (k : RegisterDevice) (srpc : Tsrpc) (header : RegisterDeviceHeader) : List UInt8 :=
  { (sprotoSdpInit srpc.proto).2 with
    callId := k.call.id, dataSize := .ofNat (fullSize k header) : TSuplaDataPacket }.header

/-- The header always fits. -/
theorem setHeader_fits (header : RegisterDeviceHeader) :
    ¬ ((UInt32.ofNat sizeofRegisterDeviceHeader).toNat > suplaMaxDataSize ∨
      (UInt32.ofNat sizeofRegisterDeviceHeader).toNat > 0 ∧ some header.bytes = none) := by
  rintro (h | ⟨-, h⟩)
  · exact absurd h (by decide)
  · cases h

/-- Only the version of the protocol can prevent the registration. -/
theorem inChunks_sent : (srpcDsAsyncRegisterdeviceInChunks k srpc header getChannelData).1 ≠ 0 ↔
    srpcCallAllowed srpc.proto k.call.id = true := by
  unfold srpcDsAsyncRegisterdeviceInChunks sprotoSetData
  simp only
  rw [dif_neg (setHeader_fits header)]
  constructor
  · intro h
    by_contra hnot
    exact h (by simp [hnot])
  · intro hallowed
    rw [if_pos hallowed]
    exact sdpInit_rrId_ne_zero srpc.proto

/-- **What is written in chunks**, with the size that its header declares. -/
theorem inChunks_spec (hallowed : srpcCallAllowed srpc.proto k.call.id = true) :
    (srpcDsAsyncRegisterdeviceInChunks k srpc header getChannelData).2.1.flatten =
        packetHeader k srpc header ++ (header.bytes ++
          (((channelsOf getChannelData header.channelCount).map DeviceChannel.bytes).flatten ++
            sprotoTag)) ∧
      (srpcDsAsyncRegisterdeviceInChunks k srpc header getChannelData).2.2.sdp.dataSize.toNat =
        fullSize k header := by
  have hcopy := @take_memcpy (sprotoSdpInit srpc.proto).2.data header.bytes 0
    sizeofRegisterDeviceHeader (Nat.le_of_eq header.length_bytes.symm) (Nat.zero_le _)
  rw [Nat.zero_add, List.take_zero, List.nil_append,
    List.take_of_length_le (Nat.le_of_eq header.length_bytes)] at hcopy
  unfold srpcDsAsyncRegisterdeviceInChunks sprotoSetData
  simp only [hallowed, if_true]
  rw [dif_neg (setHeader_fits header)]
  refine ⟨?_, toNat_fullSize k header⟩
  simp only [if_true, List.cons_append, List.flatten_cons, List.flatten_append, List.flatten_nil,
    List.append_nil, TSuplaDataPacket.bytes]
  have hfront : (packetHeader k srpc header ++ memcpy (sprotoSdpInit srpc.proto).2.data 0
      header.bytes sizeofRegisterDeviceHeader).take (headerSize + sizeofRegisterDeviceHeader) =
        packetHeader k srpc header ++ header.bytes := by
    have hlen : (packetHeader k srpc header).length = headerSize :=
      TSuplaDataPacket.length_header _
    rw [← hlen, List.take_length_add_append, hcopy]
  rw [← List.append_assoc (packetHeader k srpc header), ← hfront]
  rfl

/-- **The packet of the buffered registration.** -/
theorem registerdevice_spec (hallowed : srpcCallAllowed srpc.proto k.call.id = true)
    (hcount : header.channelCount ≤ k.spec.max) (m : Option Nat) {registerdevice rest : List UInt8}
    (hrd : registerdevice = header.bytes ++ rest) :
    (srpcDsAsyncRegisterdevice k m srpc registerdevice).2.sdp =
      (buildPacket srpc.proto
        ⟨k.call.id, some registerdevice, .ofNat (fullSize k header), none⟩).2.2 := by
  have hread : readLE registerdevice 583 1 = header.channelCount := by
    rw [hrd]
    exact readLE_append (by rw [header.length_bytes, sizeofRegisterDeviceHeader])
  have hsizeof : k.spec.sizeof - k.spec.item * k.spec.max = sizeofRegisterDeviceHeader := by
    cases k <;> decide
  have hle : k.spec.item * header.channelCount ≤ k.spec.item * k.spec.max :=
    Nat.mul_le_mul_left _ hcount
  have hfits : k.spec.item * k.spec.max ≤ k.spec.sizeof := Nat.le_add_left _ _
  unfold srpcDsAsyncRegisterdevice
  rw [hread]
  simp only [hsizeof]
  rw [if_neg (by omega), if_pos hallowed, asyncCall_sdp]
  rfl

/-- Its fields. -/
theorem buildPacket_register (k : RegisterDevice) (srpc : Tsrpc) (header : RegisterDeviceHeader)
    {registerdevice : List UInt8} (hlen : fullSize k header ≤ registerdevice.length)
    {p : TSuplaDataPacket} (hp : p = (buildPacket srpc.proto
      ⟨k.call.id, some registerdevice, .ofNat (fullSize k header), none⟩).2.2) :
    p.header = packetHeader k srpc header ∧ p.tag = sprotoTag ∧
      p.version = srpc.proto.version ∧ p.callId = k.call.id ∧
      p.dataSize.toNat = fullSize k header ∧
      p.data.take p.dataSize.toNat = registerdevice.take (fullSize k header) := by
  have hle := fullSize_le k header
  have hsize := toNat_fullSize k header
  have hset : ¬ ((UInt32.ofNat (fullSize k header)).toNat > suplaMaxDataSize ∨
      (UInt32.ofNat (fullSize k header)).toNat > 0 ∧ some registerdevice = none) := by
    rintro (h | ⟨-, h⟩)
    · omega
    · cases h
  have hcopy := @take_memcpy (sprotoSdpInit srpc.proto).2.data registerdevice 0 (fullSize k header)
    hlen (Nat.zero_le _)
  rw [Nat.zero_add, List.take_zero, List.nil_append] at hcopy
  subst hp
  unfold buildPacket sprotoSetData
  simp only
  rw [dif_neg hset]
  refine ⟨rfl, rfl, rfl, rfl, hsize, ?_⟩
  simp only [Option.getD_some, hsize]
  exact hcopy

/-! ## What the peer makes of it -/

theorem decode_register {k : RegisterDevice} {n : Nat} {sdp : TSuplaDataPacket} {h : Heap}
    (hok : h.ok = true) (hcall : sdp.callId = k.call.id) (hn : n ≤ k.spec.max)
    (hsize : sdp.dataSize.toNat = sizeofRegisterDeviceHeader + k.spec.item * n)
    (hcount : readLE sdp.data 583 1 = n) : (decodePacket h sdp).1 = .true := by
  have hvalid : k.spec.validSize sdp := by
    have hused : k.spec.used sdp.data = n := by
      have hfield : k.spec.used sdp.data = readLE sdp.data 583 1 + 0 := by cases k <;> rfl
      rw [hfield, hcount]
      rfl
    have hheader : k.spec.headerSize = sizeofRegisterDeviceHeader := by cases k <;> decide
    have hitem : k.spec.item ≤ 36 := by cases k <;> decide
    have hle : k.spec.item * n ≤ k.spec.item * k.spec.max := Nat.mul_le_mul_left _ hn
    have hsmall : (n : Int) * k.spec.item = (k.spec.item * n : Nat) := by
      rw [Nat.cast_mul, mul_comm]
    have hbound : k.spec.item * n ≤ 36 * 128 :=
      Nat.mul_le_mul hitem (hn.trans (by cases k <;> decide))
    rw [VarStruct.validSize, hused, VarStruct.sizeof, hheader, hsize, hsmall]
    refine ⟨by omega, by omega, by omega, ?_⟩
    omega
  have hdecode : k.call.decode = .sized k.spec .calloc := by cases k <;> rfl
  rw [decodePacket, hcall, Call.ofId_id]
  simp only [hdecode, decodeCall, hvalid, if_true, Heap.alloc, hok, fillBlock]

/-- The frame of the buffered registration is accepted. -/
theorem accepted_register (hv : ¬ badVersion srpc.proto.version)
    (hcount : header.channelCount ≤ k.spec.max) {registerdevice rest : List UInt8}
    (hrd : registerdevice = header.bytes ++ rest)
    (hlen : fullSize k header ≤ registerdevice.length) :
    Accepted (buildPacket srpc.proto
      ⟨k.call.id, some registerdevice, .ofNat (fullSize k header), none⟩).2.2.frame := by
  intro r inb sdp hin hcontent
  obtain ⟨p, hp⟩ : ∃ p, p = (buildPacket srpc.proto
    ⟨k.call.id, some registerdevice, .ofNat (fullSize k header), none⟩).2.2 := ⟨_, rfl⟩
  obtain ⟨-, htag, hversion, hcall, hsize, hdata⟩ := buildPacket_register k srpc header hlen hp
  have hlook := look_frame htag (hversion ▸ hv) (hsize ▸ fullSize_le k header)
  have hpop := (@popInSdp_spec r inb sdp hin).2
  rw [hcontent, ← hp, PopSpec, hlook] at hpop
  obtain ⟨htrue, hrest, hview⟩ := hpop
  refine ⟨htrue, hrest.trans List.drop_length, fun h hok => ?_⟩
  have hsize' : (popInSdp r inb sdp).2.2.dataSize = p.dataSize := congrArg PacketView.dataSize hview
  have hdata' : (popInSdp r inb sdp).2.2.data.take (popInSdp r inb sdp).2.2.dataSize.toNat =
      registerdevice.take (fullSize k header) := (congrArg PacketView.payload hview).trans hdata
  have hlong : 584 ≤ fullSize k header := Nat.le_add_right _ _
  refine decode_register hok ((congrArg PacketView.callId hview).trans hcall) hcount
    (hsize' ▸ hsize) ?_
  have hread : readLE (popInSdp r inb sdp).2.2.data 583 1 =
      readLE (registerdevice.take (fullSize k header)) 583 1 := by
    rw [← hdata', readLE_take (by rw [hsize', hsize]; exact hlong)]
  rw [hread, readLE_take hlong, hrd]
  exact readLE_append (by rw [header.length_bytes, sizeofRegisterDeviceHeader])

/-! ## The registration -/

/-- The size that the header declares is what is written exactly when no channel is missing. -/
theorem declared_iff (hallowed : srpcCallAllowed srpc.proto k.call.id = true) :
    headerSize + (srpcDsAsyncRegisterdeviceInChunks k srpc header
        getChannelData).2.2.sdp.dataSize.toNat + suplaTagSize =
      (srpcDsAsyncRegisterdeviceInChunks k srpc header getChannelData).2.1.flatten.length ↔
    ∀ i < header.channelCount, getChannelData i ≠ none := by
  obtain ⟨hbytes, hsize⟩ := @inChunks_spec k srpc header getChannelData hallowed
  obtain ⟨hle, hall⟩ := @length_channelsOf k getChannelData header.channelCount
  have hitem : 0 < k.spec.item := by cases k <;> decide
  have hlen : (packetHeader k srpc header).length = headerSize := TSuplaDataPacket.length_header _
  rw [hbytes, hsize, ← hall, List.length_append, List.length_append, List.length_append,
    length_channels, hlen, header.length_bytes, fullSize]
  have htag : sprotoTag.length = suplaTagSize := rfl
  rw [htag]
  constructor
  · intro h
    exact Nat.eq_of_mul_eq_mul_left hitem (by omega)
  · intro h
    rw [h]
    omega

/-- **The chunked registration** is the buffered one exactly if no channel is missing. -/
theorem in_chunks_whole (k : RegisterDevice) (srpc : Tsrpc)
    (hv : ¬ badVersion srpc.proto.version) (header : RegisterDeviceHeader)
    (hcount : header.channelCount ≤ k.spec.max)
    (getChannelData : Nat → Option (DeviceChannel k))
    (hsent : (srpcDsAsyncRegisterdeviceInChunks k srpc header getChannelData).1 ≠ 0) :
    Whole k srpc header getChannelData ↔
      ∀ i < header.channelCount, getChannelData i ≠ none := by
  have hallowed := inChunks_sent.mp hsent
  refine ⟨fun h => (declared_iff hallowed).mp h.declared, fun hall => ?_⟩
  have hfull := (@length_channelsOf k getChannelData header.channelCount).2.mpr hall
  have hchannels := length_channels (channelsOf getChannelData header.channelCount)
  rw [hfull] at hchannels
  have hbytes := (@inChunks_spec k srpc header getChannelData hallowed).1
  have hwhole : ∀ rest, fullSize k header ≤ (header.bytes ++
      (((channelsOf getChannelData header.channelCount).map DeviceChannel.bytes).flatten ++
        rest)).length := by
    intro rest
    rw [List.length_append, List.length_append, hchannels, header.length_bytes, fullSize]
    omega
  have hframe : ∀ rest, (srpcDsAsyncRegisterdeviceInChunks k srpc header
      getChannelData).2.1.flatten = (buildPacket srpc.proto ⟨k.call.id, some (header.bytes ++
        (((channelsOf getChannelData header.channelCount).map DeviceChannel.bytes).flatten ++
          rest)), .ofNat (fullSize k header), none⟩).2.2.frame := by
    intro rest
    obtain ⟨hheader, -, -, -, -, hdata⟩ :=
      buildPacket_register k srpc header (hwhole rest) rfl
    have htake : (header.bytes ++ (((channelsOf getChannelData header.channelCount).map
        DeviceChannel.bytes).flatten ++ rest)).take (fullSize k header) = header.bytes ++
          ((channelsOf getChannelData header.channelCount).map DeviceChannel.bytes).flatten := by
      rw [← List.append_assoc]
      refine List.take_left' ?_
      rw [List.length_append, hchannels, header.length_bytes, fullSize]
    rw [TSuplaDataPacket.frame, hheader, hdata, htake, hbytes]
    simp only [List.append_assoc]
  refine ⟨(declared_iff hallowed).mpr hall, ?_, ?_⟩
  · rw [hframe []]
    exact accepted_register hv hcount rfl (hwhole [])
  · intro m registerdevice rest hrd
    rw [registerdevice_spec hallowed hcount m hrd, hrd]
    exact hframe rest

/-- A registration with one channel. -/
def oneChannel : RegisterDeviceHeader where
  bytes := List.replicate 583 0 ++ [1]
  length_bytes := by
    rw [List.length_append, List.length_replicate]
    rfl

theorem oneChannel_count : oneChannel.channelCount = 1 := by
  rw [RegisterDeviceHeader.channelCount, readLE, oneChannel, List.drop_left' List.length_replicate]
  rfl

def blankChannel : DeviceChannel .f := ⟨List.replicate 35 0, List.length_replicate⟩

theorem in_chunks_whole_one : Whole .f srpcInit oneChannel fun _ => some blankChannel :=
  (in_chunks_whole .f srpcInit (by decide) oneChannel (by rw [oneChannel_count]; decide)
    (fun _ => some blankChannel) (inChunks_sent.mpr (by decide))).mpr fun _ _ h => by cases h

/-- **A missing channel** leaves the frame shorter than its header says. -/
theorem in_chunks_short :
    (srpcDsAsyncRegisterdeviceInChunks .f srpcInit oneChannel fun _ => none).1 ≠ 0 ∧
      ¬ Whole .f srpcInit oneChannel fun _ => none := by
  have hallowed : srpcCallAllowed srpcInit.proto (RegisterDevice.call .f).id = true := by decide
  refine ⟨inChunks_sent.mpr hallowed, fun h => ?_⟩
  have hall := (declared_iff hallowed).mp h.declared
  exact hall 0 (by rw [oneChannel_count]; decide) rfl

end Srpc
