import SuplaCore.Proto.Proof.Receive

/-!
# Frames make the round trip

A packet built by `sproto_sdp_init` and `sproto_set_data` is well formed (`setData_sendable`) and
`sproto_out_buffer_append` adds exactly its frame to the output (`outBufferAppend_true`). The
invariant of the link (`LinkInv`): what was fed, what is on the wire and what the output buffer
still holds is the stream of frames, and the receiver has drained what it was fed. Hence a link
that has come to rest has delivered every packet (`link_roundTrip`).
-/

namespace Proto

open Bytes Framing Sys

/-! ## The sender -/

/-- A packet that its receiver accepts. -/
structure Sendable (sdp : TSuplaDataPacket) : Prop where
  tag : sdp.tag = sprotoTag
  version : ¬ badVersion sdp.version
  size : sdp.dataSize.toNat ≤ suplaMaxDataSize

theorem packetSize_eq {sdp : TSuplaDataPacket} (hs : sdp.dataSize.toNat ≤ suplaMaxDataSize) :
    add32 (sizeofTSuplaDataPacket - suplaMaxDataSize) sdp.dataSize.toNat =
      headerSize + sdp.dataSize.toNat := by
  simp only [suplaMaxDataSize] at hs
  rw [add32_of_lt (by simp; omega)]
  rfl

theorem bytes_length {sdp : TSuplaDataPacket} (hs : sdp.dataSize.toNat ≤ suplaMaxDataSize) :
    headerSize + sdp.dataSize.toNat ≤ sdp.bytes.length := by
  rw [TSuplaDataPacket.bytes, List.length_append, sdp.length_header, sdp.data_length]
  omega

/-- **`sproto_out_buffer_append`** adds the frame of the packet at the end of the output. -/
theorem outBufferAppend_true {r₁ r₂ : Realloc} {spd : TSuplaProtoData} {sdp : TSuplaDataPacket}
    (h : spd.outBuf.Ok) (hs : sdp.dataSize.toNat ≤ suplaMaxDataSize)
    (ha : (sprotoOutBufferAppend r₁ r₂ spd sdp).1 = .true) :
    (sprotoOutBufferAppend r₁ r₂ spd sdp).2.outBuf.Ok ∧
      (sprotoOutBufferAppend r₁ r₂ spd sdp).2.outBuf.content =
        spd.outBuf.content ++ sdp.frame := by
  have hsize := packetSize_eq hs
  have h31 : headerSize + sdp.dataSize.toNat < 2 ^ 31 := by
    simp only [suplaMaxDataSize, headerSize, suplaTagSize] at hs ⊢
    omega
  have htake : sdp.bytes.take (headerSize + sdp.dataSize.toNat) =
      sdp.header ++ sdp.data.take sdp.dataSize.toNat := by
    rw [TSuplaDataPacket.bytes, List.take_append, sdp.length_header,
      List.take_of_length_le (by rw [sdp.length_header]; omega), Nat.add_sub_cancel_left]
  unfold sprotoOutBufferAppend at ha ⊢
  simp only [hsize] at ha ⊢
  split at ha
  · cases ha
  rename_i hmax
  rw [if_neg hmax]
  split at ha
  · rename_i h1
    rw [if_pos h1]
    obtain ⟨hok, hc⟩ := append_true h h31 (bytes_length hs) h1
    obtain ⟨hok', hc'⟩ := append_true hok (by decide) (Nat.le_refl _) ha
    refine ⟨hok', hc'.trans ?_⟩
    rw [hc, htake, TSuplaDataPacket.frame]
    simp only [List.append_assoc]
    rfl
  · cases ha

/-- With memory at hand, a packet that stays below `BUFFER_MAX_SIZE` is appended. -/
theorem outBufferAppend_good {r₁ r₂ : Realloc} {spd : TSuplaProtoData} {sdp : TSuplaDataPacket}
    (h : spd.outBuf.Ok) (hs : sdp.dataSize.toNat ≤ suplaMaxDataSize)
    (h₁ : r₁.ok = true ∧ r₁.enomem = false) (h₂ : r₂.ok = true ∧ r₂.enomem = false)
    (hn : spd.outBuf.dataSize + sizeofTSuplaDataPacket + suplaTagSize < bufferMaxSize) :
    (sprotoOutBufferAppend r₁ r₂ spd sdp).1 = .true := by
  have hsize := packetSize_eq hs
  have hle : headerSize + sdp.dataSize.toNat ≤ sizeofTSuplaDataPacket := Nat.add_le_add_left hs _
  have ha := @append_good _ _ sdp.bytes (headerSize + sdp.dataSize.toNat) h h₁
    (by omega)
  obtain ⟨hok, hc⟩ := append_true h (by simp only [bufferMaxSize] at hn; omega)
    (bytes_length hs) ha
  have hl := hok.length_content
  rw [hc, List.length_append, List.length_take, h.length_content] at hl
  unfold sprotoOutBufferAppend
  simp only [hsize]
  rw [if_neg (Nat.not_lt.2 hle), if_pos ha]
  exact append_good hok h₂ (by omega)

/-- The output buffer aside, `sproto_out_buffer_append` changes nothing. -/
theorem outBufferAppend_frame (r₁ r₂ : Realloc) (spd : TSuplaProtoData)
    (sdp : TSuplaDataPacket) : (sprotoOutBufferAppend r₁ r₂ spd sdp).2 =
      { spd with outBuf := (sprotoOutBufferAppend r₁ r₂ spd sdp).2.outBuf } := by
  unfold sprotoOutBufferAppend
  simp only
  split
  · rfl
  · split <;> rfl

/-- **A packet built from an instance with a valid version is accepted by its receiver.** -/
theorem setData_sendable {spd : TSuplaProtoData} (hv : ¬ badVersion spd.version)
    {data : Option (List UInt8)} {size callId : UInt32}
    (h : (sprotoSetData (sprotoSdpInit spd).2 data size callId).1 = .true) :
    Sendable (sprotoSetData (sprotoSdpInit spd).2 data size callId).2 := by
  unfold sprotoSetData at h ⊢
  split at h
  · cases h
  rename_i hs
  rw [dif_neg hs]
  exact ⟨rfl, hv, Nat.le_of_not_lt fun hgt => hs (.inl hgt)⟩

theorem setVersion_valid (spd : TSuplaProtoData) (v : UInt8) :
    ¬ badVersion (sprotoSetVersion spd v).version := by
  unfold sprotoSetVersion badVersion
  split
  · rename_i h; simp only at h ⊢; omega
  · exact (by decide : ¬ badVersion (UInt8.ofNat suplaProtoVersion))

/-! ## The link -/

/-- The stream of frames, cut into what was fed to the receiver and drained by it (`fed`), what
is on the wire and what the output buffer holds. -/
structure LinkInv (s : Link) : Prop where
  out : s.snd.outBuf.Ok
  inb : InOk s.rcv.spd.inBuf
  version : ¬ badVersion s.snd.version
  running : s.stopped = none
  stream : ∃ (ps : List TSuplaDataPacket) (fed : List UInt8), (∀ p ∈ ps, Sendable p) ∧
    s.sent = ps.map TSuplaDataPacket.view ∧
    fed ++ s.wire ++ s.snd.outBuf.content = ps.flatMap TSuplaDataPacket.frame ∧
    Drains framer fed s.got (.ok s.rcv.spd.inBuf.content)

/-- All of the stream drains to the packets sent. -/
theorem frames_drain {ps : List TSuplaDataPacket} (h : ∀ p ∈ ps, Sendable p) :
    Drains framer (ps.flatMap TSuplaDataPacket.frame) (ps.map TSuplaDataPacket.view) (.ok []) :=
  .flatMap _ _ look_nil fun p hp => look_frame (h p hp).tag (h p hp).version (h p hp).size

theorem linkInv_init {s : Link} (h : link.init s) : LinkInv s := by
  obtain ⟨hsnd, hw, hrcv, hsent, hgot, hst⟩ := h
  have hz : (sprotoInit.outBuf).Ok := ⟨rfl, Nat.le_refl 0, by decide⟩
  refine ⟨hsnd ▸ hz, hrcv ▸ inOk_init, by rw [hsnd]; decide, hst, [], [], nofun, hsent, ?_, ?_⟩
  · rw [hw, hsnd]; rfl
  · rw [hgot, hrcv]; exact .wait look_nil

theorem pushStep_inv {s s' : Link} {r₁ r₂ : Realloc} {data : Option (List UInt8)}
    {callId : UInt32} (h : LinkInv s) (hs : pushStep r₁ r₂ data callId s = some s') :
    LinkInv s' := by
  unfold pushStep at hs
  simp only at hs
  split at hs
  · rename_i hc
    obtain ⟨-, hd, ho⟩ := hc
    cases hs
    have hsend := setData_sendable h.version hd
    obtain ⟨hok, hcont⟩ := @outBufferAppend_true _ _ (sprotoSdpInit s.snd).1 _ h.out
      hsend.size ho
    obtain ⟨ps, fed, hps, hsent, hstream, hdr⟩ := h.stream
    refine ⟨hok, h.inb, ?_, h.running, ps ++ [(sprotoSetData (sprotoSdpInit s.snd).2 data
      (UInt32.ofNat (data.getD []).length) callId).2], fed, ?_, ?_, ?_, hdr⟩
    · rw [outBufferAppend_frame]; exact h.version
    · intro p hp
      rcases List.mem_append.1 hp with hp | hp
      · exact hps p hp
      · rw [List.mem_singleton.1 hp]; exact hsend
    · simp only [hsent, List.map_append, List.map_cons, List.map_nil]
    · simp only
      rw [hcont, ← List.append_assoc, List.flatMap_append, List.flatMap_singleton]
      exact congrArg (· ++ _) hstream
  · cases hs

theorem drainStep_inv {s s' : Link} {r : Realloc} {n : Nat} (h : LinkInv s)
    (hs : drainStep r n s = some s') : LinkInv s' := by
  unfold drainStep at hs
  simp only at hs
  split at hs
  · cases hs
    obtain ⟨htake, hok, hdrop⟩ := popOutData_spec r h.out n
    obtain ⟨ps, fed, hps, hsent, hstream, hdr⟩ := h.stream
    refine ⟨hok, h.inb, ?_, h.running, ps, fed, hps, hsent, ?_, hdr⟩
    · rw [popOutData_frame]; exact h.version
    · rw [htake, hdrop, ← List.append_assoc, List.append_assoc (fed ++ s.wire),
        List.take_append_drop]
      exact hstream
  · cases hs

theorem feedStep_inv {s s' : Link} {k : Nat} {append : Realloc} {pops : Nat → Realloc}
    (h : LinkInv s) (hs : feedStep k append pops s = some s') : LinkInv s' := by
  unfold feedStep at hs
  simp only at hs
  split at hs
  · rename_i hc
    obtain ⟨-, hk, -, hr⟩ := hc
    cases hs
    obtain ⟨ps, fed, hps, hsent, hstream, hdr⟩ := h.stream
    have hlen : (Chunk.mk (s.wire.take k) append pops).bytes.length < 2 ^ 31 := by
      rw [List.length_take]; omega
    have hall := frames_drain hps
    rw [← hstream, ← List.take_append_drop k s.wire, ← List.append_assoc, List.append_assoc
      (fed ++ _)] at hall
    match ho : (feed ⟨s.wire.take k, append, pops⟩ s.rcv).2.1 with
    | .refused => exact absurd ho hr
    | .stopped e =>
      -- an error on a prefix of the frames would be one on the whole stream
      have hbad := (hdr.append (feed_stopped h.inb hlen ho)).error_append
        (s.wire.drop k ++ s.snd.outBuf.content)
      cases (hbad.unique hall).2
    | .fed =>
      obtain ⟨hi, hd⟩ := feed_fed h.inb hlen ho
      refine ⟨h.out, hi, h.version, rfl, ps, fed ++ s.wire.take k, hps, hsent, ?_, hdr.append hd⟩
      rw [List.append_assoc fed, List.take_append_drop]
      exact hstream
  · cases hs

theorem linkInv_step {s s' : Link} {a : LinkAct} (h : LinkInv s) (hs : link.step s a = some s') :
    LinkInv s' := by
  match a with
  | .setVersion v =>
    cases hs
    obtain ⟨ps, fed, hps, hsent, hstream, hdr⟩ := h.stream
    have hout : (sprotoSetVersion s.snd v).outBuf = s.snd.outBuf := by
      unfold sprotoSetVersion; split <;> rfl
    refine ⟨hout ▸ h.out, h.inb, setVersion_valid _ _, h.running, ps, fed, hps, hsent, ?_, hdr⟩
    rw [hout]; exact hstream
  | .push _ _ _ _ => exact pushStep_inv h hs
  | .drain _ _ => exact drainStep_inv h hs
  | .feed _ _ _ => exact feedStep_inv h hs

theorem link_inv {s : Link} (h : Reach link Any s) : LinkInv s :=
  h.invariant (fun _ => linkInv_init) fun _ hi hs => linkInv_step hi hs

/-- **The round trip.** However appends, drains and feeds were interleaved, once the output is
drained and the wire empty the receiver has popped the packets sent, in order and as they were
sent, without an error, and nothing is left in either buffer. -/
theorem link_roundTrip (s : Link) (h : Reach link Any s)
    (hout : sprotoOutDataexists s.snd = false) (hwire : s.wire = []) :
    s.got = s.sent ∧ s.stopped = none ∧ s.snd.outBuf.dataSize = 0 ∧
      s.rcv.spd.inBuf.dataSize = 0 := by
  have hi := link_inv h
  obtain ⟨ps, fed, hps, hsent, hstream, hdr⟩ := hi.stream
  have hz : s.snd.outBuf.dataSize = 0 := by
    simpa [sprotoOutDataexists] using hout
  have hnil : s.snd.outBuf.content = [] :=
    List.length_eq_zero_iff.1 (hi.out.length_content.trans hz)
  rw [hwire, hnil, List.append_nil, List.append_nil] at hstream
  obtain ⟨hgot, hrest⟩ := hdr.unique (hstream ▸ frames_drain hps)
  refine ⟨hgot.trans hsent.symm, hi.running, hz, ?_⟩
  rw [← hi.inb.ok.length_content, Except.ok.inj hrest]
  rfl

/-- With memory at hand a sendable packet can be pushed onto a small output. -/
theorem push_enabled {s : Link} (h : LinkInv s) {data : Option (List UInt8)} {callId : UInt32}
    (hlen : (data.getD []).length < 2 ^ 32)
    (hset : (sprotoSetData (sprotoSdpInit s.snd).2 data (UInt32.ofNat (data.getD []).length)
      callId).1 = .true)
    (hroom : s.snd.outBuf.dataSize + sizeofTSuplaDataPacket + suplaTagSize < bufferMaxSize) :
    ∃ s', link.step s (.push .good .good data callId) = some s' ∧
      s'.sent.length = s.sent.length + 1 ∧ s'.wire = s.wire ∧ s'.snd.outBuf.dataSize ≤
        s.snd.outBuf.dataSize + sizeofTSuplaDataPacket + suplaTagSize := by
  have hsend := setData_sendable h.version hset
  have happ := @outBufferAppend_good .good .good (sprotoSdpInit s.snd).1 _
    h.out hsend.size ⟨rfl, rfl⟩ ⟨rfl, rfl⟩ hroom
  obtain ⟨hok, hcont⟩ := @outBufferAppend_true _ _ (sprotoSdpInit s.snd).1 _ h.out hsend.size happ
  have hl := hok.length_content
  rw [hcont, List.length_append, length_frame hsend.size] at hl
  have hl₀ : (sprotoSdpInit s.snd).1.outBuf.content.length = s.snd.outBuf.dataSize :=
    h.out.length_content
  simp only [link, pushStep]
  rw [if_pos ⟨hlen, hset, happ⟩]
  refine ⟨_, rfl, by simp, rfl, ?_⟩
  have hs := hsend.size
  simp only [sizeofTSuplaDataPacket]
  omega

/-- With memory at hand an idle link delivers what the output buffer holds. -/
theorem link_settles {s : Link} (h : LinkInv s) (hw : s.wire = [])
    (hlen : s.snd.outBuf.dataSize ≤ srpcBufferSize) :
    ∃ s', link.run s [.drain .good srpcBufferSize,
        .feed srpcBufferSize .good fun _ => .good] = some s' ∧
      s'.wire = [] ∧ sprotoOutDataexists s'.snd = false ∧ s'.sent = s.sent := by
  obtain ⟨htake, hok, hdrop⟩ := popOutData_spec .good h.out srpcBufferSize
  obtain ⟨ps, fed, -, -, -, hdr⟩ := h.stream
  have hl := h.out.length_content
  have hz : (sprotoPopOutData .good s.snd srpcBufferSize).2.outBuf.dataSize = 0 := by
    rw [← hok.length_content, hdrop, List.length_drop]; omega
  have hfeed := feed_not_refused (c := ⟨(s.wire ++ (sprotoPopOutData .good s.snd
    srpcBufferSize).1).take srpcBufferSize, .good, fun _ => .good⟩) h.inb hdr.look_rest
    (by simp) ⟨rfl, rfl⟩
  simp only [Machine.run, link, drainStep, feedStep]
  rw [if_pos (by decide), Option.bind_some, if_pos ⟨by decide, by decide, h.running, hfeed⟩]
  refine ⟨_, rfl, ?_, ?_, rfl⟩
  · simp only [hw, htake, List.nil_append]
    exact List.drop_eq_nil_of_le (by rw [List.length_take]; omega)
  · simp only [sprotoOutDataexists, hz, Nat.lt_irrefl, decide_false]

/-- One packet sent, drained and fed. -/
theorem link_roundTrip_one : ∃ s, Reach link Any s ∧ s.sent.length = 1 ∧ s.got = s.sent ∧
    s.stopped = none ∧ s.snd.outBuf.dataSize = 0 ∧ s.rcv.spd.inBuf.dataSize = 0 := by
  have h₀ : Reach link Any ⟨sprotoInit, [], .init .zero, [], [], none⟩ :=
    .init ⟨rfl, rfl, rfl, rfl, rfl, rfl⟩
  obtain ⟨s₁, hs₁, hn, hw₁, hsize⟩ := @push_enabled _ (link_inv h₀) none 40
    (by decide) (by rw [sprotoSetData, dif_neg (by decide)]) (by decide)
  have h₁ := h₀.step trivial hs₁
  obtain ⟨s₂, hs₂, hw₂, hout, hsent⟩ := link_settles (link_inv h₁) hw₁
    (Nat.le_trans hsize (by decide))
  exact ⟨s₂, h₁.run hs₂, by rw [hsent, hn]; rfl, link_roundTrip s₂ (h₁.run hs₂) hout hw₂⟩

end Proto
