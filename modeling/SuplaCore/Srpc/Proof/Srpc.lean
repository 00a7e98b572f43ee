import SuplaCore.Proto.Proof.Link
import SuplaCore.Srpc.Proof.Queue
import SuplaCore.Srpc.Srpc

/-!
# The sections of `srpc_async__call` and `srpc_iterate`

What each section does to the queues and to the output: a call that returns non-zero appends its
packet to the out queue (`asyncCall_nonzero`), the first part of `srpc_iterate` leaves the output
alone (`iterateIn_out`), and the second part, given memory and an empty output buffer, offers
exactly the frame of the oldest queued packet to the transport (`iterateOut_cons`,
`iterateOut_nil`).
-/

namespace Srpc

open Bytes Proto TsrpcQueue

/-! ## Sending -/

/-- `sproto_sdp_init` never gives the number zero. -/
theorem sdpInit_rrId_ne_zero (proto : TSuplaProtoData) : (sprotoSdpInit proto).2.rrId ≠ 0 := by
  unfold sprotoSdpInit
  simp only
  split
  · rename_i h; rw [h]; decide
  · assumption

/-- A packet that was built keeps to the limits of the wire and has a number. -/
theorem buildPacket_true {proto : TSuplaProtoData} {a : CallArgs}
    (h : (buildPacket proto a).1 = .true) :
    (buildPacket proto a).2.2.dataSize.toNat ≤ suplaMaxDataSize ∧
      (buildPacket proto a).2.2.rrId ≠ 0 := by
  unfold buildPacket sprotoSetData at h ⊢
  simp only at h ⊢
  split at h
  · cases h
  rename_i hs
  rw [dif_neg hs]
  exact ⟨Nat.le_of_not_lt fun hgt => hs (.inl hgt), sdpInit_rrId_ne_zero proto⟩

section
variable {m : Option Nat} {srpc : Tsrpc} {a : CallArgs}

theorem asyncCall_inQueue : (srpcAsyncCall m srpc a).2.inQueue = srpc.inQueue := by
  unfold srpcAsyncCall
  simp only
  split
  · split <;> rfl
  · rfl

theorem asyncCall_proto :
    (srpcAsyncCall m srpc a).2.proto = (buildPacket srpc.proto a).2.1 := by
  unfold srpcAsyncCall
  simp only
  split
  · split <;> rfl
  · rfl

theorem asyncCall_outBuf : (srpcAsyncCall m srpc a).2.proto.outBuf = srpc.proto.outBuf := by
  rw [asyncCall_proto]; rfl

theorem asyncCall_sdp :
    (srpcAsyncCall m srpc a).2.sdp = (buildPacket srpc.proto a).2.2 := by
  unfold srpcAsyncCall
  simp only
  split
  · split <;> rfl
  · rfl

/-- **A call that returns non-zero** has queued its packet. -/
theorem asyncCall_nonzero (h : srpc.outQueue.Ok .server) (hr : (srpcAsyncCall m srpc a).1 ≠ 0) :
    (srpcAsyncCall m srpc a).2.outQueue.Ok .server ∧
      (srpcAsyncCall m srpc a).2.outQueue.packets =
        srpc.outQueue.packets ++ [(srpcAsyncCall m srpc a).2.sdp] ∧
      (srpcAsyncCall m srpc a).2.sdp.dataSize.toNat ≤ suplaMaxDataSize := by
  rw [asyncCall_sdp]
  unfold srpcAsyncCall at hr ⊢
  simp only at hr ⊢
  split at hr
  · rename_i hb
    rw [if_pos hb]
    split at hr
    · rename_i hq
      rw [if_pos hq]
      obtain ⟨hok, hp⟩ := push_true h hq
      exact ⟨hok, hp, (buildPacket_true hb).1⟩
    · exact absurd rfl hr
  · exact absurd rfl hr

/-- **A call that returns zero** has queued nothing. -/
theorem asyncCall_zero (hr : (srpcAsyncCall m srpc a).1 = 0) :
    (srpcAsyncCall m srpc a).2.outQueue = srpc.outQueue := by
  unfold srpcAsyncCall at hr ⊢
  simp only at hr ⊢
  split at hr
  · rename_i hb
    rw [if_pos hb]
    split at hr
    · exact absurd hr (buildPacket_true hb).2
    · rename_i hq
      rw [if_neg hq]
      exact push_not_true hq
  · rename_i hb
    rw [if_neg hb]

/-- With room and memory a call whose packet can be built returns its number. -/
theorem asyncCall_room {addr : Nat} (hb : (buildPacket srpc.proto a).1 = .true)
    (hr : srpc.outQueue.itemCount < QueueCfg.server.size) :
    (srpcAsyncCall (some addr) srpc a).1 = (buildPacket srpc.proto a).2.2.rrId := by
  unfold srpcAsyncCall
  simp only
  rw [if_pos hb, if_pos (push_room hr)]

end

/-! ## Receiving -/

section
variable {e : InEnv} {srpc : Tsrpc}

/-- Popping a packet leaves the output alone. -/
theorem popIn_out : (srpcPopIn e srpc).2.proto.outBuf = srpc.proto.outBuf ∧
    (srpcPopIn e srpc).2.outQueue = srpc.outQueue := by
  unfold srpcPopIn
  simp only
  split
  · split <;> exact ⟨rfl, rfl⟩
  · split <;> exact ⟨rfl, rfl⟩

/-- **The first part of `srpc_iterate` leaves the output alone.** -/
theorem iterateIn_out : (srpcIterateIn e srpc).2.proto.outBuf = srpc.proto.outBuf ∧
    (srpcIterateIn e srpc).2.outQueue = srpc.outQueue := by
  unfold srpcIterateIn
  split
  · exact ⟨rfl, rfl⟩
  · exact popIn_out
  · simp only
    split
    · exact popIn_out
    · exact ⟨rfl, rfl⟩

/-- A packet received is in the scratch packet and last in the in queue; otherwise the in queue
is as it was. -/
theorem popIn_in (h : srpc.inQueue.Ok .server) : (srpcPopIn e srpc).2.inQueue.Ok .server ∧
    ((srpcPopIn e srpc).1 = .received → (srpcPopIn e srpc).2.inQueue.packets =
      srpc.inQueue.packets ++ [(srpcPopIn e srpc).2.sdp]) ∧
    ((srpcPopIn e srpc).1 ≠ .received → (srpcPopIn e srpc).2.inQueue = srpc.inQueue) := by
  unfold srpcPopIn
  simp only
  split
  · split
    · rename_i hq
      obtain ⟨hok, hp⟩ := push_true h hq
      exact ⟨hok, fun _ => hp, fun hn => absurd rfl hn⟩
    · rename_i hq
      have he := push_not_true hq
      exact ⟨by rw [he]; exact h, nofun, fun _ => he⟩
  · split <;> exact ⟨h, nofun, fun _ => rfl⟩

/-- **What the first part of `srpc_iterate` does to the in queue.** -/
theorem iterateIn_in (h : srpc.inQueue.Ok .server) :
    (srpcIterateIn e srpc).2.inQueue.Ok .server ∧
    ((srpcIterateIn e srpc).1 = .received → (srpcIterateIn e srpc).2.inQueue.packets =
      srpc.inQueue.packets ++ [(srpcIterateIn e srpc).2.sdp]) ∧
    ((srpcIterateIn e srpc).1 ≠ .received →
      (srpcIterateIn e srpc).2.inQueue = srpc.inQueue) := by
  unfold srpcIterateIn
  split
  · exact ⟨h, nofun, fun _ => rfl⟩
  · exact popIn_in h
  · simp only
    split
    · exact @popIn_in _ { srpc with proto := _ } h
    · exact ⟨h, nofun, fun _ => rfl⟩

end

/-! ## Writing -/

/-- Both appends of the output find memory. -/
structure OutEnv.Memory (e : OutEnv) : Prop where
  append₁ : e.append₁.ok = true ∧ e.append₁.enomem = false
  append₂ : e.append₂.ok = true ∧ e.append₂.enomem = false

/-- The output buffer between two sections. -/
structure OutEmpty (proto : TSuplaProtoData) : Prop where
  ok : proto.outBuf.Ok
  empty : proto.outBuf.content = []

section
variable {e : OutEnv} {srpc : Tsrpc}

theorem popOutData_all {proto : TSuplaProtoData} {xs : List UInt8} (r : Realloc)
    (h : proto.outBuf.Ok) (hc : proto.outBuf.content = xs) (hl : xs.length ≤ srpcBufferSize) :
    (sprotoPopOutData r proto srpcBufferSize).1 = xs ∧
      OutEmpty (sprotoPopOutData r proto srpcBufferSize).2 := by
  obtain ⟨htake, hok, hdrop⟩ := popOutData_spec r h srpcBufferSize
  rw [hc] at htake hdrop
  exact ⟨htake.trans (List.take_of_length_le hl), hok, hdrop.trans (List.drop_eq_nil_of_le hl)⟩

/-- **With a packet queued** the second part of `srpc_iterate` offers its frame. -/
theorem iterateOut_cons (hm : e.Memory) (ho : OutEmpty srpc.proto)
    (hq : srpc.outQueue.Ok .server) {p : TSuplaDataPacket} {ps : List TSuplaDataPacket}
    (hp : srpc.outQueue.packets = p :: ps) (hs : p.dataSize.toNat ≤ suplaMaxDataSize) :
    ∃ srpc', srpcIterateOut e srpc = some (p.frame, srpc') ∧ OutEmpty srpc'.proto ∧
      srpc'.outQueue.Ok .server ∧ srpc'.outQueue.packets = ps ∧
      srpc'.inQueue = srpc.inQueue ∧ srpc'.proto.inBuf = srpc.proto.inBuf := by
  obtain ⟨hpop, hok, hrest, hsdp⟩ := @pop_zero_cons _ _ srpc.sdp _ _ hq hp
  have hz : srpc.proto.outBuf.dataSize = 0 := by
    rw [← ho.ok.length_content, ho.empty]; rfl
  have happ := @outBufferAppend_good _ _ _ p ho.ok hs hm.append₁ hm.append₂
    (by rw [hz]; decide)
  obtain ⟨hbok, hcont⟩ := outBufferAppend_true ho.ok hs happ
  rw [ho.empty, List.nil_append] at hcont
  have hlen : p.frame.length ≤ srpcBufferSize := by
    rw [length_frame hs]
    simp only [headerSize, suplaTagSize, suplaMaxDataSize, srpcBufferSize] at hs ⊢
    omega
  obtain ⟨hoff, hempty⟩ := popOutData_all e.shrink hbok hcont hlen
  unfold srpcIterateOut srpcPopOut
  simp only [hsdp]
  rw [if_pos hpop, if_neg (by rw [happ]; simp)]
  refine ⟨_, congrArg some (Prod.ext hoff rfl), hempty, hok, hrest, rfl, ?_⟩
  simp only
  rw [popOutData_frame, outBufferAppend_frame]

/-- **With nothing queued** it offers nothing. -/
theorem iterateOut_nil (ho : OutEmpty srpc.proto) (hq : srpc.outQueue.Ok .server)
    (hp : srpc.outQueue.packets = []) :
    ∃ srpc', srpcIterateOut e srpc = some ([], srpc') ∧ OutEmpty srpc'.proto ∧
      srpc'.outQueue = srpc.outQueue ∧ srpc'.inQueue = srpc.inQueue := by
  obtain ⟨hpop, hsame⟩ := @pop_zero_nil _ _ srpc.sdp hq hp
  obtain ⟨hoff, hempty⟩ := popOutData_all e.shrink ho.ok ho.empty (Nat.zero_le _)
  unfold srpcIterateOut srpcPopOut
  simp only
  rw [if_neg hpop]
  exact ⟨_, congrArg some (Prod.ext hoff rfl), hempty, congrArg Prod.fst hsame, rfl⟩

end

end Srpc
