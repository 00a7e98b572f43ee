import SuplaCore.Srpc.Conn
import SuplaCore.Srpc.Proof.Srpc

/-!
# What the transport gets

`srpc_iterate` takes the bytes off the output buffer before it offers them to `data_write` and
does not look at its answer, and it drops a packet for which there was no memory. The bytes
accepted are a prefix of the frames of the accepted calls, in call order, in every run that never
accepts a byte after a `data_write` fell short and finds memory for the output
(`accepted_prefix`); a run that goes on after a short write loses a packet (`accepted_lost`).
-/

namespace Srpc

open Bytes Proto Sys TsrpcQueue

/-- The frames of the accepted calls, in call order. -/
def Conn.stream (s : Conn) : List UInt8 := s.calls.flatMap TSuplaDataPacket.frame

/-- The step writes nothing after a short write, and finds memory for what it writes. -/
def wholeWrites (s : Conn) : ConnAct → Prop
  | .iterate _ e | .resume e => e.Memory ∧ (s.short = true → e.written = 0)
  | _ => True

/-- Nothing is between the out queue and the transport, and as long as no write fell short, what
was accepted and what is queued are the stream. -/
structure OutInv (s : Conn) : Prop where
  queue : s.srpc.outQueue.Ok .server
  out : OutEmpty s.srpc.proto
  sizes : ∀ p ∈ s.srpc.outQueue.packets, p.dataSize.toNat ≤ suplaMaxDataSize
  pending : s.short = false →
    s.accepted ++ s.srpc.outQueue.packets.flatMap TSuplaDataPacket.frame = s.stream
  delivered : s.accepted <+: s.stream

theorem outInv_start : OutInv .start :=
  ⟨empty_ok (by decide), ⟨⟨rfl, Nat.le_refl 0, by decide⟩, rfl⟩, nofun, fun _ => rfl,
    List.nil_prefix⟩

/-- Steps that leave the output alone. -/
theorem OutInv.congr {s s' : Conn} (h : OutInv s) (hq : s'.srpc.outQueue = s.srpc.outQueue)
    (ho : s'.srpc.proto.outBuf = s.srpc.proto.outBuf) (hc : s'.calls = s.calls)
    (ha : s'.accepted = s.accepted) (hs : s'.short = s.short) : OutInv s' := by
  have hst : s'.stream = s.stream := by rw [Conn.stream, hc, Conn.stream]
  refine ⟨hq ▸ h.queue, ⟨ho ▸ h.out.ok, ho ▸ h.out.empty⟩, hq ▸ h.sizes, fun hsh => ?_, ?_⟩
  · rw [ha, hq, hst]; exact h.pending (hs ▸ hsh)
  · rw [ha, hst]; exact h.delivered

theorem sendStep_out {s s' : Conn} {m : Option Nat} {args : CallArgs} (h : OutInv s)
    (hs : Conn.sendStep m args s = some s') : OutInv s' := by
  unfold Conn.sendStep at hs
  simp only at hs
  split at hs
  · cases hs
    by_cases hz : (srpcAsyncCall m s.srpc args).1 = 0
    · exact h.congr (asyncCall_zero hz) asyncCall_outBuf (if_pos hz) rfl rfl
    · obtain ⟨hok, hp, hsz⟩ := asyncCall_nonzero h.queue hz
      have hst : (s.calls ++ [(srpcAsyncCall m s.srpc args).2.sdp]).flatMap
          TSuplaDataPacket.frame = s.stream ++ (srpcAsyncCall m s.srpc args).2.sdp.frame := by
        rw [List.flatMap_append, List.flatMap_singleton]; rfl
      have hout : OutEmpty (srpcAsyncCall m s.srpc args).2.proto :=
        ⟨by rw [asyncCall_outBuf]; exact h.out.ok, by rw [asyncCall_outBuf]; exact h.out.empty⟩
      refine ⟨hok, hout, ?_, ?_, ?_⟩
      · intro p hmem
        rw [hp] at hmem
        rcases List.mem_append.1 hmem with hmem | hmem
        · exact h.sizes p hmem
        · rw [List.mem_singleton.1 hmem]; exact hsz
      · intro hsh
        simp only [Conn.stream, if_neg hz]
        rw [hst, hp, List.flatMap_append, List.flatMap_singleton, ← List.append_assoc,
          h.pending hsh]
      · simp only [Conn.stream, if_neg hz]
        rw [hst]
        exact h.delivered.trans (List.prefix_append _ _)
  · cases hs

/-- **One write.** -/
theorem outStep_out {s : Conn} {e : OutEnv} (h : OutInv s) (hm : e.Memory)
    (hw : s.short = true → e.written = 0) : OutInv (Conn.outStep e s) := by
  unfold Conn.outStep
  match hp : s.srpc.outQueue.packets with
  | [] =>
    obtain ⟨srpc', he, hout, hq, -⟩ := iterateOut_nil (e := e) h.out h.queue hp
    rw [he]
    simp only [List.take_nil, List.append_nil, List.length_nil, Nat.not_lt_zero, decide_false,
      Bool.or_false]
    refine ⟨hq ▸ h.queue, hout, hq ▸ h.sizes, fun hsh => ?_, h.delivered⟩
    rw [hq]; exact h.pending hsh
  | p :: ps =>
    obtain ⟨srpc', he, hout, hok, hrest, -, -⟩ := iterateOut_cons hm h.out h.queue hp
      (h.sizes p (by rw [hp]; exact List.mem_cons_self))
    have hsz : ∀ x ∈ srpc'.outQueue.packets, x.dataSize.toNat ≤ suplaMaxDataSize := by
      intro x hx
      exact h.sizes x (by rw [hp]; exact List.mem_cons_of_mem _ (hrest ▸ hx))
    rw [he]
    simp only
    by_cases hsh : s.short = true
    · -- after a short write nothing more is accepted
      refine ⟨hok, hout, hsz, fun hf => ?_, ?_⟩
      · simp only [hsh, Bool.true_or] at hf; cases hf
      · simp only [hw hsh, List.take_zero, List.append_nil]; exact h.delivered
    · have hpend := h.pending (Bool.eq_false_iff.2 hsh)
      rw [hp, List.flatMap_cons] at hpend
      refine ⟨hok, hout, hsz, fun hf => ?_, ?_⟩
      · have hlen : p.frame.length ≤ e.written := by
          simpa [hsh] using hf
        simp only [hrest, List.take_of_length_le hlen, List.append_assoc]
        exact hpend
      · simp only [Conn.stream]
        rw [show s.calls.flatMap TSuplaDataPacket.frame = _ from hpend.symm]
        exact (List.prefix_append_right_inj _).2
          ((List.take_prefix _ _).trans (List.prefix_append _ _))

theorem iterateStep_out {s : Conn} {ein : InEnv} {e : OutEnv} (h : OutInv s) (hm : e.Memory)
    (hw : s.short = true → e.written = 0) : OutInv (Conn.iterateStep ein e s) := by
  obtain ⟨hout, hq⟩ := @iterateIn_out ein s.srpc
  unfold Conn.iterateStep
  simp only
  split
  · exact h.congr hq hout rfl rfl rfl
  · have h' : OutInv { s with srpc := (srpcIterateIn ein s.srpc).2 } :=
      h.congr hq hout rfl rfl rfl
    exact outStep_out h' hm hw
  · exact h.congr hq hout rfl rfl rfl

theorem getdata_out {heap : Heap} {srpc : Tsrpc} {rrId : UInt32} :
    (srpcGetdata heap srpc rrId).2.2.outQueue = srpc.outQueue ∧
      (srpcGetdata heap srpc rrId).2.2.proto = srpc.proto := by
  unfold srpcGetdata
  simp only
  split <;> exact ⟨rfl, rfl⟩

/-- **One step** of a run with whole writes. -/
theorem outInv_step {s s' : Conn} {a : ConnAct} (hok : wholeWrites s a) (h : OutInv s)
    (hs : conn.step s a = some s') : OutInv s' := by
  simp only [conn, Conn.step] at hs
  split at hs
  · cases hs
  split at hs
  · rename_i v
    cases hs
    have hv : (sprotoSetVersion s.srpc.proto v).outBuf = s.srpc.proto.outBuf := by
      unfold sprotoSetVersion; split <;> rfl
    exact h.congr rfl hv rfl rfl rfl
  · split at hs
    · cases hs; exact h.congr rfl rfl rfl rfl rfl
    · cases hs
  · exact sendStep_out h hs
  · split at hs
    · cases hs; exact iterateStep_out h hok.1 hok.2
    · cases hs
  · cases hs; exact h.congr rfl rfl rfl rfl rfl
  · cases hs
    exact h.congr getdata_out.1 (congrArg (·.outBuf) getdata_out.2) rfl rfl rfl
  · cases hs; exact outStep_out h hok.1 hok.2
  · cases hs

theorem outInv_reach {s : Conn} (h : Reach conn wholeWrites s) : OutInv s := by
  refine h.invariant (fun s h0 => ?_) fun hok hi hs => outInv_step hok hi hs
  rw [show s = .start from h0]
  exact outInv_start

/-- **No lost or reordered call.** In every run whose writes are whole, the bytes the transport
accepted are a prefix of the frames of the calls that returned non-zero, in call order. -/
theorem accepted_prefix (s : Conn) (h : Reach conn wholeWrites s) : s.accepted <+: s.stream :=
  (outInv_reach h).delivered

/-! ## A packet lost after a short write -/

/-- A ping without data. -/
def pingArgs : CallArgs := ⟨Call.dcsPingServer.id, none, 0, none⟩

/-- Nothing to read. -/
def quietIn : InEnv := ⟨.nothing, .good, .good, none⟩

/-- A write of at most `n` bytes. -/
def goodOut (n : Nat) : OutEnv := ⟨.good, .good, .good, n⟩

theorem goodOut_memory (n : Nat) : (goodOut n).Memory := ⟨⟨rfl, rfl⟩, ⟨rfl, rfl⟩⟩

/-- An empty input buffer. -/
structure InEmpty (proto : TSuplaProtoData) : Prop where
  ok : InOk proto.inBuf
  empty : proto.inBuf.content = []

/-- With nothing to read and nothing received there is no packet. -/
theorem iterateIn_quiet {srpc : Tsrpc} (h : InEmpty srpc.proto) :
    (srpcIterateIn quietIn srpc).1 = .noPacket ∧
      InEmpty (srpcIterateIn quietIn srpc).2.proto := by
  obtain ⟨hok, hspec⟩ := @popInSdp_spec .good _ srpc.sdp h.ok
  rw [h.empty] at hspec
  obtain ⟨hres, hcont, -⟩ := hspec
  simp only [srpcIterateIn, quietIn, srpcPopIn, sprotoPopInSdp, hres, reduceCtorEq, if_false,
    if_true, true_and]
  exact ⟨hok, hcont⟩

/-- A connection at rest. -/
structure Quiet (s : Conn) (ps : List TSuplaDataPacket) : Prop where
  running : s.failed = false
  idle : s.pc = .idle
  inb : InEmpty s.srpc.proto
  out : OutEmpty s.srpc.proto
  queue : s.srpc.outQueue.Ok .server
  packets : s.srpc.outQueue.packets = ps

/-- An iteration that receives nothing, with a packet queued. -/
theorem iterate_quiet {s : Conn} {p : TSuplaDataPacket} {ps : List TSuplaDataPacket} {n : Nat}
    (h : Quiet s (p :: ps)) (hs : p.dataSize.toNat ≤ suplaMaxDataSize) :
    ∃ s', conn.step s (.iterate quietIn (goodOut n)) = some s' ∧ Quiet s' ps ∧
      s'.calls = s.calls ∧ s'.accepted = s.accepted ++ p.frame.take n := by
  obtain ⟨hres, hin⟩ := iterateIn_quiet h.inb
  obtain ⟨hout, hque⟩ := @iterateIn_out quietIn s.srpc
  have ho' : OutEmpty (srpcIterateIn quietIn s.srpc).2.proto :=
    ⟨by rw [hout]; exact h.out.ok, by rw [hout]; exact h.out.empty⟩
  obtain ⟨srpc', he, hout', hok', hrest, -, hinb⟩ := iterateOut_cons (goodOut_memory n) ho'
    (by rw [hque]; exact h.queue) (by rw [hque]; exact h.packets) hs
  have hin' : InEmpty srpc'.proto := ⟨hinb ▸ hin.ok, hinb ▸ hin.empty⟩
  simp only [conn, Conn.step, h.running, h.idle, Conn.iterateStep, hres, Conn.outStep, he]
  exact ⟨_, rfl, ⟨rfl, rfl, hin', hout', hok', hrest⟩, rfl, rfl⟩

theorem pingPacket_true (proto : TSuplaProtoData) : (buildPacket proto pingArgs).1 = .true := by
  unfold buildPacket sprotoSetData
  simp only
  rw [dif_neg (by decide)]

/-- A ping call on a connection with room in its out queue. -/
theorem send_ping {s : Conn} {ps : List TSuplaDataPacket} (h : Quiet s ps)
    (he : pingArgs.callId ∈ s.entered) (hr : ps.length < QueueCfg.server.size) :
    ∃ s', conn.step s (.send (some 1) pingArgs) = some s' ∧
      Quiet s' (ps ++ [(buildPacket s.srpc.proto pingArgs).2.2]) ∧
      s'.entered = s.entered.erase pingArgs.callId ∧
      s'.srpc.proto = (buildPacket s.srpc.proto pingArgs).2.1 ∧
      s'.calls = s.calls ++ [(buildPacket s.srpc.proto pingArgs).2.2] ∧
      s'.accepted = s.accepted ∧ s'.short = s.short := by
  have hroom : s.srpc.outQueue.itemCount < QueueCfg.server.size := by
    rw [← h.queue.length_packets, h.packets]; exact hr
  have hb := pingPacket_true s.srpc.proto
  have hnz : (srpcAsyncCall (some 1) s.srpc pingArgs).1 ≠ 0 := by
    rw [asyncCall_room hb hroom]; exact (buildPacket_true hb).2
  obtain ⟨hok, hp, -⟩ := asyncCall_nonzero h.queue hnz
  rw [asyncCall_sdp, h.packets] at hp
  simp only [conn, Conn.step, h.running, Conn.sendStep, Bool.false_eq_true, if_false]
  rw [if_pos he, if_neg hnz, asyncCall_sdp]
  refine ⟨_, rfl, ⟨rfl, h.idle, ?_, ?_, hok, hp⟩, rfl, asyncCall_proto, rfl, rfl,
    rfl⟩
  · rw [asyncCall_proto]; exact ⟨h.inb.ok, h.inb.empty⟩
  · rw [asyncCall_proto]; exact ⟨h.out.ok, h.out.empty⟩

theorem quiet_start : Quiet .start [] :=
  ⟨rfl, rfl, ⟨inOk_init, rfl⟩, outInv_start.out, empty_ok (by decide), rfl⟩

/-- A ping written whole. -/
theorem accepted_prefix_ping : ∃ s, Reach conn wholeWrites s ∧ s.accepted ≠ [] ∧
    s.accepted <+: s.stream := by
  have h₁ : Reach conn wholeWrites { Conn.start with entered := [pingArgs.callId] } :=
    .step (a := .enter pingArgs.callId) (.init rfl) trivial (by rfl)
  have q₁ : Quiet { Conn.start with entered := [pingArgs.callId] } [] :=
    ⟨quiet_start.running, quiet_start.idle, quiet_start.inb, quiet_start.out,
      quiet_start.queue, quiet_start.packets⟩
  obtain ⟨s₂, hs₂, q₂, -, -, -, ha₂, hsh⟩ := send_ping q₁ List.mem_cons_self (by decide)
  obtain ⟨s₃, hs₃, -, -, ha₃⟩ := iterate_quiet (n := 23) q₂
    (buildPacket_true (pingPacket_true _)).1
  have hok : wholeWrites s₂ (.iterate quietIn (goodOut 23)) :=
    ⟨goodOut_memory 23, fun h => by rw [hsh] at h; cases h⟩
  have h₂ : Reach conn wholeWrites s₂ := .step h₁ (a := .send (some 1) pingArgs) trivial hs₂
  have h₃ := h₂.step hok hs₃
  refine ⟨s₃, h₃, ?_, accepted_prefix s₃ h₃⟩
  rw [ha₃, ha₂]
  intro h
  have hlen := congrArg List.length h
  simp only [Conn.start, List.nil_append, List.length_take, List.length_nil,
    length_frame (buildPacket_true (pingPacket_true _)).1] at hlen
  simp at hlen

/-- Frames of one length that are not equal are not prefixes of streams that start with one
another. -/
theorem frame_not_prefix {p q : TSuplaDataPacket} {rest : List UInt8}
    (hp : p.dataSize.toNat ≤ suplaMaxDataSize) (hq : q.dataSize.toNat ≤ suplaMaxDataSize)
    (hd : p.dataSize = q.dataSize) (hr : p.rrId ≠ q.rrId) : ¬ q.frame <+: p.frame ++ rest := by
  intro h
  have hlen : q.frame.length = p.frame.length := by rw [length_frame hp, length_frame hq, hd]
  have heq := (List.prefix_of_prefix_length_le h (List.prefix_append _ _)
    (Nat.le_of_eq hlen)).eq_of_length hlen
  have hview : p.view = q.view := by
    rw [← viewAt_frame p sprotoTag hp, ← viewAt_frame q sprotoTag hq]
    exact congrArg viewAt heq.symm
  exact hr (congrArg PacketView.rrId hview)

/-- **A packet lost**: two pings are queued, the transport takes nothing of the first and all of
the second. -/
theorem accepted_lost :
    ∃ s, Reach conn Any s ∧ s.failed = false ∧ ¬ s.accepted <+: s.stream := by
  have h₀ : Reach conn Any (.start) := .init rfl
  have h₂ : Reach conn Any { Conn.start with entered := [pingArgs.callId, pingArgs.callId] } :=
    @Reach.run _ _ _ _ h₀ [.enter pingArgs.callId, .enter pingArgs.callId] _ (by rfl)
  have q₂ : Quiet { Conn.start with entered := [pingArgs.callId, pingArgs.callId] } [] :=
    ⟨quiet_start.running, quiet_start.idle, quiet_start.inb, quiet_start.out,
      quiet_start.queue, quiet_start.packets⟩
  obtain ⟨s₃, hs₃, q₃, he₃, hp₃, hc₃, ha₃, -⟩ := send_ping q₂ List.mem_cons_self (by decide)
  obtain ⟨s₄, hs₄, q₄, -, -, hc₄, ha₄, -⟩ := send_ping q₃ (by rw [he₃]; decide) (by decide)
  rw [hp₃] at q₄ hc₄
  have hsize := fun proto => (buildPacket_true (pingPacket_true proto)).1
  obtain ⟨s₅, hs₅, q₅, hc₅, ha₅⟩ := iterate_quiet (n := 0) q₄ (hsize _)
  obtain ⟨s₆, hs₆, q₆, hc₆, ha₆⟩ := iterate_quiet (n := srpcBufferSize) q₅ (hsize _)
  have h₆ := (((h₂.step trivial hs₃).step trivial hs₄).step trivial hs₅).step trivial hs₆
  refine ⟨s₆, h₆, q₆.running, ?_⟩
  have hall : ∀ p : TSuplaDataPacket, p.dataSize.toNat ≤ suplaMaxDataSize →
      p.frame.take srpcBufferSize = p.frame := fun p hp => by
    refine List.take_of_length_le ?_
    rw [length_frame hp]
    simp only [headerSize, suplaTagSize, suplaMaxDataSize, srpcBufferSize] at hp ⊢
    omega
  have hstream : s₆.stream = s₃.stream ++ (buildPacket (buildPacket sprotoInit pingArgs).2.1
      pingArgs).2.2.frame := by
    rw [Conn.stream, hc₆, hc₅, hc₄, List.flatMap_append, List.flatMap_singleton]; rfl
  rw [hstream, Conn.stream, hc₃, ha₆, ha₅, ha₄, ha₃, List.take_zero, hall _ (hsize _)]
  refine frame_not_prefix (hsize _) (hsize _) rfl ?_
  decide

end Srpc
