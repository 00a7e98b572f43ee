import SuplaCore.Srpc.Proof.Delivery

/-!
# What the callback is given

`srpc_iterate` reads the arguments of `on_remote_call_received` from the scratch packet after it
released the lock. If no other thread builds a packet in between (`quietWindow`), every callback
is given the packet that was just pushed, and its `srpc_getdata` decodes that packet
(`dispatch_agrees`); a call made in between puts its own number there (`dispatch_differs`).
-/

namespace Srpc

open Proto Sys TsrpcQueue

/-- No call builds its packet between `lck_unlock` and the reading of the arguments. -/
def quietWindow (s : Conn) : ConnAct → Prop
  | .send _ _ => s.pc ≠ .unlocked
  | _ => True

/-- What the callback was given, against the packet pushed last. -/
def Dispatched (s : Conn) (p : TSuplaDataPacket) : Prop :=
  match s.pc with
  | .callback rrId callId version => rrId = p.rrId ∧ callId = p.callId ∧ version = p.version
  | .handled heap result rd =>
    result = (decodePacket heap p).1 ∧ rd = ⟨p.callId, p.rrId, (decodePacket heap p).2⟩
  | _ => True

/-- The in queue and the scratch packet, by where the iterating thread is. -/
def InInv (s : Conn) : Prop :=
  s.srpc.inQueue.Ok .server ∧
  match s.pc with
  | .idle => s.srpc.inQueue.packets = []
  | .unlocked => s.pushed = some s.srpc.sdp ∧ s.srpc.inQueue.packets = [s.srpc.sdp]
  | .callback _ _ _ =>
    ∃ p, s.pushed = some p ∧ s.srpc.inQueue.packets = [p] ∧ Dispatched s p
  | .handled _ _ _ => ∃ p, s.pushed = some p ∧ s.srpc.inQueue.packets = [] ∧ Dispatched s p

/-- **`srpc_getdata` on a queue that holds just the packet asked for.** -/
theorem getdata_single {heap : Heap} {srpc : Tsrpc} {p : TSuplaDataPacket}
    (h : srpc.inQueue.Ok .server) (hp : srpc.inQueue.packets = [p]) :
    (srpcGetdata heap srpc p.rrId).1 = (decodePacket heap p).1 ∧
      (srpcGetdata heap srpc p.rrId).2.1 = ⟨p.callId, p.rrId, (decodePacket heap p).2⟩ ∧
      (srpcGetdata heap srpc p.rrId).2.2.inQueue.Ok .server ∧
      (srpcGetdata heap srpc p.rrId).2.2.inQueue.packets = [] := by
  have ht : (srpcQueuePop .server srpc.inQueue srpc.sdp p.rrId).1 = .true := by
    by_contra hn
    exact (pop_false h hn).1 p (by rw [hp]; exact List.mem_singleton_self p) (.inr rfl)
  obtain ⟨hok, l, q, r, heq, -, -, hrest, hsdp⟩ := pop_true h ht
  rw [hp] at heq
  obtain ⟨rfl, rfl, rfl⟩ : l = [] ∧ q = p ∧ r = [] := by
    match l, heq with
    | [], heq => simpa [eq_comm] using heq
    | _ :: _, heq => simp at heq
  unfold srpcGetdata
  simp only
  rw [if_pos ht]
  simp only [hsdp]
  exact ⟨trivial, trivial, hok, hrest⟩

/-- Steps of other threads that leave the in queue and the scratch packet alone. -/
theorem InInv.congr {s s' : Conn} (h : InInv s) (hq : s'.srpc.inQueue = s.srpc.inQueue)
    (hs : s.pc = .unlocked → s'.srpc.sdp = s.srpc.sdp) (hpc : s'.pc = s.pc)
    (hp : s'.pushed = s.pushed) : InInv s' := by
  unfold InInv Dispatched at h ⊢
  rw [hq, hpc, hp]
  cases he : s.pc with
  | unlocked => rw [he] at h; rw [hs he]; exact h
  | idle => rw [he] at h; exact h
  | callback _ _ _ => rw [he] at h; exact h
  | handled _ _ _ => rw [he] at h; exact h

theorem outStep_in {s : Conn} {e : OutEnv} (hok : s.srpc.inQueue.Ok .server)
    (hp : s.srpc.inQueue.packets = []) : InInv (Conn.outStep e s) := by
  have hq : ∀ {o srpc'}, srpcIterateOut e s.srpc = some (o, srpc') →
      srpc'.inQueue = s.srpc.inQueue := by
    intro o srpc' h
    unfold srpcIterateOut srpcPopOut at h
    simp only [Option.map_eq_some_iff, Prod.mk.injEq] at h
    obtain ⟨srpc₁, h₁, -, rfl⟩ := h
    split at h₁
    · split at h₁
      · cases h₁
      · cases h₁; rfl
    · cases h₁; rfl
  unfold Conn.outStep
  split
  · exact ⟨hok, hp⟩
  · rename_i ho
    have := hq ho
    exact ⟨by simp only [this]; exact hok, by simp only [this]; exact hp⟩

/-- **One step** of a run with a quiet window. -/
theorem inInv_step {s s' : Conn} {a : ConnAct} (hok : quietWindow s a) (h : InInv s)
    (hs : conn.step s a = some s') : InInv s' := by
  simp only [conn, Conn.step] at hs
  split at hs
  · cases hs
  split at hs
  · cases hs; exact h.congr rfl (fun _ => rfl) rfl rfl
  · split at hs
    · cases hs; exact h.congr rfl (fun _ => rfl) rfl rfl
    · cases hs
  · unfold Conn.sendStep at hs
    simp only at hs
    split at hs
    · cases hs
      exact h.congr asyncCall_inQueue (fun hpc => (hok hpc).elim) rfl rfl
    · cases hs
  · rename_i ein eout hpc
    split at hs
    · cases hs
      obtain ⟨hq, hp⟩ := h
      rw [hpc] at hp
      obtain ⟨hok', hrec, hnot⟩ := iterateIn_in (e := ein) hq
      unfold Conn.iterateStep
      simp only
      split
      · rename_i hr
        have he := hnot (by rw [hr]; intro h; cases h)
        exact ⟨hok', by simp only [hpc, he]; exact hp⟩
      · rename_i hr
        have he := hnot (by rw [hr]; intro h; cases h)
        exact outStep_in hok' (by simp only [he]; exact hp)
      · rename_i hr
        have he := hrec hr
        rw [show s.srpc.inQueue.packets = [] from hp, List.nil_append] at he
        exact ⟨hok', rfl, he⟩
    · cases hs
  · rename_i hpc
    cases hs
    obtain ⟨hq, hp⟩ := h
    rw [hpc] at hp
    exact ⟨hq, s.srpc.sdp, hp.1, hp.2, rfl, rfl, rfl⟩
  · rename_i heap rrId callId version hpc
    cases hs
    obtain ⟨hq, hp⟩ := h
    rw [hpc] at hp
    obtain ⟨p, hpush, hpk, hd⟩ := hp
    rw [Dispatched, hpc] at hd
    obtain ⟨rfl, -, -⟩ := hd
    obtain ⟨hres, hrd, hok', hnil⟩ := @getdata_single heap _ _ hq hpk
    exact ⟨hok', p, hpush, hnil, hres, hrd⟩
  · rename_i hpc
    cases hs
    obtain ⟨hq, hp⟩ := h
    rw [hpc] at hp
    obtain ⟨p, -, hnil, -⟩ := hp
    exact outStep_in hq hnil
  · cases hs

/-- **Dispatch agrees with the received packet.** In every run in which no call falls into the
window, a callback is given the `rr_id`, `call_id` and version of the packet that this
`srpc_iterate` pushed, and its `srpc_getdata` returns what that packet decodes to. -/
theorem dispatch_agrees (s : Conn) (h : Reach conn quietWindow s) :
    (∀ rrId callId version, s.pc = .callback rrId callId version → ∃ p, s.pushed = some p ∧
      rrId = p.rrId ∧ callId = p.callId ∧ version = p.version) ∧
    (∀ heap result rd, s.pc = .handled heap result rd → ∃ p, s.pushed = some p ∧
      result = (decodePacket heap p).1 ∧
      rd = ⟨p.callId, p.rrId, (decodePacket heap p).2⟩) := by
  have hi : InInv s := by
    refine h.invariant (fun s h0 => ?_) fun hok hi hs => inInv_step hok hi hs
    rw [show s = .start from h0]
    exact ⟨empty_ok (by decide), rfl⟩
  obtain ⟨-, hp⟩ := hi
  constructor
  · intro rrId callId version hpc
    rw [hpc] at hp
    obtain ⟨p, hpush, -, hd⟩ := hp
    rw [Dispatched, hpc] at hd
    exact ⟨p, hpush, hd⟩
  · intro heap result rd hpc
    rw [hpc] at hp
    obtain ⟨p, hpush, -, hd⟩ := hp
    rw [Dispatched, hpc] at hd
    exact ⟨p, hpush, hd⟩

/-! ## A call in the window -/

/-- A ping from the other end, with the number 7. -/
def remotePing : TSuplaDataPacket :=
  { TSuplaDataPacket.zero with
    tag := sprotoTag, version := 28, rrId := 7, callId := Call.dcsPingServer.id,
    tag_length := length_sprotoTag }

theorem remotePing_sendable : Sendable remotePing := ⟨rfl, by decide, by decide⟩

/-- The frame of that ping, read at once. -/
def pingIn : InEnv := ⟨.bytes remotePing.frame, .good, .good, some 1⟩

/-- A frame that arrives on an idle connection is pushed to the in queue. -/
theorem iterateIn_ping {srpc : Tsrpc} (h : InEmpty srpc.proto)
    (hq : srpc.inQueue.itemCount < QueueCfg.server.size) :
    (srpcIterateIn pingIn srpc).1 = .received ∧
      (srpcIterateIn pingIn srpc).2.sdp.view = remotePing.view ∧
      (srpcIterateIn pingIn srpc).2.proto.nextRrId = srpc.proto.nextRrId := by
  have hlen := length_frame remotePing_sendable.size
  have hz : srpc.proto.inBuf.dataSize = 0 := by
    rw [← h.ok.ok.length_content, h.empty]; rfl
  have happ : (sprotoInBufferAppend .good srpc.proto remotePing.frame).1 = .true :=
    append_good h.ok.ok ⟨rfl, rfl⟩ (by rw [hz, hlen]; decide)
  obtain ⟨hok, hcont⟩ := inBufferAppend_spec h.ok (by rw [hlen]; decide) happ
  rw [h.empty, List.nil_append] at hcont
  obtain ⟨-, hspec⟩ := @popInSdp_spec .good _ srpc.sdp hok
  rw [hcont, PopSpec, look_frame remotePing_sendable.tag remotePing_sendable.version
    remotePing_sendable.size] at hspec
  obtain ⟨hres, -, hview⟩ := hspec
  have hpush := @push_room .server srpc.inQueue 1
    (popInSdp .good (sprotoInBufferAppend .good srpc.proto remotePing.frame).2.inBuf
      srpc.sdp).2.2 hq
  unfold srpcIterateIn pingIn
  simp only
  rw [if_pos happ]
  simp only [srpcPopIn, sprotoPopInSdp, hres, hpush, if_true]
  exact ⟨trivial, hview, rfl⟩

/-- The connection after it received the ping, with a call waiting for the lock. -/
theorem received_reach : ∃ s, (∀ ok, (∀ s a, (∀ m args, a ≠ .send m args) → ok s a) →
    Reach conn ok s) ∧ s.failed = false ∧ s.pc = .unlocked ∧
    pingArgs.callId ∈ s.entered ∧ s.srpc.proto.nextRrId = 0 ∧
    s.pushed = some s.srpc.sdp ∧ s.srpc.sdp.view = remotePing.view := by
  obtain ⟨hrec, hview, hnext⟩ := @iterateIn_ping srpcInit quiet_start.inb (by decide)
  have hstep : conn.step { Conn.start with entered := [pingArgs.callId] }
      (.iterate pingIn (goodOut 0)) = some { Conn.start with
        entered := [pingArgs.callId]
        srpc := (srpcIterateIn pingIn srpcInit).2
        pc := .unlocked
        pushed := some (srpcIterateIn pingIn srpcInit).2.sdp } := by
    have hv : pingIn.valid = true := by
      simp only [InEnv.valid, pingIn, decide_eq_true_eq]
      have hlen := length_frame remotePing_sendable.size
      refine ⟨fun h => ?_, by rw [hlen]; decide⟩
      rw [h] at hlen
      cases hlen
    simp only [conn, Conn.step, Conn.start, hv, Conn.iterateStep, hrec]
    rfl
  have hnot : ∀ m args, ConnAct.enter pingArgs.callId ≠ .send m args := by
    intro m args h
    cases h
  have hnot' : ∀ m args, ConnAct.iterate pingIn (goodOut 0) ≠ .send m args := by
    intro m args h
    cases h
  refine ⟨_, fun ok hok => .step (a := .iterate pingIn (goodOut 0)) (.step (a := .enter
    pingArgs.callId) (.init rfl) (hok _ _ hnot) (by rfl)) (hok _ _ hnot') hstep, rfl, rfl,
    List.mem_cons_self, hnext, rfl, hview⟩

/-- Without a call in the window the callback and its `srpc_getdata` see that ping. -/
theorem dispatch_agrees_ping : ∃ s heap result rd p, Reach conn quietWindow s ∧
    s.pc = .handled heap result rd ∧ s.pushed = some p ∧ p.view = remotePing.view ∧
    rd.rrId = 7 := by
  obtain ⟨s, hreach, hf, hpc, -, -, hpush, hview⟩ := received_reach
  have h₁ := hreach quietWindow fun s a ha => by
    cases a with
    | send m args => exact absurd rfl (ha m args)
    | _ => trivial
  have h₂ : Reach conn quietWindow { s with
      pc := .callback s.srpc.sdp.rrId s.srpc.sdp.callId s.srpc.sdp.version } :=
    h₁.step (a := .readArgs) trivial (by simp only [conn, Conn.step, hf, hpc]; rfl)
  have hok : quietWindow { s with
      pc := .callback s.srpc.sdp.rrId s.srpc.sdp.callId s.srpc.sdp.version }
      (.getdata ⟨true, fun _ => 0⟩) := trivial
  have h₃ := h₂.step hok (by simp only [conn, Conn.step, hf]; rfl)
  obtain ⟨p, hp, -, hrd⟩ := (dispatch_agrees _ h₃).2 _ _ _ rfl
  have hps : p = s.srpc.sdp := Option.some.inj (hp.symm.trans hpush)
  refine ⟨_, _, _, _, p, h₃, rfl, hp, hps ▸ hview, ?_⟩
  rw [hrd, hps]
  exact congrArg PacketView.rrId hview

/-- **A call in the window**: the callback is given the number of the packet that another thread
built, not that of the packet received. -/
theorem dispatch_differs : ∃ s p, Reach conn Any s ∧ s.pushed = some p ∧
    ∃ rrId callId version, s.pc = .callback rrId callId version ∧ rrId ≠ p.rrId := by
  obtain ⟨s, hreach, hf, hpc, he, hnext, hpush, hview⟩ := received_reach
  have h₁ := hreach Any fun _ _ _ => trivial
  have h₂ := h₁.step (a := .send (some 1) pingArgs) trivial (by
    simp only [conn, Conn.step, hf, Conn.sendStep, Bool.false_eq_true, if_false]
    exact if_pos he)
  have h₃ := h₂.step (a := .readArgs) trivial (by
    simp only [conn, Conn.step, hpc]
    rfl)
  refine ⟨_, s.srpc.sdp, h₃, hpush, _, _, _, rfl, ?_⟩
  have hp : s.srpc.sdp.rrId = 7 := congrArg PacketView.rrId hview
  have hr : (buildPacket s.srpc.proto pingArgs).2.2.rrId = 1 := by
    unfold buildPacket sprotoSetData
    simp only
    rw [dif_neg (by decide)]
    simp [sprotoSdpInit, hnext]
  simp only [asyncCall_sdp, hp, hr]
  decide

end Srpc
