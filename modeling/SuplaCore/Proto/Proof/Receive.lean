import SuplaCore.Proto.Link
import SuplaCore.Proto.Proof.Framing

/-!
# Input framing does not depend on chunking

One chunk: the packets popped and what is left are those the framer drains from the bytes held
plus the chunk (`feed_fed`, `feed_stopped`). A whole run drains the stream (`receive_drains`), and
what a framer drains is determined by the stream, so two runs over the same stream agree
(`receive_chunking`). With memory at hand no chunk of at most `SRPC_BUFFER_SIZE` bytes is ever
refused (`receive_not_refused`), because a receiver that waits holds less than one packet.
-/

namespace Proto

open Bytes Framing

theorem look_fail_cases {xs : List UInt8} {e : SuplaResult} (h : look xs = .fail e) :
    e = .versionError ∨ e = .dataError := by
  unfold look at h
  repeat' split at h
  all_goals cases h
  all_goals simp

/-- A receiver that waits holds less than the largest packet. -/
theorem look_wait_length {xs : List UInt8} (h : look xs = .wait) :
    xs.length < sizeofTSuplaDataPacket + suplaTagSize := by
  unfold look at h
  repeat' split at h
  all_goals first | cases h; done | skip
  all_goals
    simp only [frameSizeAt, sizeofTSuplaDataPacket, headerSize, suplaTagSize, suplaMaxDataSize] at *
    omega

/-! ## One chunk -/

/-- The two ways the popping loop ends. -/
structure Popped (xs : List UInt8) (p : List PacketView × SuplaResult × Receiver) : Prop where
  inOk : InOk p.2.2.spd.inBuf
  ends : (p.2.1 = .false ∧ Drains framer xs p.1 (.ok p.2.2.spd.inBuf.content)) ∨
    ((p.2.1 = .versionError ∨ p.2.1 = .dataError) ∧ Drains framer xs p.1 (.error p.2.1))

theorem popAll_spec (rs : Nat → Realloc) : ∀ {fuel : Nat} {rcv : Receiver},
    InOk rcv.spd.inBuf → rcv.spd.inBuf.content.length < fuel →
      Popped rcv.spd.inBuf.content (popAll rs fuel rcv) := by
  intro fuel
  induction fuel with
  | zero => intro rcv _ h; omega
  | succ fuel ih =>
    intro rcv hi hf
    obtain ⟨hi', hs⟩ := @popInSdp_spec (rs fuel) _ rcv.sdp hi
    unfold popAll sprotoPopInSdp
    simp only
    unfold PopSpec at hs
    cases hl : look rcv.spd.inBuf.content with
    | wait =>
      simp only [hl] at hs
      rw [if_neg (by rw [hs.1]; nofun)]
      refine ⟨hi', .inl ⟨hs.1, ?_⟩⟩
      rw [hs.2.1]
      exact .wait hl
    | fail e =>
      simp only [hl] at hs
      have he := look_fail_cases hl
      rw [if_neg (by rw [hs.1]; rcases he with rfl | rfl <;> nofun)]
      refine ⟨hi', .inr ⟨?_, ?_⟩⟩
      · rw [hs.1]; exact he
      · rw [hs.1]; exact .fail hl
    | take p n =>
      simp only [hl] at hs
      obtain ⟨hres, hrest, hview⟩ := hs
      have hn := look_take_bounds hl
      rw [if_pos hres]
      have hp := @ih ⟨{ rcv.spd with inBuf := (popInSdp (rs fuel) rcv.spd.inBuf rcv.sdp).2.1 },
        (popInSdp (rs fuel) rcv.spd.inBuf rcv.sdp).2.2⟩ hi'
        (by rw [hrest, List.length_drop]; omega)
      simp only [hrest] at hp
      refine ⟨hp.inOk, hp.ends.imp ?_ ?_⟩
      · exact fun ⟨h1, h2⟩ => ⟨h1, hview ▸ .take hl h2⟩
      · exact fun ⟨h1, h2⟩ => ⟨h1, hview ▸ .take hl h2⟩

/-- Appending a chunk to the input. -/
theorem inBufferAppend_spec {r : Realloc} {spd : TSuplaProtoData} {bytes : List UInt8}
    (hi : InOk spd.inBuf) (hb : bytes.length < 2 ^ 31)
    (ha : (sprotoInBufferAppend r spd bytes).1 = .true) :
    InOk (sprotoInBufferAppend r spd bytes).2.inBuf ∧
      (sprotoInBufferAppend r spd bytes).2.inBuf.content = spd.inBuf.content ++ bytes := by
  unfold sprotoInBufferAppend at ha ⊢
  simp only at ha ⊢
  obtain ⟨hok, hc⟩ := append_true hi.ok hb (Nat.le_refl _) ha
  rw [List.take_length] at hc
  refine ⟨⟨hok, fun ht => ?_⟩, hc⟩
  obtain ⟨h5, htag⟩ := hi.tagged ht
  have hlen := hi.ok.length_content
  have hlen' := hok.length_content
  simp only [hc, List.length_append] at hlen' ⊢
  exact ⟨by omega, by rw [List.take_append_of_le_length (by omega), htag]⟩

section
variable {c : Chunk} {rcv : Receiver} (hi : InOk rcv.spd.inBuf) (hc : c.bytes.length < 2 ^ 31)
include hi hc

/-- The popping loop after a chunk that was appended. -/
theorem feed_popped (ha : (sprotoInBufferAppend c.append rcv.spd c.bytes).1 = .true) :
    ∃ p, Popped (rcv.spd.inBuf.content ++ c.bytes) p ∧ feed c rcv = (p.1,
      (if p.2.1 = .versionError ∨ p.2.1 = .dataError then .stopped p.2.1 else .fed), p.2.2) := by
  obtain ⟨hi', hcont⟩ := inBufferAppend_spec hi hc ha
  have hp := @popAll_spec c.pops
    ((sprotoInBufferAppend c.append rcv.spd c.bytes).2.inBuf.dataSize + 1)
    { rcv with spd := (sprotoInBufferAppend c.append rcv.spd c.bytes).2 } hi'
    (by rw [hi'.ok.length_content]; exact Nat.lt_succ_self _)
  simp only [hcont] at hp
  refine ⟨_, hp, ?_⟩
  rw [feed, if_pos ha]

/-- **A chunk that was worked off**: the framer drains it, and the receiver keeps the rest. -/
theorem feed_fed (h : (feed c rcv).2.1 = .fed) : InOk (feed c rcv).2.2.spd.inBuf ∧
    Drains framer (rcv.spd.inBuf.content ++ c.bytes) (feed c rcv).1
      (.ok (feed c rcv).2.2.spd.inBuf.content) := by
  by_cases ha : (sprotoInBufferAppend c.append rcv.spd c.bytes).1 = .true
  · obtain ⟨p, hp, he⟩ := feed_popped hi hc ha
    rw [he] at h ⊢
    simp only at h ⊢
    split at h
    · cases h
    rename_i hne
    rcases hp.ends with hd | hd
    · exact ⟨hp.inOk, hd.2⟩
    · exact absurd hd.1 hne
  · rw [feed, if_neg ha] at h
    cases h

/-- **A chunk that stopped the receiver**: the framer gives up on it. -/
theorem feed_stopped {e : SuplaResult} (h : (feed c rcv).2.1 = .stopped e) :
    Drains framer (rcv.spd.inBuf.content ++ c.bytes) (feed c rcv).1 (.error e) := by
  by_cases ha : (sprotoInBufferAppend c.append rcv.spd c.bytes).1 = .true
  · obtain ⟨p, hp, he⟩ := feed_popped hi hc ha
    rw [he] at h ⊢
    simp only at h ⊢
    split at h
    · rename_i hres
      cases h
      rcases hp.ends with hd | hd
      · exact absurd hres (by rw [hd.1]; simp)
      · exact hd.2
    · cases h
  · rw [feed, if_neg ha] at h
    cases h

end

/-! ## A stream of chunks -/

/-- **A whole run drains the stream**, up to the error that stopped it. -/
theorem receive_drains : ∀ {cs : List Chunk} {rcv : Receiver}, InOk rcv.spd.inBuf →
    (∀ c ∈ cs, c.bytes.length < 2 ^ 31) → framer.look rcv.spd.inBuf.content = .wait →
    (receive rcv cs).2 ≠ .refused →
      ((receive rcv cs).2 = .fed ∧ ∃ rest, Drains framer
        (rcv.spd.inBuf.content ++ cs.flatMap Chunk.bytes) (receive rcv cs).1 (.ok rest)) ∨
      ∃ e, (receive rcv cs).2 = .stopped e ∧ Drains framer
        (rcv.spd.inBuf.content ++ cs.flatMap Chunk.bytes) (receive rcv cs).1 (.error e) := by
  intro cs
  induction cs with
  | nil =>
    intro rcv _ _ hw _
    refine .inl ⟨rfl, rcv.spd.inBuf.content, ?_⟩
    rw [List.flatMap_nil, List.append_nil]
    exact .wait hw
  | cons c cs ih =>
    intro rcv hi hcs hw hr
    have hc := hcs c List.mem_cons_self
    rw [receive] at hr ⊢
    rw [List.flatMap_cons, ← List.append_assoc]
    by_cases hf : (feed c rcv).2.1 = .fed
    · rw [if_pos hf] at hr ⊢
      obtain ⟨hi', hd⟩ := feed_fed hi hc hf
      rcases ih hi' (fun c' h => hcs c' (List.mem_cons_of_mem _ h)) hd.look_rest hr with
        ⟨h1, rest, h2⟩ | ⟨e, h1, h2⟩
      · exact .inl ⟨h1, rest, hd.append h2⟩
      · exact .inr ⟨e, h1, hd.append h2⟩
    · rw [if_neg hf] at hr ⊢
      match ho : (feed c rcv).2.1 with
      | .fed => exact absurd ho hf
      | .refused => exact absurd ho hr
      | .stopped e => exact .inr ⟨e, rfl, (feed_stopped hi hc ho).error_append _⟩

/-- A chunk of at most `SRPC_BUFFER_SIZE` bytes fits what a waiting receiver holds. -/
theorem feed_not_refused {c : Chunk} {rcv : Receiver} (hi : InOk rcv.spd.inBuf)
    (hw : look rcv.spd.inBuf.content = .wait) (hc : c.bytes.length ≤ srpcBufferSize)
    (hr : c.append.ok = true ∧ c.append.enomem = false) : (feed c rcv).2.1 ≠ .refused := by
  have hl := look_wait_length hw
  rw [hi.ok.length_content] at hl
  simp only [sizeofTSuplaDataPacket, headerSize, suplaTagSize, suplaMaxDataSize,
    srpcBufferSize] at hl hc
  have ha : (sprotoInBufferAppend c.append rcv.spd c.bytes).1 = .true :=
    append_good hi.ok hr (by simp only [bufferMaxSize]; omega)
  rw [feed, if_pos ha]
  simp only
  split <;> nofun

/-- **With memory at hand no chunk is refused.** -/
theorem receive_not_refused : ∀ {cs : List Chunk} {rcv : Receiver}, InOk rcv.spd.inBuf →
    look rcv.spd.inBuf.content = .wait →
    (∀ c ∈ cs, c.bytes.length ≤ srpcBufferSize ∧ c.append.ok = true ∧ c.append.enomem = false) →
      (receive rcv cs).2 ≠ .refused := by
  intro cs
  induction cs with
  | nil => intro rcv _ _ _; nofun
  | cons c cs ih =>
    intro rcv hi hw hcs
    obtain ⟨hlen, hr⟩ := hcs c List.mem_cons_self
    rw [receive]
    by_cases hf : (feed c rcv).2.1 = .fed
    · rw [if_pos hf]
      obtain ⟨hi', hd⟩ := feed_fed hi (by simp only [srpcBufferSize] at hlen; omega) hf
      exact ih hi' hd.look_rest fun c' h => hcs c' (List.mem_cons_of_mem _ h)
    · rw [if_neg hf]
      exact feed_not_refused hi hw hlen hr

/-- **Framing is independent of chunking.** Two runs from `sproto_init` over the same stream, each
of which fed all of it or was stopped by an error, pop the same packets and end alike. -/
theorem receive_chunking (sdp sdp' : TSuplaDataPacket) (cs cs' : List Chunk)
    (hcs : ∀ c ∈ cs, c.bytes ≠ [] ∧ c.bytes.length ≤ srpcBufferSize)
    (hcs' : ∀ c ∈ cs', c.bytes ≠ [] ∧ c.bytes.length ≤ srpcBufferSize)
    (hsame : cs.flatMap Chunk.bytes = cs'.flatMap Chunk.bytes)
    (hfed : (receive (.init sdp) cs).2 ≠ .refused)
    (hfed' : (receive (.init sdp') cs').2 ≠ .refused) :
    receive (.init sdp) cs = receive (.init sdp') cs' := by
  have h31 : ∀ {cs : List Chunk}, (∀ c ∈ cs, c.bytes ≠ [] ∧ c.bytes.length ≤ srpcBufferSize) →
      ∀ c ∈ cs, c.bytes.length < 2 ^ 31 := fun h c hc => by
    have := (h c hc).2
    simp only [srpcBufferSize] at this
    omega
  have h := @receive_drains cs (.init sdp) inOk_init (h31 hcs) look_nil hfed
  have h' := @receive_drains cs' (.init sdp') inOk_init (h31 hcs') look_nil hfed'
  simp only [Receiver.init] at h h' ⊢
  rw [hsame] at h
  rcases h with ⟨h1, r, hd⟩ | ⟨e, h1, hd⟩ <;> rcases h' with ⟨h1', r', hd'⟩ | ⟨e', h1', hd'⟩
  · exact Prod.ext (hd.unique hd').1 (h1.trans h1'.symm)
  · cases (hd.unique hd').2
  · cases (hd.unique hd').2
  · obtain ⟨hps, he⟩ := hd.unique hd'
    cases he
    exact Prod.ext hps (h1.trans h1'.symm)

/-- A chunk handled with memory at hand. -/
def Chunk.ofBytes (bytes : List UInt8) : Chunk := ⟨bytes, .good, fun _ => .good⟩

/-- An empty packet whole, and cut inside its header. -/
theorem receive_chunking_cut :
    receive (.init .zero) [.ofBytes (sprotoTag ++ 28 :: List.replicate 12 0 ++ sprotoTag)] =
      receive (.init .zero) [.ofBytes (sprotoTag ++ [28]),
        .ofBytes (List.replicate 12 0 ++ sprotoTag)] := by
  refine receive_chunking .zero .zero _ _ ?_ ?_ (by decide) ?_ ?_
  · decide
  · decide
  · exact receive_not_refused inOk_init look_nil (by decide)
  · exact receive_not_refused inOk_init look_nil (by decide)

end Proto
