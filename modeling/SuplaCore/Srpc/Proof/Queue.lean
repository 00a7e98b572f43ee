import SuplaCore.Srpc.Queue

/-!
# The packet queue as a list

`Ok`: the array has its size and the live slots are not null. The packets of the live slots
(`packets`) are a list: a push that returns `TRUE` appends (`push_true`), a pop takes out the
oldest packet it asks for and keeps the others in order (`pop_true`), and a pop that returns
`FALSE` found none (`pop_false`).
-/

namespace Srpc

open Proto

namespace TsrpcQueue

/-- The blocks of the live slots. -/
def blocks (q : TsrpcQueue) : List Block := (q.item.take q.itemCount).filterMap id

/-- The packets in the queue, oldest first. -/
def packets (q : TsrpcQueue) : List TSuplaDataPacket := q.blocks.map Block.sdp

structure Ok (cfg : QueueCfg) (q : TsrpcQueue) : Prop where
  slots : q.item.length = cfg.size
  count : q.itemCount ≤ cfg.size
  byte : cfg.size < 256
  live : q.item.take q.itemCount = q.blocks.map some

theorem blocks_eq {q : TsrpcQueue} {bs : List Block}
    (h : q.item.take q.itemCount = bs.map some) : q.blocks = bs := by
  rw [blocks, h, List.filterMap_map]
  exact List.filterMap_some

theorem Ok.of_blocks {cfg : QueueCfg} {q : TsrpcQueue} {bs : List Block}
    (hs : q.item.length = cfg.size) (hc : q.itemCount ≤ cfg.size) (hb : cfg.size < 256)
    (hl : q.item.take q.itemCount = bs.map some) : q.Ok cfg :=
  ⟨hs, hc, hb, by rw [blocks_eq hl, hl]⟩

theorem empty_ok {cfg : QueueCfg} (hb : cfg.size < 256) : (empty cfg).Ok cfg :=
  @Ok.of_blocks _ _ [] (by simp [empty]) (Nat.zero_le _) hb rfl

@[simp] theorem packets_empty (cfg : QueueCfg) : (empty cfg).packets = [] := rfl

theorem Ok.length_blocks {cfg : QueueCfg} {q : TsrpcQueue} (h : q.Ok cfg) :
    q.blocks.length = q.itemCount := by
  have hl := congrArg List.length h.live
  rw [List.length_take, List.length_map, h.slots, Nat.min_eq_left h.count] at hl
  exact hl.symm

theorem Ok.length_packets {cfg : QueueCfg} {q : TsrpcQueue} (h : q.Ok cfg) :
    q.packets.length = q.itemCount := by
  rw [packets, List.length_map, h.length_blocks]

end TsrpcQueue

open TsrpcQueue

variable {cfg : QueueCfg} {q : TsrpcQueue}

/-! ## Push -/

/-- **A push that returns `TRUE`** appends the packet. -/
theorem push_true {m : Option Nat} {sdp : TSuplaDataPacket} (h : q.Ok cfg)
    (hp : (srpcQueuePush cfg m q sdp).1 = .true) :
    (srpcQueuePush cfg m q sdp).2.Ok cfg ∧
      (srpcQueuePush cfg m q sdp).2.packets = q.packets ++ [sdp] := by
  have hs := h.slots
  have hb := h.byte
  unfold srpcQueuePush at hp ⊢
  simp only at hp ⊢
  split at hp
  · cases hp
  rename_i hfull
  rw [if_neg hfull]
  split at hp
  · cases hp
  rename_i addr haddr
  have hlive : (q.item.set q.itemCount (some ⟨addr, sdp⟩)).take ((q.itemCount + 1) % 256) =
      (q.blocks ++ [Block.mk addr sdp]).map some := by
    rw [Nat.mod_eq_of_lt (by omega), List.map_append, ← h.live, List.take_add_one,
      List.take_set_of_le (Nat.le_refl _), List.getElem?_set_self (by omega)]
    rfl
  have hcount : (q.itemCount + 1) % 256 ≤ cfg.size := by
    rw [Nat.mod_eq_of_lt (by omega)]; omega
  refine ⟨.of_blocks (by simpa using hs) hcount hb hlive, ?_⟩
  rw [packets, blocks_eq hlive, List.map_append]
  rfl

/-- A push that does not return `TRUE` changes nothing. -/
theorem push_not_true {m : Option Nat} {sdp : TSuplaDataPacket}
    (hp : (srpcQueuePush cfg m q sdp).1 ≠ .true) : (srpcQueuePush cfg m q sdp).2 = q := by
  unfold srpcQueuePush at hp ⊢
  simp only at hp ⊢
  split at hp
  · rename_i hfull; rw [if_pos hfull]
  rename_i hfull
  rw [if_neg hfull]
  split at hp
  · rfl
  · exact absurd rfl hp

/-- There is room and memory: the push returns `TRUE`. -/
theorem push_room {addr : Nat} {sdp : TSuplaDataPacket} (hr : q.itemCount < cfg.size) :
    (srpcQueuePush cfg (some addr) q sdp).1 = .true := by
  unfold srpcQueuePush
  simp only
  rw [if_neg (Nat.not_le.2 hr)]
  cases q.slot q.itemCount <;> rfl

/-! ## Pop -/

/-- What a pop asks for. -/
def wanted (rrId : UInt32) (sdp : TSuplaDataPacket) : Prop := rrId = 0 ∨ sdp.rrId = rrId

theorem rrIdMatches_some (rrId : UInt32) (b : Block) :
    rrIdMatches rrId (some b) = true ↔ wanted rrId b.sdp := by
  simp [rrIdMatches, wanted]

/-- What taking slot `a` out makes of the slots. -/
theorem take_item {a : Nat} {l r : List Block} {b : Block} (h : q.Ok cfg)
    (hb : q.blocks = l ++ b :: r) (ha : a = l.length) :
    q.item = l.map some ++ (some b :: (r.map some ++ q.item.drop q.itemCount)) ∧
      q.slot a = some b ∧
      (srpcQueueTake cfg q a).item = l.map some ++ (r.map some ++
        (if q.allocCount > cfg.minAlloc then none else some b) :: q.item.drop q.itemCount) := by
  have hlen := h.length_blocks
  rw [hb, List.length_append, List.length_cons] at hlen
  have hsplit : q.item = l.map some ++ (some b :: (r.map some ++ q.item.drop q.itemCount)) := by
    conv_lhs => rw [← List.take_append_drop q.itemCount q.item, h.live, hb]
    simp
  have htake : q.item.take a = l.map some := by
    rw [hsplit, ha, List.take_left' (by simp)]
  have hdrop : (q.item.drop (a + 1)).take (q.itemCount - 1 - a) = r.map some := by
    rw [hsplit, ha, ← List.drop_drop, List.drop_left' (by simp), List.drop_one, List.tail_cons,
      List.take_left' (by simp; omega)]
  have hslot : q.slot a = some b := by
    rw [slot, hsplit, ha, List.getD_eq_getElem?_getD, List.getElem?_append_right (by simp)]
    simp
  refine ⟨hsplit, hslot, ?_⟩
  simp only [srpcQueueTake, htake, hdrop, hslot, List.append_assoc]

theorem take_blocks {a : Nat} {l r : List Block} {b : Block} (h : q.Ok cfg)
    (hb : q.blocks = l ++ b :: r) (ha : a = l.length) :
    (srpcQueueTake cfg q a).Ok cfg ∧ (srpcQueueTake cfg q a).blocks = l ++ r := by
  have hs := h.slots
  have hc := h.count
  have hlen := h.length_blocks
  rw [hb, List.length_append, List.length_cons] at hlen
  have hitem := (take_item h hb ha).2.2
  have hcount : (srpcQueueTake cfg q a).itemCount = q.itemCount - 1 := rfl
  have hlive : (srpcQueueTake cfg q a).item.take (srpcQueueTake cfg q a).itemCount =
      (l ++ r).map some := by
    rw [hitem, hcount, List.map_append, ← List.append_assoc]
    exact List.take_left' (by simp; omega)
  refine ⟨.of_blocks ?_ ?_ h.byte hlive, blocks_eq hlive⟩
  · simp only [hitem, List.length_append, List.length_map, List.length_cons, List.length_drop]
    omega
  · rw [hcount]
    omega

/-- A pop that returns `TRUE` takes out the first block that it asks for. -/
theorem pop_take {sdp : TSuplaDataPacket} {rrId : UInt32} (h : q.Ok cfg)
    (hp : (srpcQueuePop cfg q sdp rrId).1 = .true) : ∃ l b r, q.blocks = l ++ b :: r ∧
      (∀ x ∈ l, ¬ wanted rrId x.sdp) ∧ wanted rrId b.sdp ∧
      (srpcQueuePop cfg q sdp rrId).2 = (srpcQueueTake cfg q l.length, b.sdp) := by
  unfold srpcQueuePop at hp ⊢
  cases hf : (q.item.take q.itemCount).findIdx? (rrIdMatches rrId) with
  | none => simp only [hf] at hp; cases hp
  | some a =>
    simp only
    rw [h.live, List.findIdx?_map, List.findIdx?_eq_some_iff_getElem] at hf
    obtain ⟨ha, hm, hbefore⟩ := hf
    have hsplit : q.blocks = q.blocks.take a ++ q.blocks[a] :: q.blocks.drop (a + 1) := by
      rw [← List.drop_eq_getElem_cons ha, List.take_append_drop]
    have hlen : (q.blocks.take a).length = a := by
      rw [List.length_take, Nat.min_eq_left (Nat.le_of_lt ha)]
    refine ⟨q.blocks.take a, q.blocks[a], q.blocks.drop (a + 1), hsplit, ?_,
      (rrIdMatches_some _ _).1 hm, ?_⟩
    · intro x hx
      obtain ⟨i, hi, rfl⟩ := List.mem_iff_getElem.1 hx
      rw [List.length_take] at hi
      have hn := hbefore i (by omega)
      rw [List.getElem_take, ← rrIdMatches_some]
      exact hn
    · rw [hlen, (take_item h hsplit hlen.symm).2.1]
      rfl

/-- **A pop that returns `TRUE`** takes out the oldest packet it asks for. -/
theorem pop_true {sdp : TSuplaDataPacket} {rrId : UInt32} (h : q.Ok cfg)
    (hp : (srpcQueuePop cfg q sdp rrId).1 = .true) :
    (srpcQueuePop cfg q sdp rrId).2.1.Ok cfg ∧ ∃ l p r, q.packets = l ++ p :: r ∧
      (∀ x ∈ l, ¬ wanted rrId x) ∧ wanted rrId p ∧
      (srpcQueuePop cfg q sdp rrId).2.1.packets = l ++ r ∧
      (srpcQueuePop cfg q sdp rrId).2.2 = p := by
  obtain ⟨l, b, r, hblocks, hl, hb, hpop⟩ := pop_take h hp
  obtain ⟨hok, htaken⟩ := take_blocks h hblocks rfl
  rw [hpop]
  refine ⟨hok, l.map Block.sdp, b.sdp, r.map Block.sdp, ?_, ?_, hb, ?_, rfl⟩
  · rw [packets, hblocks, List.map_append, List.map_cons]
  · intro x hx
    obtain ⟨b, hb, rfl⟩ := List.mem_map.1 hx
    exact hl b hb
  · rw [packets, htaken, List.map_append]

/-- **A pop that returns `FALSE`** found no packet it asks for, and changes nothing. -/
theorem pop_false {sdp : TSuplaDataPacket} {rrId : UInt32} (h : q.Ok cfg)
    (hp : (srpcQueuePop cfg q sdp rrId).1 ≠ .true) :
    (∀ p ∈ q.packets, ¬ wanted rrId p) ∧ (srpcQueuePop cfg q sdp rrId).2 = (q, sdp) := by
  unfold srpcQueuePop at hp ⊢
  cases hf : (q.item.take q.itemCount).findIdx? (rrIdMatches rrId) with
  | some a => simp only [hf] at hp; exact absurd rfl hp
  | none =>
    refine ⟨fun p hmem => ?_, rfl⟩
    rw [h.live, List.findIdx?_eq_none_iff] at hf
    obtain ⟨b, hb, rfl⟩ := List.mem_map.1 hmem
    rw [← rrIdMatches_some]
    simp [hf (some b) (List.mem_map.2 ⟨b, hb, rfl⟩)]

/-- Popping with `rr_id` zero takes the oldest packet. -/
theorem pop_zero_cons {sdp p : TSuplaDataPacket} {ps : List TSuplaDataPacket} (h : q.Ok cfg)
    (hp : q.packets = p :: ps) : (srpcQueuePop cfg q sdp 0).1 = .true ∧
      (srpcQueuePop cfg q sdp 0).2.1.Ok cfg ∧ (srpcQueuePop cfg q sdp 0).2.1.packets = ps ∧
      (srpcQueuePop cfg q sdp 0).2.2 = p := by
  by_cases ht : (srpcQueuePop cfg q sdp 0).1 = .true
  · obtain ⟨hok, l, p', r, heq, hl, -, hrest, hsdp⟩ := pop_true h ht
    match l, hl with
    | x :: _, hl => exact absurd (.inl rfl) (hl x List.mem_cons_self)
    | [], _ =>
      rw [hp, List.nil_append, List.cons.injEq] at heq
      exact ⟨ht, hok, hrest.trans heq.2.symm, hsdp.trans heq.1.symm⟩
  · exact absurd (.inl rfl) ((pop_false h ht).1 p (by rw [hp]; exact List.mem_cons_self))

/-- Popping with `rr_id` zero fails only on an empty queue. -/
theorem pop_zero_nil {sdp : TSuplaDataPacket} (h : q.Ok cfg) (hp : q.packets = []) :
    (srpcQueuePop cfg q sdp 0).1 ≠ .true ∧ (srpcQueuePop cfg q sdp 0).2 = (q, sdp) := by
  have hn : (srpcQueuePop cfg q sdp 0).1 ≠ .true := by
    intro ht
    obtain ⟨-, l, p, r, heq, -⟩ := pop_true h ht
    rw [hp] at heq
    simp at heq
  exact ⟨hn, (pop_false h hn).2⟩

end Srpc
