import SuplaCore.Srpc.Proof.Queue
import SuplaCore.Srpc.QueueList

/-!
# The packet queue refines the list

Queue and list give the same answers, and the live slots hold different blocks, in every run of a
queue whose size fits an unsigned char (`Refines`). The number of allocated blocks is right as long
as no push finds a block behind the live ones, because a push counts that block once more
(`refines_run`, `miscounted`); without a minimum number of blocks none is kept there
(`refines_freed`).
-/

namespace Srpc

open Proto Sys TsrpcQueue

/-! ## The list -/

theorem listPop_split {l r : List TSuplaDataPacket} {p sdp : TSuplaDataPacket} {rrId : UInt32}
    (hl : ∀ x ∈ l, ¬ wanted rrId x) (hp : wanted rrId p) :
    listPop (l ++ p :: r) sdp rrId = (.true, l ++ r, p) := by
  have hmatch : ∀ x : TSuplaDataPacket, (rrId == 0 || x.rrId == rrId) = true ↔ wanted rrId x := by
    intro x
    simp [wanted]
  have hfound : (l ++ p :: r).findIdx? (fun x => rrId == 0 || x.rrId == rrId) = some l.length := by
    rw [List.findIdx?_append, List.findIdx?_eq_none_iff.mpr, List.findIdx?_cons,
      if_pos ((hmatch p).mpr hp)]
    · simp
    · intro x hx
      exact Bool.eq_false_iff.mpr fun h => hl x hx ((hmatch x).mp h)
  rw [listPop, hfound]
  simp [List.eraseIdx_append_of_length_le, List.getD_eq_getElem?_getD]

theorem listPop_none {ps : List TSuplaDataPacket} {sdp : TSuplaDataPacket} {rrId : UInt32}
    (h : ∀ x ∈ ps, ¬ wanted rrId x) : listPop ps sdp rrId = (.false, ps, sdp) := by
  have hnone : ps.findIdx? (fun x => rrId == 0 || x.rrId == rrId) = none := by
    refine List.findIdx?_eq_none_iff.mpr fun x hx => ?_
    refine Bool.eq_false_iff.mpr fun hm => h x hx ?_
    simpa [wanted] using hm
  rw [listPop, hnone]

/-! ## What is claimed of a queue -/

/-- The queue is the list, and its counters and slots are right. -/
structure Refines (cfg : QueueCfg) (s : QueueRun) : Prop where
  packets : s.queue.packets = s.list
  count : s.queue.itemCount = s.list.length
  bounded : s.list.length ≤ cfg.size
  answers : ∀ x ∈ s.answers, x.1 = x.2
  live : ∀ i < s.queue.itemCount, s.queue.slot i ≠ none
  distinct : ∀ i j, i < j → j < s.queue.itemCount →
    (s.queue.slot i).map Block.addr ≠ (s.queue.slot j).map Block.addr
  allocated : s.queue.allocCount = (s.queue.item.filter Option.isSome).length

/-- A push finds no block in the slot behind the live ones. -/
def FreshSlot (cfg : QueueCfg) (s : QueueRun) (a : QueueAct) : Prop :=
  ∀ addr sdp, a = .push addr sdp → s.queue.itemCount < cfg.size →
    s.queue.slot s.queue.itemCount = none

/-- What is kept in every step. -/
structure Inv (cfg : QueueCfg) (s : QueueRun) : Prop where
  ok : s.queue.Ok cfg
  packets : s.queue.packets = s.list
  answers : ∀ x ∈ s.answers, x.1 = x.2
  nodup : s.queue.addrs.Nodup
  allocated : s.queue.allocCount = s.queue.addrs.length

variable {cfg : QueueCfg} {s s' : QueueRun}

theorem Inv.init (hsize : cfg.size < 256) : Inv cfg ⟨.empty cfg, [], []⟩ where
  ok := empty_ok hsize
  packets := rfl
  answers := List.forall_mem_nil _
  nodup := by simp [addrs, empty]
  allocated := by simp [addrs, empty]

/-! ## The blocks -/

section
variable {q : TsrpcQueue}

theorem length_addrs (q : TsrpcQueue) : q.addrs.length = (q.item.filter Option.isSome).length := by
  rw [addrs]
  induction q.item with
  | nil => rfl
  | cons b item ih => cases b <;> simp [ih]

/-- The blocks of the live slots, and those behind them. -/
theorem addrs_eq (h : q.Ok cfg) : q.addrs = q.blocks.map Block.addr ++
    (q.item.drop q.itemCount).filterMap (Option.map Block.addr) := by
  conv_lhs => rw [addrs, ← List.take_append_drop q.itemCount q.item, h.live]
  rw [List.filterMap_append, List.filterMap_map]
  exact congrArg (· ++ _) (congrFun List.filterMap_eq_map _)

theorem slot_live (h : q.Ok cfg) {i : Nat} (hi : i < q.blocks.length) :
    q.slot i = some q.blocks[i] := by
  have hlen := h.length_blocks
  have hget : (q.item.take q.itemCount)[i]? = some (some q.blocks[i]) := by
    rw [h.live, List.getElem?_map, List.getElem?_eq_getElem hi]
    rfl
  rw [List.getElem?_take_of_lt (by omega)] at hget
  rw [slot, List.getD_eq_getElem?_getD, hget]
  rfl

end

/-- **The invariant says what is claimed.** -/
theorem Inv.refines (h : Inv cfg s) : Refines cfg s := by
  have hlen := h.ok.length_blocks
  have hcount : s.queue.itemCount = s.list.length := by rw [← h.packets, h.ok.length_packets]
  refine ⟨h.packets, hcount, hcount ▸ h.ok.count, h.answers, fun i hi => ?_, fun i j hij hj => ?_,
    h.allocated.trans (length_addrs _)⟩
  · rw [slot_live h.ok (by omega)]
    exact Option.some_ne_none _
  · have hnodup := h.nodup
    rw [addrs_eq h.ok] at hnodup
    rw [slot_live h.ok (by omega), slot_live h.ok (by omega), Option.map_some, Option.map_some]
    have hblocks := List.pairwise_iff_getElem.mp (List.nodup_append.mp hnodup).1 i j
      (by rw [List.length_map]; omega) (by rw [List.length_map]; omega) hij
    rw [List.getElem_map, List.getElem_map] at hblocks
    exact fun heq => hblocks (Option.some.inj heq)

/-! ## Push -/

theorem Inv.push {addr : Nat} {sdp : TSuplaDataPacket} (h : Inv cfg s)
    (haddr : addr ∉ s.queue.addrs)
    (hfresh : s.queue.itemCount < cfg.size → s.queue.slot s.queue.itemCount = none) :
    Inv cfg ⟨(srpcQueuePush cfg (some addr) s.queue sdp).2, (listPush cfg.size s.list sdp).2,
      s.answers ++ [(((srpcQueuePush cfg (some addr) s.queue sdp).1, sdp),
        ((listPush cfg.size s.list sdp).1, sdp))]⟩ := by
  have hcount : s.queue.itemCount = s.list.length := by rw [← h.packets, h.ok.length_packets]
  by_cases hfull : s.queue.itemCount ≥ cfg.size
  · rw [srpcQueuePush, if_pos hfull, listPush, if_pos (hcount ▸ hfull)]
    exact ⟨h.ok, h.packets, List.forall_mem_append.mpr
      ⟨h.answers, List.forall_mem_singleton.mpr rfl⟩, h.nodup, h.allocated⟩
  · have hslot := hfresh (Nat.lt_of_not_le hfull)
    have htrue := @push_room cfg s.queue addr sdp (Nat.lt_of_not_le hfull)
    obtain ⟨hok, hpackets⟩ := push_true h.ok htrue
    have hqueue : (srpcQueuePush cfg (some addr) s.queue sdp).2 =
        ⟨(s.queue.itemCount + 1) % 256, (s.queue.allocCount + 1) % 256,
          s.queue.item.set s.queue.itemCount (some ⟨addr, sdp⟩)⟩ := by
      rw [srpcQueuePush, if_neg hfull]
      simp only [hslot]
    have hin : s.queue.itemCount < s.queue.item.length := by
      rw [h.ok.slots]
      omega
    have hnull : s.queue.item[s.queue.itemCount] = none := by
      rw [slot, List.getD_eq_getElem?_getD, List.getElem?_eq_getElem hin] at hslot
      exact hslot
    have hbefore : s.queue.item = s.queue.item.take s.queue.itemCount ++
        none :: s.queue.item.drop (s.queue.itemCount + 1) := by
      rw [← hnull, ← List.drop_eq_getElem_cons hin, List.take_append_drop]
    have hafter : s.queue.item.set s.queue.itemCount (some ⟨addr, sdp⟩) =
        s.queue.item.take s.queue.itemCount ++
          some ⟨addr, sdp⟩ :: s.queue.item.drop (s.queue.itemCount + 1) := by
      rw [List.set_eq_take_append_cons_drop, if_pos hin]
    have hperm : (srpcQueuePush cfg (some addr) s.queue sdp).2.addrs.Perm
        (addr :: s.queue.addrs) := by
      rw [hqueue, addrs, addrs, hafter]
      conv_rhs => rw [hbefore]
      rw [List.filterMap_append, List.filterMap_append]
      exact List.perm_middle
    have hlist : listPush cfg.size s.list sdp = (.true, s.list ++ [sdp]) := by
      rw [listPush, if_neg (hcount ▸ hfull)]
    rw [hlist, htrue]
    refine ⟨hok, ?_, List.forall_mem_append.mpr ⟨h.answers, List.forall_mem_singleton.mpr rfl⟩,
      ?_, ?_⟩
    · rw [hpackets, h.packets]
    · exact (List.Perm.nodup_iff hperm).mpr (List.nodup_cons.mpr ⟨haddr, h.nodup⟩)
    · have hroom : (srpcQueuePush cfg (some addr) s.queue sdp).2.addrs.length ≤
          (srpcQueuePush cfg (some addr) s.queue sdp).2.item.length := List.length_filterMap_le _ _
      rw [hok.slots, hperm.length_eq, List.length_cons] at hroom
      have hbyte := h.ok.byte
      rw [hperm.length_eq, List.length_cons, ← h.allocated, hqueue]
      refine Nat.mod_eq_of_lt ?_
      rw [h.allocated]
      omega

/-! ## Pop -/

/-- Taking a block out frees it or keeps it behind the live ones. -/
theorem take_addrs {q : TsrpcQueue} {l r : List Block} {b : Block} (h : q.Ok cfg)
    (hb : q.blocks = l ++ b :: r) (hnodup : q.addrs.Nodup)
    (hcount : q.allocCount = q.addrs.length) :
    (srpcQueueTake cfg q l.length).addrs.Nodup ∧
      (srpcQueueTake cfg q l.length).allocCount =
        (srpcQueueTake cfg q l.length).addrs.length := by
  obtain ⟨hitem, -, htaken⟩ := take_item h hb rfl
  have hold : q.addrs.Perm (b.addr :: (l.map some ++ (r.map some ++
      q.item.drop q.itemCount)).filterMap (Option.map Block.addr)) := by
    rw [addrs]
    conv_lhs => rw [hitem]
    rw [List.filterMap_append, List.filterMap_append]
    exact List.perm_middle
  have hnew : (srpcQueueTake cfg q l.length).addrs = (l.map some ++ (r.map some ++
      (if q.allocCount > cfg.minAlloc then none else some b) ::
        q.item.drop q.itemCount)).filterMap (Option.map Block.addr) := by
    rw [addrs, htaken]
  have hlength := hold.length_eq
  rw [List.length_cons] at hlength
  by_cases hfree : q.allocCount > cfg.minAlloc
  · have hsame : (srpcQueueTake cfg q l.length).addrs = (l.map some ++ (r.map some ++
        q.item.drop q.itemCount)).filterMap (Option.map Block.addr) := by
      rw [hnew, if_pos hfree]
      simp only [List.filterMap_append]
      rfl
    have halloc : (srpcQueueTake cfg q l.length).allocCount = q.allocCount - 1 := if_pos hfree
    rw [hsame, halloc]
    refine ⟨(List.nodup_cons.mp ((List.Perm.nodup_iff hold).mp hnodup)).2, ?_⟩
    omega
  · have hsame : (srpcQueueTake cfg q l.length).addrs.Perm q.addrs := by
      refine List.Perm.trans ?_ hold.symm
      rw [hnew, if_neg hfree, List.filterMap_append, List.filterMap_append, List.filterMap_append,
        List.filterMap_append, ← List.append_assoc, ← List.append_assoc]
      exact List.perm_middle
    have halloc : (srpcQueueTake cfg q l.length).allocCount = q.allocCount := if_neg hfree
    rw [halloc, hsame.length_eq]
    exact ⟨(List.Perm.nodup_iff hsame).mpr hnodup, hcount⟩

theorem Inv.pop {sdp : TSuplaDataPacket} {rrId : UInt32} (h : Inv cfg s) :
    Inv cfg ⟨(srpcQueuePop cfg s.queue sdp rrId).2.1, (listPop s.list sdp rrId).2.1,
      s.answers ++ [(((srpcQueuePop cfg s.queue sdp rrId).1,
        (srpcQueuePop cfg s.queue sdp rrId).2.2),
          ((listPop s.list sdp rrId).1, (listPop s.list sdp rrId).2.2))]⟩ := by
  by_cases htrue : (srpcQueuePop cfg s.queue sdp rrId).1 = .true
  · obtain ⟨l, b, r, hblocks, hl, hb, hpop⟩ := pop_take h.ok htrue
    obtain ⟨hok, htaken⟩ := take_blocks h.ok hblocks rfl
    obtain ⟨hnodup, hcount⟩ := take_addrs h.ok hblocks h.nodup h.allocated
    have hlist : listPop s.list sdp rrId =
        (.true, l.map Block.sdp ++ r.map Block.sdp, b.sdp) := by
      rw [← h.packets, TsrpcQueue.packets, hblocks, List.map_append, List.map_cons]
      refine listPop_split (fun x hx => ?_) hb
      obtain ⟨b, hb, rfl⟩ := List.mem_map.mp hx
      exact hl b hb
    rw [hlist, htrue, hpop]
    refine ⟨hok, ?_, List.forall_mem_append.mpr ⟨h.answers, List.forall_mem_singleton.mpr rfl⟩,
      hnodup, hcount⟩
    exact (congrArg (List.map Block.sdp) htaken).trans List.map_append
  · obtain ⟨hnone, hpop⟩ := pop_false h.ok htrue
    have hfalse : (srpcQueuePop cfg s.queue sdp rrId).1 = .false := by
      unfold srpcQueuePop at htrue ⊢
      split at htrue
      · exact absurd rfl htrue
      · rfl
    rw [h.packets] at hnone
    rw [listPop_none hnone, hpop, hfalse]
    exact ⟨h.ok, h.packets, List.forall_mem_append.mpr
      ⟨h.answers, List.forall_mem_singleton.mpr rfl⟩, h.nodup, h.allocated⟩

theorem Inv.step {a : QueueAct} (hfresh : FreshSlot cfg s a) (h : Inv cfg s)
    (hs : (queueRun cfg).step s a = some s') : Inv cfg s' := by
  cases a with
  | push addr sdp =>
    have hstep : (if addr ∈ s.queue.addrs then none else some _) = some s' := hs
    split at hstep
    · cases hstep
    · rename_i haddr
      cases hstep
      exact h.push haddr (hfresh addr sdp rfl)
  | pop sdp rrId =>
    cases hs
    exact h.pop

/-- **Every run** in which no push finds a block behind the live slots refines the list, with the
counters as they should be. -/
theorem refines_run {cfg : QueueCfg} (hsize : cfg.size < 256) :
    ∀ s, Reach (queueRun cfg) (FreshSlot cfg) s → Refines cfg s := by
  intro s h
  have hinv : Inv cfg s := by
    refine h.invariant (P := Inv cfg) (fun s hinit => ?_) Inv.step
    rw [show s = _ from hinit]
    exact Inv.init hsize
  exact hinv.refines

/-! ## Without a minimum number of blocks -/

/-- No block is kept behind the live ones. -/
def Freed (q : TsrpcQueue) : Prop := ∀ x ∈ q.item.drop q.itemCount, x = none

theorem Freed.slot {q : TsrpcQueue} (h : Freed q) : q.slot q.itemCount = none := by
  rw [TsrpcQueue.slot, List.getD_eq_getElem?_getD]
  cases hslot : q.item[q.itemCount]? with
  | none => rfl
  | some x =>
    refine h x (List.mem_of_getElem? (i := 0) ?_)
    rw [List.getElem?_drop, Nat.add_zero, hslot]

theorem Freed.step {a : QueueAct} (hmin : cfg.minAlloc = 0) (h : Inv cfg s)
    (hfreed : Freed s.queue) (hs : (queueRun cfg).step s a = some s') : Freed s'.queue := by
  have hbyte := h.ok.byte
  cases a with
  | push addr sdp =>
    have hstep : (if addr ∈ s.queue.addrs then none else some _) = some s' := hs
    split at hstep
    · cases hstep
    cases hstep
    show Freed (srpcQueuePush cfg (some addr) s.queue sdp).2
    by_cases hfull : s.queue.itemCount ≥ cfg.size
    · rw [srpcQueuePush, if_pos hfull]
      exact hfreed
    · rw [srpcQueuePush, if_neg hfull]
      simp only [hfreed.slot]
      intro x hx
      rw [Nat.mod_eq_of_lt (by omega), List.drop_set_of_lt (Nat.lt_add_one _),
        ← List.drop_drop] at hx
      exact hfreed x (List.mem_of_mem_drop hx)
  | pop sdp rrId =>
    cases hs
    show Freed (srpcQueuePop cfg s.queue sdp rrId).2.1
    by_cases htrue : (srpcQueuePop cfg s.queue sdp rrId).1 = .true
    · obtain ⟨l, b, r, hblocks, -, -, hpop⟩ := pop_take h.ok htrue
      obtain ⟨-, -, htaken⟩ := take_item h.ok hblocks rfl
      have hlen := h.ok.length_blocks
      rw [hblocks, List.length_append, List.length_cons] at hlen
      have hfree : s.queue.allocCount > cfg.minAlloc := by
        rw [hmin, h.allocated, addrs_eq h.ok, hblocks, List.length_append, List.length_map,
          List.length_append, List.length_cons]
        omega
      have hcount : (srpcQueueTake cfg s.queue l.length).itemCount = s.queue.itemCount - 1 := rfl
      have hfront : (l.map some ++ r.map some).length = s.queue.itemCount - 1 := by
        rw [List.length_append, List.length_map, List.length_map]
        omega
      rw [hpop]
      intro x hx
      rw [htaken, hcount, if_pos hfree, ← List.append_assoc, List.drop_left' hfront] at hx
      rcases List.mem_cons.mp hx with rfl | hx
      · rfl
      · exact hfreed x hx
    · rw [(pop_false h.ok htrue).2]
      exact hfreed

/-- **Without a minimum number of blocks** every run refines the list. -/
theorem refines_freed {cfg : QueueCfg} (hsize : cfg.size < 256) (hmin : cfg.minAlloc = 0) :
    ∀ s, Reach (queueRun cfg) Any s → Refines cfg s := by
  intro s h
  have hinv : Inv cfg s ∧ Freed s.queue := by
    refine h.invariant (P := fun s => Inv cfg s ∧ Freed s.queue) (fun s hinit => ?_) ?_
    · rw [show s = _ from hinit]
      exact ⟨Inv.init hsize, fun x hx => List.eq_of_mem_replicate hx⟩
    · intro s s' a _ hs hstep
      have hfresh : FreshSlot cfg s a := fun _ _ _ _ => hs.2.slot
      exact ⟨hs.1.step hfresh hstep, hs.2.step hmin hs.1 hstep⟩
  exact hinv.1.refines

/-! ## A block that is kept -/

/-- Two pushes and a pop on a queue of two that keeps two blocks. -/
theorem refines_run_kept : ∃ s, Reach (queueRun ⟨2, 2⟩) (FreshSlot ⟨2, 2⟩) s ∧
    s.queue.itemCount = 1 ∧ s.queue.allocCount = 2 ∧ Refines ⟨2, 2⟩ s := by
  have hinit : Reach (queueRun ⟨2, 2⟩) (FreshSlot ⟨2, 2⟩) _ := .init rfl
  have hfirst := hinit.act (.push 1 .zero) (fun _ _ _ _ => rfl) rfl
  have hsecond := hfirst.act (.push 2 .zero) (fun _ _ _ _ => rfl) rfl
  have hpop := hsecond.act (.pop .zero 0) (fun _ _ h => by cases h) rfl
  exact ⟨_, hpop, rfl, rfl, refines_run (by decide) _ hpop⟩

/-- **A block is counted twice** when it is used again. -/
theorem miscounted : ∃ s, Reach (queueRun ⟨2, 2⟩) Any s ∧ ¬ Refines ⟨2, 2⟩ s := by
  have hrun : (queueRun ⟨2, 2⟩).run ⟨.empty ⟨2, 2⟩, [], []⟩
      [.push 1 .zero, .pop .zero 0, .push 2 .zero] = some _ := rfl
  refine ⟨_, Reach.run (.init rfl) hrun, fun h => ?_⟩
  have hcount : 2 = 1 := h.allocated
  cases hcount

end Srpc
