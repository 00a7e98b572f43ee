import SuplaCore.Lib.Ascending
import SuplaCore.User.ChannelGroups
import Mathlib.Data.Int.ConditionallyCompleteOrder
import Mathlib.Order.ConditionallyCompleteLattice.Basic

/-!
# A group command marks the end of the batch of each device

A visit adds its call and its reads to the run (`calls_foldl_visit`, `reads_foldl_visit`), so the
run is known from the list (`calls_visitAll`, `reads_visitAll`). In the sorted list the pairs of a
device stand together, and the flag, which compares a pair with the next one, is right for every
pair that has a next one. At the last pair it compares with what lies behind the list.
-/

namespace User

open Ascend

/-! ## The sorted list -/

theorem compare_iff {p1 p2 : DCPair} : p1.compare p2 = true ↔ p1.deviceId < p2.deviceId ∨
    (p1.deviceId = p2.deviceId ∧ p1.channelId ≤ p2.channelId) := by
  simp [DCPair.compare]

theorem compare_total (p1 p2 : DCPair) : p1.compare p2 = true ∨ p2.compare p1 = true := by
  rw [compare_iff, compare_iff]
  omega

theorem compare_trans {p1 p2 p3 : DCPair} (h12 : p1.compare p2 = true)
    (h23 : p2.compare p3 = true) : p1.compare p3 = true := by
  rw [compare_iff] at h12 h23 ⊢
  omega

instance : Std.Total fun p1 p2 : DCPair => p1.compare p2 = true := ⟨compare_total⟩

instance : IsTrans DCPair fun p1 p2 => p1.compare p2 = true :=
  ⟨fun _ _ _ h12 h23 => compare_trans h12 h23⟩

theorem perm_sortByDeviceId (pairs : List DCPair) : (sortByDeviceId pairs).Perm pairs :=
  List.perm_insertionSort _ pairs

theorem ascending_sortByDeviceId (pairs : List DCPair) :
    Ascending DCPair.deviceId (sortByDeviceId pairs) := by
  refine List.Pairwise.imp ?_ (List.pairwise_insertionSort _ pairs)
  intro p1 p2 h
  rw [compare_iff] at h
  omega

/-! ## What a run does -/

section
variable (e : Env) (pairs : List DCPair)

def connectedAt (it : Nat) : Bool := e.connected it (cell e pairs it).deviceId

def callAt (it : Nat) : Call := ⟨it, cell e pairs it, (lastOne e pairs it).1⟩

def readsAt (it : Nat) : List Nat :=
  if connectedAt e pairs it then it :: (lastOne e pairs it).2 else [it]

variable {e pairs}

theorem calls_visit (it : Nat) (r : Run) : (visit e pairs it r).calls =
    if connectedAt e pairs it then r.calls ++ [callAt e pairs it] else r.calls := by
  unfold visit connectedAt callAt
  dsimp only
  split <;> rfl

theorem reads_visit (it : Nat) (r : Run) :
    (visit e pairs it r).reads = r.reads ++ readsAt e pairs it := by
  unfold visit readsAt connectedAt
  dsimp only
  split <;> rfl

theorem calls_foldl_visit (its : List Nat) (r : Run) :
    (its.foldl (fun r it => visit e pairs it r) r).calls =
      r.calls ++ (its.filter (connectedAt e pairs)).map (callAt e pairs) := by
  induction its generalizing r with
  | nil => simp
  | cons it its ih =>
    rw [List.foldl_cons, ih, calls_visit]
    cases hc : connectedAt e pairs it with
    | true => simp [hc]
    | false => simp [hc]

theorem reads_foldl_visit (its : List Nat) (r : Run) :
    (its.foldl (fun r it => visit e pairs it r) r).reads =
      r.reads ++ its.flatMap (readsAt e pairs) := by
  induction its generalizing r with
  | nil => simp
  | cons it its ih => rw [List.foldl_cons, ih, reads_visit, List.append_assoc, List.flatMap_cons]

theorem visitAll_eq : visitAll e pairs false =
    (List.range pairs.length).foldl (fun r it => visit e pairs it r) {} :=
  Loop.forEach_of_continues _ _ fun _ _ _ => rfl

theorem calls_visitAll : (visitAll e pairs false).calls =
    ((List.range pairs.length).filter (connectedAt e pairs)).map (callAt e pairs) := by
  rw [visitAll_eq, calls_foldl_visit, List.nil_append]

theorem reads_visitAll :
    (visitAll e pairs false).reads = (List.range pairs.length).flatMap (readsAt e pairs) := by
  rw [visitAll_eq, reads_foldl_visit, List.nil_append]

theorem mem_calls {c : Call} : c ∈ (visitAll e pairs false).calls ↔
    ∃ it < pairs.length, connectedAt e pairs it = true ∧ callAt e pairs it = c := by
  simp [calls_visitAll, and_assoc]

theorem mem_reads {i : Nat} : i ∈ (visitAll e pairs false).reads ↔
    ∃ it < pairs.length, i ∈ readsAt e pairs it := by
  simp [reads_visitAll]

theorem getElem?_cell {it : Nat} (h : it < pairs.length) : pairs[it]? = some (cell e pairs it) := by
  simp [cell, h]

theorem lastOne_of_lt {it : Nat} (h : it < pairs.length) : lastOne e pairs it =
    (decide ((cell e pairs it).deviceId ≠ (cell e pairs (it + 1)).deviceId), [it, it + 1]) :=
  if_neg (Nat.ne_of_lt h)

/-! ## The parts of the claim -/

theorem zipIdx_eq_cells : pairs.zipIdx =
    (List.range pairs.length).map fun it => (cell e pairs it, it) := by
  apply List.ext_getElem?
  intro i
  by_cases hi : i < pairs.length
  · rw [List.getElem?_zipIdx, getElem?_cell (e := e) hi]
    simp [hi]
  · simp [hi]

theorem calls_visited : (visitAll e pairs false).calls.map (fun c => (c.pair, c.index)) =
    pairs.zipIdx.filter fun p => e.connected p.2 p.1.deviceId := by
  rw [calls_visitAll, zipIdx_eq_cells (e := e), List.filter_map, List.map_map]
  rfl

theorem ascending_calls (h : Ascending DCPair.deviceId pairs) :
    Ascending (fun c : Call => c.pair.deviceId) (visitAll e pairs false).calls := by
  unfold Ascending
  rw [calls_visitAll, List.pairwise_map]
  refine List.Pairwise.imp_of_mem ?_ (List.pairwise_lt_range.filter _)
  intro i j hi hj hij
  have hj' : j < pairs.length := List.mem_range.mp (List.mem_of_mem_filter hj)
  exact h.le (Nat.le_of_lt hij) (getElem?_cell (Nat.lt_trans hij hj')) (getElem?_cell hj')

/-- The flag is right for every pair that is not the last of the list. -/
theorem eol_callAt (h : Ascending DCPair.deviceId pairs) {it : Nat} (hit : it + 1 < pairs.length) :
    (callAt e pairs it).eol = true ↔
      LastOfKey DCPair.deviceId pairs it (cell e pairs it).deviceId := by
  have hlt : it < pairs.length := Nat.lt_of_succ_lt hit
  rw [h.lastOfKey_iff (getElem?_cell hlt) (getElem?_cell (e := e) hit), callAt, lastOne_of_lt hlt,
    decide_eq_true_iff]
  exact ne_comm

/-- Only the look-ahead at the last pair leaves the list. -/
theorem readsAt_lt {it i : Nat} (hit : it < pairs.length) (hi : i ∈ readsAt e pairs it) :
    i < pairs.length ∨ (i = pairs.length ∧ it + 1 = pairs.length ∧
      connectedAt e pairs it = true) := by
  unfold readsAt at hi
  split at hi
  · rename_i hc
    rw [lastOne_of_lt hit] at hi
    simp only [List.mem_cons, List.not_mem_nil, or_false] at hi
    obtain rfl | rfl | rfl := hi
    · exact .inl hit
    · exact .inl hit
    · obtain hlt | heq := Nat.lt_or_eq_of_le hit
      · exact .inl hlt
      · exact .inr ⟨heq, heq, hc⟩
  · rw [List.mem_singleton] at hi
    exact .inl (hi ▸ hit)

end

/-! ## The claim -/

/-- What a command for a group does with the pairs in the order `order`: each pair whose device is
connected is visited once, the calls for a device stand together, nothing behind the list is read,
and the flag marks the last pair of each device. -/
structure Batches (e : Env) (order : List DCPair) (r : Run) : Prop where
  visited : r.calls.map (fun c => (c.pair, c.index)) =
    order.zipIdx.filter fun p => e.connected p.2 p.1.deviceId
  adjacent : Together (fun c => c.pair.deviceId) r.calls
  bounded : ∀ i ∈ r.reads, i < order.length
  eol : ∀ c ∈ r.calls,
    c.eol = true ↔ LastOfKey DCPair.deviceId order c.index c.pair.deviceId

/-- The device of the last pair is connected when that pair is visited. -/
def lastConnected (e : Env) (order : List DCPair) : Bool :=
  order.getLast?.any fun p => e.connected (order.length - 1) p.deviceId

theorem lastConnected_iff {e : Env} {order : List DCPair} : lastConnected e order = true ↔
    ∃ it, it + 1 = order.length ∧ connectedAt e order it = true := by
  unfold lastConnected
  rw [List.getLast?_eq_getElem?]
  constructor
  · intro h
    obtain ⟨p, hp, hc⟩ := (Option.any_eq_true _ _).mp h
    obtain ⟨hlt, -⟩ := List.getElem?_eq_some_iff.mp hp
    refine ⟨order.length - 1, by omega, ?_⟩
    rw [connectedAt, cell, hp]
    exact hc
  · rintro ⟨it, hit, hc⟩
    rw [← hit, Nat.add_sub_cancel, getElem?_cell (e := e) (by omega)]
    exact hc

/-- Where the device of the last pair is connected, what lies behind the list is read. -/
theorem mem_reads_length {e : Env} {pairs : List DCPair} (h : lastConnected e pairs = true) :
    pairs.length ∈ (visitAll e pairs false).reads := by
  obtain ⟨it, hit, hc⟩ := lastConnected_iff.mp h
  have hlt : it < pairs.length := by omega
  refine mem_reads.mpr ⟨it, hlt, ?_⟩
  rw [readsAt, if_pos hc, lastOne_of_lt hlt, ← hit]
  simp

theorem batches_visitAll {e : Env} {pairs : List DCPair} (h : Ascending DCPair.deviceId pairs)
    (hlast : lastConnected e pairs = false) : Batches e pairs (visitAll e pairs false) := by
  have hnot : ∀ it, it + 1 = pairs.length → connectedAt e pairs it ≠ true := fun it hit hc =>
    Bool.false_ne_true (hlast.symm.trans (lastConnected_iff.mpr ⟨it, hit, hc⟩))
  refine ⟨calls_visited, (ascending_calls h).together, ?_, ?_⟩
  · intro i hi
    obtain ⟨it, hit, hread⟩ := mem_reads.mp hi
    obtain hlt | ⟨-, hend, hc⟩ := readsAt_lt hit hread
    · exact hlt
    · exact absurd hc (hnot it hend)
  · intro c hc
    obtain ⟨it, hit, hconn, rfl⟩ := mem_calls.mp hc
    obtain hnext | hend := Nat.lt_or_eq_of_le hit
    · exact eol_callAt h hnext
    · exact absurd hconn (hnot it hend)

/-- **Each device's batch is marked exactly where the last pair is not called for.** -/
theorem forEachChannel_batches_iff (e : Env) (groups : List ChannelGroup) (groupId : Int) :
    (∃ order, order.Perm (findChannels groups groupId) ∧
      Batches e order (forEachChannel e groups groupId false)) ↔
      lastConnected e (sortByDeviceId (findChannels groups groupId)) = false := by
  have hperm := perm_sortByDeviceId (findChannels groups groupId)
  constructor
  · rintro ⟨order, horder, h⟩
    rw [← Bool.not_eq_true]
    intro hlast
    have hlt := h.bounded _ (mem_reads_length hlast)
    rw [horder.length_eq, hperm.length_eq] at hlt
    exact Nat.lt_irrefl _ hlt
  · exact fun hlast => ⟨_, hperm, batches_visitAll (ascending_sortByDeviceId _) hlast⟩

/-- A group of one channel, with a pair of device 1 behind the list. -/
def oneChannel : Env := ⟨fun _ _ => true, fun _ => true, fun _ => ⟨1, 0⟩⟩

theorem forEachChannel_unmarked :
    (forEachChannel oneChannel [⟨7, 1, 1⟩] 7 false).calls = [⟨0, ⟨1, 1⟩, false⟩] ∧
      (forEachChannel oneChannel [⟨7, 1, 1⟩] 7 false).reads = [0, 0, 1] ∧
      ¬ ∃ order, order.Perm (findChannels [⟨7, 1, 1⟩] 7) ∧
        Batches oneChannel order (forEachChannel oneChannel [⟨7, 1, 1⟩] 7 false) := by
  refine ⟨by decide, by decide, ?_⟩
  rintro ⟨order, horder, h⟩
  have hlt : 1 < order.length := h.bounded 1 (by decide)
  rw [horder.length_eq] at hlt
  exact absurd hlt (by decide)

end User
