import SuplaCore.Dobject.PackUpdater

/-!
# The packs of an updater

A call of `update_remote` sends the next pack of the objects that are changed
(`updateRemote_spec`), and the calls until one returns false send all of them, with the flags where
a list starts and ends (`updates_deliver`).
-/

namespace Dobject.PackUpdater

open Batch

variable {V : Type} {k : Kind}

/-! ## What is to be sent -/

/-- The objects that are changed, as items, from a place on. -/
def toSend : Nat → List (Obj V) → List (Item V)
  | _, [] => []
  | i, o :: objects =>
    if o.changed then ⟨decide (i = 0), false, o.content⟩ :: toSend (i + 1) objects
    else toSend (i + 1) objects

theorem toSend_eq_nil {i : Nat} {objects : List (Obj V)} :
    toSend i objects = [] ↔ ∀ o ∈ objects, o.changed = false := by
  induction objects generalizing i with
  | nil => exact ⟨fun _ o ho => absurd ho List.not_mem_nil, fun _ => rfl⟩
  | cons o objects ih =>
    rw [toSend, List.forall_mem_cons, ← @ih (i + 1)]
    cases ho : o.changed with
    | true =>
      rw [if_pos rfl]
      exact ⟨fun h => (by cases h), fun h => (by cases h.1)⟩
    | false =>
      rw [if_neg Bool.false_ne_true]
      exact ⟨fun h => ⟨rfl, h⟩, fun h => h.2⟩

/-- A whole list as items, with the start of the list at the first. -/
def wholeList : List V → List (Item V)
  | [] => []
  | v :: l => ⟨true, false, v⟩ :: l.map fun v => ⟨false, false, v⟩

/-- A list that has been loaded is sent from its start on. -/
theorem toSend_loaded (l : List V) : toSend 0 (l.map fun v => ⟨v, true⟩) = wholeList l := by
  have hrest : ∀ (i : Nat) (l : List V), toSend (i + 1) (l.map fun v => ⟨v, true⟩) =
      l.map fun v => (⟨false, false, v⟩ : Item V) := by
    intro i l
    induction l generalizing i with
    | nil => rfl
    | cons v l ih =>
      rw [List.map_cons, toSend, if_pos rfl, ih (i + 1), List.map_cons]
      rfl
  cases l with
  | nil => rfl
  | cons v l =>
    rw [List.map_cons, toSend, if_pos rfl, hrest 0 l]
    rfl

/-- The last item of a list has the end of the list. -/
def endLast : List (Item V) → List (Item V)
  | [] => []
  | [i] => [{ i with endOfList := true }]
  | i :: j :: items => i :: endLast (j :: items)

theorem endLast_append (l : List (Item V)) {m : List (Item V)} (h : m ≠ []) :
    endLast (l ++ m) = l ++ endLast m := by
  induction l with
  | nil => rfl
  | cons i l ih =>
    cases hlm : l ++ m with
    | nil => exact absurd (List.append_eq_nil_iff.1 hlm).2 h
    | cons j rest =>
      rw [List.cons_append, hlm, endLast, ← hlm, ih, List.cons_append]

theorem modify_last (items : List (Item V)) :
    (items.modify (items.length - 1) fun i => { i with endOfList := true }) = endLast items := by
  induction items with
  | nil => rfl
  | cons i items ih =>
    cases items with
    | nil => rfl
    | cons j items =>
      rw [endLast, ← ih]
      rfl

/-- The first pack of a list of items. -/
def nextPack (maxCount : Nat) (items : List (Item V)) : Pack (Item V) :=
  datapackSetEol ⟨items.take maxCount, (items.drop maxCount).length⟩

theorem items_nextPack (maxCount : Nat) (items : List (Item V)) :
    (nextPack maxCount items).items =
      if items.drop maxCount = [] then endLast (items.take maxCount) else items.take maxCount := by
  rw [nextPack, datapackSetEol]
  split
  · rename_i h
    rw [if_pos (List.length_eq_zero_iff.1 h)]
    exact modify_last _
  · rename_i h
    rw [if_neg fun hnil => h (List.length_eq_zero_iff.2 hnil)]

theorem totalLeft_nextPack (maxCount : Nat) (items : List (Item V)) :
    (nextPack maxCount items).totalLeft = (items.drop maxCount).length := by
  rw [nextPack, datapackSetEol]
  split <;> rfl

theorem length_endLast (items : List (Item V)) : (endLast items).length = items.length := by
  rw [← modify_last, List.length_modify]

namespace Container

variable {s : Container V}

/-! ## Filling a pack -/

/-- A transaction with an open pack. -/
structure Open (p : Pack (Item V)) (s : Container V) : Prop where
  pack : s.pack = some p
  first : s.first = some 0
  started : s.updater.transactionStarted = true
  rejected : s.updater.transactionRejected = false
  shouldEnd : s.updater.transactionShouldEnd = false
  anyUpdates : s.updater.anyUpdates = !p.items.isEmpty

/-- Between two calls. -/
structure Idle (s : Container V) : Prop where
  pack : s.pack = none
  started : s.updater.transactionStarted = false
  rejected : s.updater.transactionRejected = false

/-- **What the loop makes of the objects** from a place on, and of the open pack. -/
structure Fills (k : Kind) (i : Nat) (objects : List (Obj V)) (p : Pack (Item V))
    (objects' : List (Obj V)) (q : Pack (Item V)) : Prop where
  items : q.items = p.items ++ (toSend i objects).take (k.maxcount - p.items.length)
  totalLeft : q.totalLeft = p.totalLeft + (toSend i objects').length
  left : toSend i objects' = (toSend i objects).drop (k.maxcount - p.items.length)
  contents : objects'.map Obj.content = objects.map Obj.content

theorem Open.goes_on {p : Pack (Item V)} (h : Open p s) :
    (s.updater.isTransactionRejected || s.updater.isTransactionShouldEnd) = false := by
  rw [Updater.isTransactionRejected, Updater.isTransactionShouldEnd, h.rejected, h.started,
    h.shouldEnd]
  rfl

theorem update_open {p : Pack (Item V)} (h : Open p s) (i : Nat) (o : Obj V) :
    s.update k i o = if o.changed then s.prepare k i o else (o, s) := by
  have hbegin : s.beginTransaction = s := if_pos h.started
  have hrejected : s.updater.isTransactionRejected = false := h.rejected
  rw [update, hbegin]
  dsimp only
  rw [hrejected, if_neg Bool.false_ne_true]

/-- One object that is changed is taken, where there is room. -/
theorem prepare_open {p : Pack (Item V)} (h : Open p s) (i : Nat) (o : Obj V) :
    ∃ q, Open q (s.prepare k i o).2 ∧
      (p.items.length < k.maxcount ∧ (s.prepare k i o).1 = { o with changed := false } ∧
          q = p.add ⟨decide (i = 0), false, o.content⟩ ∨
        ¬ p.items.length < k.maxcount ∧ (s.prepare k i o).1 = o ∧ q = p.leave) := by
  have hsol : decide (s.first = some i) = decide (i = 0) := by
    rw [h.first]
    exact decide_eq_decide.2 ⟨fun heq => (Option.some.inj heq).symm, fun heq => heq ▸ rfl⟩
  rw [prepare, h.pack]
  dsimp only
  rw [hsol, datapackAdd]
  by_cases hroom : p.items.length < k.maxcount
  · rw [if_pos hroom]
    refine ⟨_, ⟨rfl, h.first, h.started, h.rejected, h.shouldEnd, ?_⟩, .inl ⟨hroom, rfl, rfl⟩⟩
    simp [Pack.add]
  · rw [if_neg hroom]
    exact ⟨_, ⟨rfl, h.first, h.started, h.rejected, h.shouldEnd, h.anyUpdates⟩,
      .inr ⟨hroom, rfl, rfl⟩⟩

/-- **The loop** in a transaction fills the open pack. -/
theorem updateAll_open (objects : List (Obj V)) :
    ∀ (i : Nat) {s : Container V} {p : Pack (Item V)}, Open p s →
      ∃ q, Open q (updateAll k i objects s).2 ∧
        Fills k i objects p (updateAll k i objects s).1 q := by
  induction objects with
  | nil =>
    intro i s p h
    exact ⟨p, h, by simp [toSend], rfl, by simp [updateAll, toSend], rfl⟩
  | cons o objects ih =>
    intro i s p h
    rw [updateAll, update_open h]
    cases ho : o.changed with
    | false =>
      rw [if_neg Bool.false_ne_true]
      dsimp only
      rw [h.goes_on, if_neg Bool.false_ne_true]
      obtain ⟨q, hopen, hfills⟩ := ih (i + 1) h
      have hcons : ∀ l : List (Obj V), toSend i (o :: l) = toSend (i + 1) l := fun l => by
        rw [toSend, ho, if_neg Bool.false_ne_true]
      refine ⟨q, hopen, ?_, ?_, ?_, congrArg (o.content :: ·) hfills.contents⟩
      · rw [hcons]
        exact hfills.items
      · rw [hcons]
        exact hfills.totalLeft
      · rw [hcons, hcons]
        exact hfills.left
    | true =>
      have hcons : ∀ l : List (Obj V), toSend i (o :: l) =
          ⟨decide (i = 0), false, o.content⟩ :: toSend (i + 1) l := fun l => by
        rw [toSend, ho, if_pos rfl]
      rw [if_pos rfl]
      obtain ⟨p', hopen', htaken⟩ := prepare_open (k := k) h i o
      obtain ⟨q, hopen, hfills⟩ := ih (i + 1) hopen'
      rw [hopen'.goes_on, if_neg Bool.false_ne_true]
      refine ⟨q, hopen, ?_⟩
      obtain ⟨hroom, hscene, rfl⟩ | ⟨hfull, hscene, rfl⟩ := htaken
      · have hlen : (p.add ⟨decide (i = 0), false, o.content⟩).items.length =
            p.items.length + 1 := List.length_append
        have hsub : k.maxcount - p.items.length = k.maxcount - (p.items.length + 1) + 1 := by
          omega
        have hsent : ∀ l : List (Obj V),
            toSend i ({ o with changed := false } :: l) = toSend (i + 1) l := fun l => by
          rw [toSend, if_neg Bool.false_ne_true]
        have hitems := hfills.items
        have hleft := hfills.left
        rw [hlen] at hitems hleft
        rw [hscene]
        refine ⟨?_, ?_, ?_, congrArg (o.content :: ·) hfills.contents⟩
        · rw [hcons, hsub, List.take_succ_cons, hitems]
          show p.items ++ [_] ++ _ = _
          rw [List.append_assoc, List.singleton_append]
        · rw [hsent]
          exact hfills.totalLeft
        · rw [hsent, hcons, hsub, List.drop_succ_cons, hleft]
      · have hzero : k.maxcount - p.items.length = 0 := by omega
        have hitems : q.items = p.items ++
            (toSend (i + 1) objects).take (k.maxcount - p.items.length) := hfills.items
        have hleft : toSend (i + 1) (updateAll k (i + 1) objects (s.prepare k i o).2).1 =
            (toSend (i + 1) objects).drop (k.maxcount - p.items.length) := hfills.left
        have htotal : q.totalLeft = p.totalLeft + 1 +
            (toSend (i + 1) (updateAll k (i + 1) objects (s.prepare k i o).2).1).length :=
          hfills.totalLeft
        rw [hzero, List.take_zero] at hitems
        rw [hzero, List.drop_zero] at hleft
        rw [hscene]
        refine ⟨?_, ?_, ?_, congrArg (o.content :: ·) hfills.contents⟩
        · rw [hzero, List.take_zero]
          exact hitems
        · rw [hcons, List.length_cons]
          omega
        · rw [hzero, List.drop_zero, hcons, hcons, hleft]

/-- The loop between two transactions: nothing, or the next pack. -/
theorem updateAll_idle (objects : List (Obj V)) : ∀ (i : Nat) {s : Container V}, s.Idle →
    s.first = some 0 →
    toSend i objects = [] ∧ updateAll k i objects s = (objects, s) ∨
      toSend i objects ≠ [] ∧ ∃ q, Open q (updateAll k i objects s).2 ∧
        Fills k i objects ⟨[], 0⟩ (updateAll k i objects s).1 q := by
  induction objects with
  | nil => exact fun i s _ _ => .inl ⟨rfl, rfl⟩
  | cons o objects ih =>
    intro i s h hfirst
    cases ho : o.changed with
    | false =>
      have hcons : ∀ l : List (Obj V), toSend i (o :: l) = toSend (i + 1) l := fun l => by
        rw [toSend, ho, if_neg Bool.false_ne_true]
      have hupdate : updateAll k i (o :: objects) s =
          (o :: (updateAll k (i + 1) objects s).1, (updateAll k (i + 1) objects s).2) := by
        rw [updateAll, update, ho, if_neg Bool.false_ne_true, Updater.isTransactionRejected,
          Updater.isTransactionShouldEnd, h.rejected, h.started]
        rfl
      rw [hupdate, hcons]
      obtain ⟨hnil, hsame⟩ | ⟨hne, q, hopen, hfills⟩ := ih (i + 1) h hfirst
      · refine .inl ⟨hnil, ?_⟩
        rw [hsame]
      · refine .inr ⟨hne, q, hopen, ?_, ?_, ?_, congrArg (o.content :: ·) hfills.contents⟩
        · rw [hcons]
          exact hfills.items
        · rw [hcons]
          exact hfills.totalLeft
        · rw [hcons, hcons]
          exact hfills.left
    | true =>
      have hopen : Open ⟨[], 0⟩ s.beginTransaction := by
        rw [beginTransaction, h.started, if_neg Bool.false_ne_true]
        exact ⟨rfl, hfirst, rfl, rfl, rfl, rfl⟩
      have hrejected : s.beginTransaction.updater.isTransactionRejected = false := hopen.rejected
      have hupdate : s.update k i o = s.beginTransaction.update k i o := by
        rw [update_open hopen, update, ho, if_pos rfl, if_pos rfl]
        dsimp only
        rw [hrejected, if_neg Bool.false_ne_true]
      have hbegun : updateAll k i (o :: objects) s =
          updateAll k i (o :: objects) s.beginTransaction := by
        rw [updateAll, updateAll, hupdate]
      rw [hbegun]
      refine .inr ⟨fun hnil => ?_, updateAll_open (o :: objects) i hopen⟩
      rw [toSend_eq_nil, List.forall_mem_cons, ho] at hnil
      cases hnil.1

/-! ## A call -/

/-- What a call leaves between two calls. -/
structure Left (s s' : Container V) (items : List (Item V)) : Prop where
  idle : s'.Idle
  contents : s'.objects.map Obj.content = s.objects.map Obj.content
  left : toSend 0 s'.objects = items

/-- **A call** sends the next pack of the objects that are changed, or nothing where none is. -/
theorem updateRemote_spec {version : Nat} (h : s.Idle) (hversion : version ≥ k.versionMin)
    (hmax : 0 < k.maxcount) :
    (toSend 0 s.objects = [] ∧ ∃ s', s.updateRemote k version = (false, [], s') ∧
        s'.objects = s.objects ∧ s'.Idle) ∨
      toSend 0 s.objects ≠ [] ∧ ∃ s', s.updateRemote k version =
          (true, [nextPack k.maxcount (toSend 0 s.objects)], s') ∧
        Left s s' ((toSend 0 s.objects).drop k.maxcount) := by
  rw [updateRemote, if_pos hversion]
  have hobjects : s.verifyAll.objects = s.objects := by
    rw [verifyAll]
    split <;> rfl
  have hidle : s.verifyAll.Idle := by
    rw [verifyAll]
    split
    · exact h
    · exact ⟨h.pack, h.started, h.rejected⟩
  dsimp only
  rw [hobjects]
  by_cases hnil : s.objects = []
  · refine .inl ⟨by rw [hnil, toSend], { s.verifyAll with objects := [] }, ?_, hnil.symm,
      hidle.pack, hidle.started, hidle.rejected⟩
    rw [hnil, updateAll, endTransaction, hidle.started, if_neg Bool.false_ne_true]
  · have hfirst : s.verifyAll.first = some 0 := by rw [verifyAll, if_neg hnil]
    obtain ⟨hnone, hsame⟩ | ⟨hne, q, hopen, hfills⟩ :=
      updateAll_idle (k := k) s.objects 0 hidle hfirst
    · refine .inl ⟨hnone, { s.verifyAll with objects := s.objects }, ?_, rfl, hidle.pack,
        hidle.started, hidle.rejected⟩
      rw [hsame, endTransaction, hidle.started, if_neg Bool.false_ne_true]
    · refine .inr ⟨hne, { (updateAll k 0 s.objects s.verifyAll).2 with
        objects := (updateAll k 0 s.objects s.verifyAll).1
        pack := none
        first := none
        updater := { (updateAll k 0 s.objects s.verifyAll).2.updater with
          transactionStarted := false } }, ?_, ⟨rfl, rfl, hopen.rejected⟩, hfills.contents,
        hfills.left⟩
      have hitems : q.items = (toSend 0 s.objects).take k.maxcount := hfills.items
      have hpack : q = ⟨(toSend 0 s.objects).take k.maxcount,
          ((toSend 0 s.objects).drop k.maxcount).length⟩ := by
        have htotal := hfills.totalLeft.trans (Nat.zero_add _)
        rw [hfills.left] at htotal
        cases q
        exact congrArg₂ Pack.mk hitems htotal
      have hsome : 0 < q.items.length := by
        rw [hitems, List.length_take]
        exact Nat.lt_min.2 ⟨hmax, List.length_pos_iff.2 hne⟩
      have hany : (updateAll k 0 s.objects s.verifyAll).2.updater.anyUpdates = true := by
        rw [hopen.anyUpdates]
        cases hq : q.items with
        | nil => rw [hq] at hsome; cases hsome
        | cons i items => rfl
      rw [endTransaction, if_pos hopen.started, onTransactionEnd]
      dsimp only
      rw [hopen.pack]
      dsimp only
      rw [if_pos hsome, hany, hpack, nextPack]

end Container

/-! ## All calls -/

/-- What the packs of a list of items have to be. -/
structure Delivered (k : Kind) (items : List (Item V)) (packs : List (Pack (Item V))) : Prop where
  /-- every item once, in order, with the end of the list at the last -/
  items : packs.flatMap Pack.items = endLast items
  size : ∀ p ∈ packs, p.items ≠ [] ∧ p.items.length ≤ k.maxcount
  counted : Counted packs

theorem Delivered.cons {items : List (Item V)} {packs : List (Pack (Item V))}
    (hmax : 0 < k.maxcount) (hne : items ≠ [])
    (h : Delivered k (items.drop k.maxcount) packs) :
    Delivered k items (nextPack k.maxcount items :: packs) := by
  have htake : items.take k.maxcount ≠ [] := by
    rw [Ne, List.take_eq_nil_iff]
    rintro (hzero | hnil)
    · omega
    · exact hne hnil
  have hlength : (nextPack k.maxcount items).items.length = (items.take k.maxcount).length := by
    rw [items_nextPack]
    split
    · exact length_endLast _
    · rfl
  refine ⟨?_, List.forall_mem_cons.2 ⟨⟨?_, ?_⟩, h.size⟩, ?_, h.counted⟩
  · rw [List.flatMap_cons, h.items, items_nextPack]
    split
    · rename_i hdrop
      rw [hdrop, endLast, List.append_nil]
      conv_rhs => rw [← List.take_append_drop k.maxcount items, hdrop, List.append_nil]
    · rename_i hdrop
      rw [← endLast_append _ hdrop, List.take_append_drop]
  · rw [← List.length_pos_iff, hlength]
    exact List.length_pos_iff.2 htake
  · rw [hlength, List.length_take]
    exact Nat.min_le_left _ _
  · rw [totalLeft_nextPack, h.items, length_endLast]

/-- **The calls of `update_remote` come to an end**, and the packs are all that was changed: each
item once and in order, the start of the list at the front object only, the end at the last item. -/
theorem updates_deliver {version : Nat} (hversion : version ≥ k.versionMin)
    (hmax : 0 < k.maxcount) (s : Container V) (h : s.Idle) :
    ∃ n packs s', (∀ fuel, updates k version (n + fuel) s = some (packs, s')) ∧
      Delivered k (toSend 0 s.objects) packs ∧ s'.Idle ∧
      s'.objects = s.objects.map fun o => ⟨o.content, false⟩ := by
  have hclean : ∀ (l m : List (Obj V)), m.map Obj.content = l.map Obj.content →
      toSend 0 m = [] → m = l.map fun o => ⟨o.content, false⟩ := by
    intro l m hcontents hnil
    have hunchanged : m.map (fun o => (⟨o.content, false⟩ : Obj V)) = m := by
      conv_rhs => rw [← List.map_id m]
      refine List.map_congr_left fun o ho => ?_
      rw [← toSend_eq_nil.1 hnil o ho]
      rfl
    rw [← hunchanged]
    have hcomp := congrArg (List.map fun v => (⟨v, false⟩ : Obj V)) hcontents
    rwa [List.map_map, List.map_map] at hcomp
  induction hlen : (toSend 0 s.objects).length using Nat.strongRecOn generalizing s with
  | _ n ih =>
  subst hlen
  obtain ⟨hnil, s', hcall, hsame, hidle⟩ | ⟨hne, s', hcall, hleft⟩ :=
    Container.updateRemote_spec h hversion hmax
  · refine ⟨1, [], s', fun fuel => ?_, ⟨by rw [hnil]; rfl, fun p hp => (by cases hp), trivial⟩,
      hidle, ?_⟩
    · rw [Nat.add_comm, updates, hcall]
      rfl
    · exact hsame.trans (hclean s.objects s.objects rfl hnil)
  · have hless : (toSend 0 s'.objects).length < (toSend 0 s.objects).length := by
      rw [hleft.left, List.length_drop]
      have hpos := List.length_pos_iff.2 hne
      omega
    obtain ⟨n, packs, s'', hrun, hdelivered, hidle, hobjects⟩ := ih _ hless s' hleft.idle rfl
    refine ⟨n + 1, nextPack k.maxcount (toSend 0 s.objects) :: packs, s'', fun fuel => ?_, ?_,
      hidle, ?_⟩
    · rw [Nat.add_right_comm, updates, hcall]
      dsimp only
      rw [if_pos rfl, hrun]
      rfl
    · refine Delivered.cons hmax hne ?_
      rw [← hleft.left]
      exact hdelivered
    · rw [hobjects]
      have hcomp := congrArg (List.map fun v => (⟨v, false⟩ : Obj V)) hleft.contents
      rwa [List.map_map, List.map_map] at hcomp

/-- What was loaded is all delivered, between the start and the end of the list. -/
theorem loaded_delivered {version : Nat} (hversion : version ≥ k.versionMin)
    (hmax : 0 < k.maxcount) {l : List V} {s : Container V} (h : s.Idle)
    (hloaded : s.objects = l.map fun v => ⟨v, true⟩) :
    ∃ n packs s', (∀ fuel, updates k version (n + fuel) s = some (packs, s')) ∧
      Delivered k (wholeList l) packs := by
  obtain ⟨n, packs, s', hrun, hdelivered, -⟩ := updates_deliver hversion hmax s h
  refine ⟨n, packs, s', hrun, ?_⟩
  rw [← toSend_loaded, ← hloaded]
  exact hdelivered

theorem relations_delivered {version : Nat} (hversion : version ≥ 21) (relations : List V)
    (empty : V) {s : Container V} (h : s.Idle) :
    ∃ n packs s', (∀ fuel, updates channelRelation version (n + fuel)
        (s.loadRelations relations empty) = some (packs, s')) ∧
      Delivered channelRelation (wholeList (relations ++ [empty])) packs :=
  loaded_delivered hversion (by decide) ⟨h.pack, h.started, h.rejected⟩ rfl

theorem states_delivered {version : Nat} (hversion : version ≥ 26) (states : List V)
    {s : Container V} (h : s.Idle) :
    ∃ n packs s', (∀ fuel, updates channelState version (n + fuel)
        (s.loadStates version states) = some (packs, s')) ∧
      Delivered channelState (wholeList states) packs := by
  rw [Container.loadStates, if_pos (show version ≥ channelState.versionMin from hversion)]
  exact loaded_delivered hversion (by decide) ⟨h.pack, h.started, h.rejected⟩ rfl

/-- Of three relations the second has been sent. -/
theorem updates_deliver_three : ∃ n packs s', (∀ fuel, updates channelRelation 28 (n + fuel)
      (⟨[⟨7, true⟩, ⟨8, false⟩, ⟨0, true⟩], .init, none, none⟩ : Container Nat) =
        some (packs, s')) ∧
    Delivered channelRelation [⟨true, false, 7⟩, ⟨false, false, 0⟩] packs := by
  obtain ⟨n, packs, s', hrun, hdelivered, -⟩ :=
    updates_deliver (show 28 ≥ channelRelation.versionMin by decide) (by decide)
      (⟨[⟨7, true⟩, ⟨8, false⟩, ⟨0, true⟩], .init, none, none⟩ : Container Nat) ⟨rfl, rfl, rfl⟩
  exact ⟨n, packs, s', hrun, hdelivered⟩

end Dobject.PackUpdater
