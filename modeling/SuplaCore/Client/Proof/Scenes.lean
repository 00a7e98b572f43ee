import SuplaCore.Client.Scenes

/-!
# Concurrent senders of scenes

A pass adds what has changed to the open pack and clears the indicators (`Grows`, `update_spec`);
what is in a pack that has not been handed over is still going to be (`Settled`). While a thread
looks for the open transaction only when no other ends it, and passes over changed scenes only when
no pack stands between its hand-over and the clearing of its pointer (`Apart`), the pointers are
good and nothing is lost (`updates_survive`). Otherwise a change is added to a pack that is already
gone (`update_lost`).
-/

namespace Client.Scenes

open Sys

variable {S : Type} {s s' : Container S}

/-! ## What has to hold -/

/-- The item was handed over, and the scene has not changed in this way since. -/
def Sent (place : Nat) (k : Kind) (item : Item S) : List (Event S) → Prop
  | [] => False
  | .changed p l :: log => ¬ (p = place ∧ l = k) ∧ Sent place k item log
  | .handed items :: log => item ∈ items ∨ Sent place k item log

/-- No thread is inside `update_remote`. -/
def Container.Quiet (s : Container S) : Prop := ∀ t, ∃ b, s.pcs t = .idle b

/-- The thread has found the transaction open and has not closed it. -/
def Pc.Ending : Pc → Prop
  | .check _ => True
  | .count _ => True
  | .setEol _ => True
  | .hand _ => True
  | .delete _ => True
  | .null _ => True
  | .finish => True
  | _ => False

/-- The pack is handed over and its pointer is not yet cleared. -/
def Pc.Releasing (k : Kind) (pc : Pc) : Prop := pc = .delete k ∨ pc = .null k

theorem Pc.Releasing.ending {k : Kind} {pc : Pc} (h : pc.Releasing k) : pc.Ending := by
  rcases h with rfl | rfl <;> trivial

/-- **The discipline**: a thread passes over changed scenes while no other stands between a
hand-over and the clearing of the pointer, and finds the transaction open while no other ends it. -/
def Apart (s : Container S) : Act S → Prop
  | .thread t =>
    match s.pcs t with
    | .entered => (∃ sc ∈ s.scenes, sc.isChanged = true) → ∀ u k, ¬ (s.pcs u).Releasing k
    | .passed => s.updater.transactionStarted = true → ∀ u, ¬ (s.pcs u).Ending
    | _ => True
  | _ => True

/-! ## The invariant -/

/-- The item is in the open pack, which has yet to be handed over. -/
def Container.Queued (s : Container S) (k : Kind) (item : Item S) : Prop :=
  ∃ p, s.pack k = some p ∧ (s.heap p).handed = false ∧ item ∈ (s.heap p).items

/-- What the indicator of a scene says was sent, has been or will be. -/
def Container.Settled (s : Container S) (place : Nat) (sc : Scene S) : Prop :=
  ∀ k, sc.indicator.changed k = false →
    Sent place k (sc.convert k) s.log ∨ s.Queued k (sc.convert k)

/-- The pointers outside a transaction and in one. -/
structure Container.Pointers (s : Container S) : Prop where
  closed : s.updater.transactionStarted = false → ∀ k, s.pack k = none
  single : s.pack .scene = none ∨ s.pack .state = none
  inTime : s.addedLate = false
  valid : s.misused = false

/-- The thread is done with the pack. -/
def Pc.Behind (k : Kind) : Pc → Prop
  | .check l => k = .scene ∧ l = .state
  | .count l => k = .scene ∧ l = .state
  | .setEol l => k = .scene ∧ l = .state
  | .hand l => k = .scene ∧ l = .state
  | .delete l => k = .scene ∧ l = .state
  | .null l => k = .scene ∧ l = .state
  | .finish => True
  | _ => False

/-- The thread is about to use the pack. -/
def Pc.Uses (k : Kind) (pc : Pc) : Prop := pc = .count k ∨ pc = .setEol k ∨ pc = .hand k

/-- What a thread relies on that ends the transaction. -/
structure Container.EndsAt (s : Container S) (pc : Pc) : Prop where
  started : s.updater.transactionStarted = true
  holds : ∀ k, pc.Uses k ∨ pc.Releasing k → (s.pack k).isSome = true
  released : ∀ k p, pc.Releasing k → s.pack k = some p →
    (s.heap p).handed = true ∨ (s.heap p).items = []
  behind : ∀ k, pc.Behind k → s.pack k = none

structure Inv (s : Container S) : Prop where
  pointers : s.Pointers
  settled : ∀ place sc, s.scenes[place]? = some sc → s.Settled place sc
  one : ∀ t u, (s.pcs t).Ending → (s.pcs u).Ending → t = u
  endsAt : ∀ t, (s.pcs t).Ending → s.EndsAt (s.pcs t)
  seen : s.updater.transactionStarted = true → ∃ t, s.pcs t = .passed ∨ (s.pcs t).Ending
  handed : ∀ k p, s.pack k = some p → (s.heap p).handed = true → ∃ t, (s.pcs t).Releasing k
  deleted : ∀ k p, s.pack k = some p → (s.heap p).deleted = true → ∃ t, s.pcs t = .null k

/-- No pack has been handed over or deleted. -/
def Container.Fresh (s : Container S) : Prop :=
  ∀ k p, s.pack k = some p → (s.heap p).handed = false ∧ (s.heap p).deleted = false

/-- What a pass does to the packs: the open one stays and takes items. -/
structure Container.Grows (s s' : Container S) : Prop where
  pcs : s'.pcs = s.pcs
  log : s'.log = s.log
  scenes : s'.scenes = s.scenes
  items : ∀ k item, s.Queued k item → s'.Queued k item
  started : s.updater.transactionStarted = true →
    s'.updater.transactionStarted = true ∧ s'.pack = s.pack

namespace Container.Grows

theorem refl (s : Container S) : s.Grows s :=
  ⟨rfl, rfl, rfl, fun _ _ h => h, fun h => ⟨h, rfl⟩⟩

theorem trans {s₂ : Container S} (h : s.Grows s') (h' : s'.Grows s₂) : s.Grows s₂ :=
  ⟨h'.pcs.trans h.pcs, h'.log.trans h.log, h'.scenes.trans h.scenes,
    fun k item hq => h'.items k item (h.items k item hq), fun hs =>
      have hs' := h.started hs
      ⟨(h'.started hs'.1).1, (h'.started hs'.1).2.trans hs'.2⟩⟩

theorem settled (h : s.Grows s') {place : Nat} {sc sc' : Scene S} (hset : s.Settled place sc)
    (hconvert : ∀ k, sc'.convert k = sc.convert k)
    (hchanged : ∀ k, sc'.indicator.changed k = false →
      sc.indicator.changed k = false ∨ s'.Queued k (sc.convert k)) : s'.Settled place sc' := by
  intro k hk
  rw [hconvert, h.log]
  rcases hchanged k hk with hc | hq
  · exact (hset k hc).imp_right (h.items k _)
  · exact .inr hq

end Container.Grows

/-- What one turn of the loop leaves. -/
structure Container.Turn (s : Container S) (sc : Scene S) (r : Scene S × Container S) : Prop where
  pointers : r.2.Pointers
  fresh : r.2.Fresh
  grows : s.Grows r.2
  convert : ∀ k, r.1.convert k = sc.convert k
  changed : ∀ k, r.1.indicator.changed k = false →
    sc.indicator.changed k = false ∨ r.2.Queued k (sc.convert k)

theorem Container.Turn.same (hp : s.Pointers) (hf : s.Fresh) (sc : Scene S) : s.Turn sc (sc, s) :=
  ⟨hp, hf, .refl s, fun _ => rfl, fun _ h => .inl h⟩

/-- A transaction begins with an empty pack of one kind. -/
theorem openPack_begins (hp : s.Pointers) (hn : s.updater.transactionStarted = false) (k : Kind) :
    Container.Pointers { s.openPack k with updater := ⟨true, false, false, false⟩ } ∧
      Container.Fresh { s.openPack k with updater := ⟨true, false, false, false⟩ } ∧
      s.Grows { s.openPack k with updater := ⟨true, false, false, false⟩ } := by
  have hnone := hp.closed hn
  have hopen : s.openPack k = { s with
      heap := fun q => if q = s.next then .empty else s.heap q
      next := s.next + 1 }.setPointer k (some s.next) := by
    rw [Container.openPack, hnone k]
  have hpack : ∀ l p, (s.openPack k).pack l = some p → l = k ∧ p = s.next := by
    intro l p hl
    rw [hopen] at hl
    simp only [Container.setPointer] at hl
    split at hl
    · rename_i hlk
      exact ⟨hlk, (Option.some.inj hl).symm⟩
    · rw [hnone l] at hl
      cases hl
  refine ⟨⟨fun h => (by cases h), ?_, ?_, ?_⟩, fun l p hl => ?_, ?_⟩
  · cases k with
    | scene =>
      exact .inr (Option.eq_none_iff_forall_ne_some.mpr fun p h => by cases (hpack _ p h).1)
    | state =>
      exact .inl (Option.eq_none_iff_forall_ne_some.mpr fun p h => by cases (hpack _ p h).1)
  · rw [hopen]
    exact hp.inTime
  · rw [hopen]
    exact hp.valid
  · obtain ⟨-, rfl⟩ := hpack l p hl
    have hempty : (s.openPack k).heap s.next = .empty := by
      rw [hopen]
      exact if_pos rfl
    exact ⟨by rw [hempty]; rfl, by rw [hempty]; rfl⟩
  · refine ⟨by rw [hopen]; rfl, by rw [hopen]; rfl, by rw [hopen]; rfl, fun l item hq => ?_,
      fun hs => absurd (hs.symm.trans hn) (by decide)⟩
    obtain ⟨p, hl, -⟩ := hq
    rw [hnone l] at hl
    cases hl

theorem beginTransaction_spec (hp : s.Pointers) (hf : s.Fresh)
    (hn : s.updater.transactionStarted = false) (sc : Scene S) :
    (s.beginTransaction sc).Pointers ∧ (s.beginTransaction sc).Fresh ∧
      s.Grows (s.beginTransaction sc) := by
  have hrejected : ∀ u : Container S,
      u = { s with updater := { s.updater with transactionRejected := true } } →
        u.Pointers ∧ u.Fresh ∧ s.Grows u := by
    rintro u rfl
    exact ⟨⟨fun _ => hp.closed hn, hp.single, hp.inTime, hp.valid⟩, hf,
      ⟨rfl, rfl, rfl, fun _ _ h => h, fun h => ⟨h, rfl⟩⟩⟩
  unfold Container.beginTransaction
  rw [hn, if_neg Bool.false_ne_true]
  unfold Container.onTransactionBegin
  by_cases hscene : (s.anySceneChanged || sc.indicator.sceneChanged) = true
  · rw [if_pos hscene]
    exact openPack_begins hp hn .scene
  · rw [if_neg hscene]
    by_cases hstate : sc.indicator.stateChanged = true
    · rw [if_pos hstate]
      exact openPack_begins hp hn .state
    · rw [if_neg hstate]
      exact hrejected _ rfl

/-- An access that keeps the items, to a block that is there. -/
theorem access_spec {p : Nat} {f : Pack S → Pack S} (hp : s.Pointers) (hf : s.Fresh)
    (hdeleted : (s.heap p).deleted = false)
    (hkeep : ∀ b, (f b).handed = b.handed ∧ (f b).deleted = b.deleted ∧
      ∀ item ∈ b.items, item ∈ (f b).items) :
    (s.access p f).Pointers ∧ (s.access p f).Fresh ∧ s.Grows (s.access p f) := by
  have hheap : ∀ q, ((s.access p f).heap q).handed = (s.heap q).handed ∧
      ((s.access p f).heap q).deleted = (s.heap q).deleted ∧
      ∀ item ∈ (s.heap q).items, item ∈ ((s.access p f).heap q).items := by
    intro q
    simp only [Container.access]
    split
    · rename_i hq
      exact hq ▸ hkeep (s.heap p)
    · exact ⟨rfl, rfl, fun _ h => h⟩
  refine ⟨⟨hp.closed, hp.single, hp.inTime, ?_⟩, fun k q hk => ?_,
    ⟨rfl, rfl, rfl, ?_, fun h => ⟨h, rfl⟩⟩⟩
  · simp only [Container.access, hp.valid, hdeleted, Bool.or_self]
  · exact ⟨(hheap q).1.trans (hf k q hk).1, (hheap q).2.1.trans (hf k q hk).2⟩
  · rintro k item ⟨q, hk, hhanded, hitem⟩
    exact ⟨q, hk, (hheap q).1.trans hhanded, (hheap q).2.2 item hitem⟩

/-- An item is added to a pack that no one has handed over. -/
theorem datapackAdd_spec {k : Kind} {p : Nat} (hp : s.Pointers) (hf : s.Fresh)
    (hk : s.pack k = some p) (item : Item S) :
    (s.datapackAdd p item).2.Pointers ∧ (s.datapackAdd p item).2.Fresh ∧
      s.Grows (s.datapackAdd p item).2 ∧
      ((s.datapackAdd p item).1 = true → (s.datapackAdd p item).2.Queued k item) := by
  obtain ⟨hhanded, hdeleted⟩ := hf k p hk
  unfold Container.datapackAdd
  split
  · have hsame :
        { s with addedLate := s.addedLate || (s.heap p).handed || (s.heap p).deleted } = s := by
      rw [hhanded, hdeleted, Bool.or_false, Bool.or_false]
    rw [hsame]
    obtain ⟨hp', hf', hgrows⟩ := @access_spec S s p (fun b => { b with items := b.items ++ [item] })
      hp hf hdeleted fun b => ⟨rfl, rfl, fun i hi => List.mem_append_left _ hi⟩
    refine ⟨hp', hf', hgrows, fun _ => ⟨p, hk, ?_, ?_⟩⟩
    · exact (hf' k p hk).1
    · simp only [Container.access, if_pos]
      exact List.mem_append_right _ (List.mem_singleton.mpr rfl)
  · obtain ⟨hp', hf', hgrows⟩ := @access_spec S s p
      (fun b => { b with totalLeft := b.totalLeft + 1 })
      hp hf hdeleted fun b => ⟨rfl, rfl, fun i hi => hi⟩
    exact ⟨hp', hf', hgrows, fun h => by cases h⟩

/-- The indicator says no more that the change has yet to be sent. -/
theorem set_changed {k l : Kind} {ind : Indicator} (h : (ind.set k false).changed l = false) :
    ind.changed l = false ∨ l = k := by
  cases k <;> cases l
  · exact .inr rfl
  · exact .inl h
  · exact .inl h
  · exact .inr rfl

theorem prepareTheUpdate_turn (hp : s.Pointers) (hf : s.Fresh) (sc : Scene S) :
    s.Turn sc ((s.prepareTheUpdate sc).2.1, (s.prepareTheUpdate sc).2.2) := by
  have hadded : ∀ k p, s.pack k = some p → ∀ r, s.datapackAdd p (sc.convert k) = r →
      s.Turn sc (if r.1 then { sc with indicator := sc.indicator.set k false } else sc, r.2) := by
    rintro k p hk r rfl
    obtain ⟨hp', hf', hgrows, hqueued⟩ := datapackAdd_spec hp hf hk (sc.convert k)
    cases hr : (s.datapackAdd p (sc.convert k)).1 with
    | false => exact ⟨hp', hf', hgrows, fun _ => rfl, fun _ h => .inl h⟩
    | true =>
      refine ⟨hp', hf', hgrows, fun l => by cases l <;> rfl, fun l hl => ?_⟩
      rcases set_changed hl with hl | rfl
      · exact .inl hl
      · exact .inr (hqueued hr)
  unfold Container.prepareTheUpdate
  split
  · rename_i p hk
    split
    · have hturn := hadded .scene p hk _ rfl
      cases hr : s.datapackAdd p (sc.convert .scene) with
      | mk b u =>
        rw [hr] at hturn
        cases b <;> exact hturn
    · exact .same hp hf sc
  · rename_i p _ hk
    split
    · have hturn := hadded .state p hk _ rfl
      cases hr : s.datapackAdd p (sc.convert .state) with
      | mk b u =>
        rw [hr] at hturn
        cases b <;> exact hturn
    · exact .same hp hf sc
  · exact .same hp hf sc

/-- **One turn of the loop**: a scene loses a mark only when its item is in the open pack. -/
theorem update_turn (hp : s.Pointers) (hf : s.Fresh) (sc : Scene S) :
    s.Turn sc (s.update sc) := by
  have hprepare : ∀ u : Container S, u.Pointers → u.Fresh → s.Grows u →
      s.Turn sc (u.prepare sc) := by
    intro u hp hf hgrows
    have hturn := prepareTheUpdate_turn hp hf sc
    unfold Container.prepare
    cases hr : u.prepareTheUpdate sc with
    | mk b r =>
      rw [hr] at hturn
      have hgrown := hgrows.trans hturn.grows
      cases b with
      | false => exact ⟨hturn.pointers, hturn.fresh, hgrown, hturn.convert, hturn.changed⟩
      | true =>
        exact ⟨⟨hturn.pointers.closed, hturn.pointers.single, hturn.pointers.inTime,
            hturn.pointers.valid⟩, hturn.fresh,
          ⟨hgrown.pcs, hgrown.log, hgrown.scenes, hgrown.items, hgrown.started⟩, hturn.convert,
          hturn.changed⟩
  unfold Container.update
  split
  · split
    · exact hprepare s hp hf (.refl s)
    · rename_i hn
      obtain ⟨hp', hf', hgrows⟩ := beginTransaction_spec hp hf (Bool.eq_false_iff.mpr hn) sc
      dsimp only
      split
      · exact ⟨hp', hf', hgrows, fun _ => rfl, fun _ h => .inl h⟩
      · exact hprepare _ hp' hf' hgrows
  · exact .same hp hf sc

/-- **The loop** settles what it takes from the scenes. -/
theorem updateAll_spec (scenes : List (Scene S)) : ∀ {s : Container S}, s.Pointers → s.Fresh →
    (Container.updateAll scenes s).2.Pointers ∧ (Container.updateAll scenes s).2.Fresh ∧
      s.Grows (Container.updateAll scenes s).2 ∧
      ∀ (place : Nat) (sc' : Scene S), (Container.updateAll scenes s).1[place]? = some sc' →
        ∃ sc : Scene S, scenes[place]? = some sc ∧ (∀ k, sc'.convert k = sc.convert k) ∧
          ∀ k, sc'.indicator.changed k = false → sc.indicator.changed k = false ∨
            (Container.updateAll scenes s).2.Queued k (sc.convert k) := by
  induction scenes with
  | nil => exact fun hp hf => ⟨hp, hf, .refl _, fun place sc' h => by cases h⟩
  | cons sc scenes ih =>
    intro s hp hf
    have hturn := update_turn hp hf sc
    unfold Container.updateAll
    dsimp only
    split
    · refine ⟨hturn.pointers, hturn.fresh, hturn.grows, fun place sc' h => ?_⟩
      cases place with
      | zero =>
        cases h
        exact ⟨sc, rfl, hturn.convert, hturn.changed⟩
      | succ place => exact ⟨sc', h, fun _ => rfl, fun _ h => .inl h⟩
    · obtain ⟨hp', hf', hgrows, hrest⟩ := ih hturn.pointers hturn.fresh
      refine ⟨hp', hf', hturn.grows.trans hgrows, fun place sc' h => ?_⟩
      cases place with
      | zero =>
        cases h
        exact ⟨sc, rfl, hturn.convert, fun k hk =>
          (hturn.changed k hk).imp_right (hgrows.items k _)⟩
      | succ place => exact hrest place sc' h

/-- Without a changed scene the loop does nothing. -/
theorem updateAll_unchanged {scenes : List (Scene S)}
    (h : ∀ sc ∈ scenes, sc.isChanged = false) (s : Container S) :
    Container.updateAll scenes s = (scenes, s) := by
  induction scenes with
  | nil => rfl
  | cons sc scenes ih =>
    have hupdate : s.update sc = (sc, s) := by
      rw [Container.update, if_neg (Bool.eq_false_iff.mp (h sc (List.mem_cons_self ..)))]
    have hrest := ih fun sc' hsc' => h sc' (List.mem_cons_of_mem _ hsc')
    unfold Container.updateAll
    rw [hupdate]
    dsimp only
    rw [hrest]
    split <;> rfl

/-! ## The steps -/

/-- A thread moves where it neither ends a transaction nor is about to. -/
theorem Inv.move (h : Inv s) {t : Nat} {pc : Pc} (ht : ¬ (s.pcs t).Ending)
    (hseen : s.pcs t = .passed → s.updater.transactionStarted = true → pc = .passed)
    (hpc : ¬ pc.Ending) : Inv (s.setPc t pc) := by
  have hother : ∀ {u}, ((s.setPc t pc).pcs u).Ending → (s.setPc t pc).pcs u = s.pcs u := by
    intro u hu
    simp only [Container.setPc] at hu ⊢
    split
    · rename_i heq
      rw [if_pos heq] at hu
      exact absurd hu hpc
    · rfl
  have hback : ∀ {u}, (s.pcs u).Ending → (s.setPc t pc).pcs u = s.pcs u := by
    intro u hu
    refine if_neg fun heq => ?_
    rw [heq] at hu
    exact ht hu
  refine ⟨⟨h.pointers.closed, h.pointers.single, h.pointers.inTime, h.pointers.valid⟩, h.settled,
    fun u v hu hv => ?_, fun u hu => ?_, fun hs => ?_, fun k p hp hh => ?_, fun k p hp hd => ?_⟩
  · exact h.one u v (hother hu ▸ hu) (hother hv ▸ hv)
  · have hu' := h.endsAt u (hother hu ▸ hu)
    rw [hother hu]
    exact ⟨hu'.started, hu'.holds, hu'.released, hu'.behind⟩
  · obtain ⟨u, hu⟩ := h.seen hs
    rcases hu with hu | hu
    · by_cases heq : u = t
      · subst heq
        exact ⟨u, .inl ((if_pos rfl).trans (hseen hu hs))⟩
      · exact ⟨u, .inl ((if_neg heq).trans hu)⟩
    · exact ⟨u, .inr (by rw [hback hu]; exact hu)⟩
  · obtain ⟨u, hu⟩ := h.handed k p hp hh
    exact ⟨u, by rw [hback hu.ending]; exact hu⟩
  · obtain ⟨u, hu⟩ := h.deleted k p hp hd
    have hending : (s.pcs u).Ending := by
      rw [hu]
      trivial
    exact ⟨u, by rw [hback hending]; exact hu⟩

/-- The pass under the lock, with no pack on its way out. -/
theorem Inv.lockedPass (h : Inv s) {t : Nat} (ht : s.pcs t = .entered)
    (hapart : (∃ sc ∈ s.scenes, sc.isChanged = true) → ∀ u k, ¬ (s.pcs u).Releasing k) :
    Inv (s.lockedPass.setPc t .passed) := by
  by_cases hchanged : ∃ sc ∈ s.scenes, sc.isChanged = true
  · have hfresh : Container.Fresh { s with
        anySceneChanged := Container.verifyAll true s.scenes s.anySceneChanged } := by
      intro k p hk
      constructor
      · refine Bool.eq_false_iff.mpr fun hh => ?_
        obtain ⟨u, hu⟩ := h.handed k p hk hh
        exact hapart hchanged u k hu
      · refine Bool.eq_false_iff.mpr fun hd => ?_
        obtain ⟨u, hu⟩ := h.deleted k p hk hd
        exact hapart hchanged u k (.inr hu)
    obtain ⟨hp', hf', hgrows, hscenes⟩ := updateAll_spec s.scenes (s := { s with
        anySceneChanged := Container.verifyAll true s.scenes s.anySceneChanged })
      ⟨h.pointers.closed, h.pointers.single, h.pointers.inTime, h.pointers.valid⟩ hfresh
    have hpcs : ∀ u, ((s.lockedPass.setPc t .passed).pcs u) = if u = t then .passed else s.pcs u :=
      fun u => by
        simp only [Container.setPc, Container.lockedPass]
        rw [hgrows.pcs]
    have hending : ∀ u, ((s.lockedPass.setPc t .passed).pcs u).Ending →
        u ≠ t ∧ (s.pcs u).Ending ∧ (s.lockedPass.setPc t .passed).pcs u = s.pcs u := by
      intro u hu
      rw [hpcs] at hu ⊢
      split at hu
      · exact hu.elim
      · rename_i hne
        exact ⟨hne, hu, if_neg hne⟩
    refine ⟨⟨hp'.closed, hp'.single, hp'.inTime, hp'.valid⟩, fun place sc' hsc' => ?_,
      fun u v hu hv => h.one u v (hending u hu).2.1 (hending v hv).2.1, fun u hu => ?_,
      fun _ => ⟨t, .inl ((hpcs t).trans (if_pos rfl))⟩, fun k p hp hh => ?_, fun k p hp hd => ?_⟩
    · obtain ⟨sc, hsc, hconvert, hmarks⟩ := hscenes place sc' hsc'
      exact hgrows.settled (h.settled place sc hsc) hconvert hmarks
    · obtain ⟨hne, hu', heq⟩ := hending u hu
      have hends := h.endsAt u hu'
      obtain ⟨hstarted, hpack⟩ := hgrows.started hends.started
      rw [heq]
      refine ⟨hstarted, fun k hk => ?_, fun k p hk => (hapart hchanged u k hk).elim, fun k hk => ?_⟩
      · exact (congrFun hpack k) ▸ hends.holds k hk
      · exact (congrFun hpack k).trans (hends.behind k hk)
    · exact absurd (hh.symm.trans (hf' k p hp).1) (by decide)
    · exact absurd (hd.symm.trans (hf' k p hp).2) (by decide)
  · have hunchanged : ∀ sc ∈ s.scenes, sc.isChanged = false := fun sc hsc =>
      Bool.eq_false_iff.mpr fun hc => hchanged ⟨sc, hsc, hc⟩
    have hpass : s.lockedPass =
        { s with anySceneChanged := Container.verifyAll true s.scenes s.anySceneChanged } := by
      unfold Container.lockedPass
      rw [updateAll_unchanged hunchanged]
    rw [hpass]
    have hs : Inv { s with
        anySceneChanged := Container.verifyAll true s.scenes s.anySceneChanged } :=
      ⟨⟨h.pointers.closed, h.pointers.single, h.pointers.inTime, h.pointers.valid⟩, h.settled,
        h.one, fun u hu => ⟨(h.endsAt u hu).started, (h.endsAt u hu).holds,
          (h.endsAt u hu).released, (h.endsAt u hu).behind⟩, h.seen, h.handed, h.deleted⟩
    refine hs.move ?_ (fun _ _ => rfl) id
    rw [ht]
    exact id

/-- The thread `t` is the only one that ends a transaction, and goes on to `pc`. -/
theorem Inv.endStep (h : Inv s) {t : Nat} (honly : ∀ u, (s.pcs u).Ending → u = t)
    {u : Container S} {pc : Pc} (hpc : pc.Ending) (hscenes : u.scenes = s.scenes)
    (hpcs : u.pcs = s.pcs) (hpointers : u.Pointers)
    (hsettled : ∀ place sc, s.Settled place sc → u.Settled place sc) (hends : u.EndsAt pc)
    (hhanded : ∀ k p, u.pack k = some p → (u.heap p).handed = true → pc.Releasing k)
    (hdeleted : ∀ k p, u.pack k = some p → (u.heap p).deleted = true → pc = .null k) :
    Inv (u.setPc t pc) := by
  have hself : (u.setPc t pc).pcs t = pc := if_pos rfl
  have honly' : ∀ v, ((u.setPc t pc).pcs v).Ending → v = t := by
    intro v hv
    simp only [Container.setPc] at hv
    split at hv
    · assumption
    · rw [hpcs] at hv
      exact honly v hv
  refine ⟨⟨hpointers.closed, hpointers.single, hpointers.inTime, hpointers.valid⟩,
    fun place sc hsc => hsettled place sc (h.settled place sc (hscenes ▸ hsc)),
    fun v w hv hw => (honly' v hv).trans (honly' w hw).symm, fun v hv => ?_,
    fun _ => ⟨t, .inr (by rw [hself]; exact hpc)⟩,
    fun k p hp hh => ⟨t, by rw [hself]; exact hhanded k p hp hh⟩,
    fun k p hp hd => ⟨t, hself.trans (hdeleted k p hp hd)⟩⟩
  rw [honly' v hv, hself]
  exact ⟨hends.started, hends.holds, hends.released, hends.behind⟩

section Ender
variable {t : Nat} {k : Kind} {p : Nat}

theorem Inv.only (h : Inv s) (ht : (s.pcs t).Ending) (u : Nat) (hu : (s.pcs u).Ending) : u = t :=
  h.one u t hu ht

/-- Only the thread that ends the transaction hands packs over. -/
theorem Inv.handed_at (h : Inv s) (ht : (s.pcs t).Ending) {l : Kind} (hp : s.pack l = some p)
    (hh : (s.heap p).handed = true) : (s.pcs t).Releasing l := by
  obtain ⟨u, hu⟩ := h.handed l p hp hh
  exact h.only ht u hu.ending ▸ hu

theorem Inv.deleted_at (h : Inv s) (ht : (s.pcs t).Ending) {l : Kind} (hp : s.pack l = some p)
    (hd : (s.heap p).deleted = true) : s.pcs t = .null l := by
  obtain ⟨u, hu⟩ := h.deleted l p hp hd
  have hending : (s.pcs u).Ending := by
    rw [hu]
    trivial
  exact h.only ht u hending ▸ hu

/-- One pack is open at a time. -/
theorem Container.Pointers.eq_of_some (h : s.Pointers) {l : Kind} {q : Nat}
    (hp : s.pack k = some p) (hq : s.pack l = some q) : l = k := by
  rcases h.single with hn | hn <;> cases k <;> cases l <;> first
    | rfl
    | (rw [hn] at hp; cases hp)
    | (rw [hn] at hq; cases hq)

/-- The block behind the pointer, after an access. -/
theorem access_heap (f : Pack S → Pack S) (p : Nat) (s : Container S) :
    (s.access p f).heap p = f (s.heap p) := if_pos rfl

theorem access_pointers {f : Pack S → Pack S} (h : s.Pointers)
    (hd : (s.heap p).deleted = false) : (s.access p f).Pointers :=
  ⟨h.closed, h.single, h.inTime, by
    simp only [Container.access, h.valid, hd, Bool.or_self]⟩

/-- An access through the only pointer says all of the packs that are open. -/
theorem access_open {f : Pack S → Pack S} (h : s.Pointers) (hp : s.pack k = some p) {l : Kind}
    {q : Nat} (hq : (s.access p f).pack l = some q) :
    l = k ∧ (s.access p f).heap q = f (s.heap p) := by
  obtain rfl : l = k := h.eq_of_some hp hq
  obtain rfl : p = q := Option.some.inj (hp.symm.trans hq)
  exact ⟨rfl, access_heap f p s⟩

/-- A thread that has found the transaction open begins to end it. -/
theorem Inv.begin (h : Inv s) (hstarted : s.updater.transactionStarted = true)
    (hapart : ∀ u, ¬ (s.pcs u).Ending) : Inv (s.setPc t (.check .scene)) := by
  refine h.endStep (fun u hu => (hapart u hu).elim) trivial rfl rfl h.pointers (fun _ _ h => h)
    ⟨hstarted, fun k hk => ?_, fun k p hk => ?_, fun k hk => ?_⟩ (fun k p hp hh => ?_)
    fun k p hp hd => ?_
  · rcases hk with (hk | hk | hk) | (hk | hk) <;> cases hk
  · rcases hk with hk | hk <;> cases hk
  · cases hk.2
  · obtain ⟨u, hu⟩ := h.handed k p hp hh
    exact (hapart u hu.ending).elim
  · obtain ⟨u, hu⟩ := h.deleted k p hp hd
    refine (hapart u ?_).elim
    rw [hu]
    trivial

/-- Done with a pack: its pointer is cleared, or was null. -/
theorem Inv.afterPack (h : Inv s) (ht : (s.pcs t).Ending) {u : Container S}
    (hscenes : u.scenes = s.scenes) (hpcs : u.pcs = s.pcs) (hpointers : u.Pointers)
    (hupdater : u.updater = s.updater)
    (hsettled : ∀ place sc, s.Settled place sc → u.Settled place sc)
    (hnone : u.pack k = none) (hbehind : k = .state → u.pack .scene = none)
    (hfresh : u.Fresh) : Inv (u.setPc t (Container.afterPack k)) := by
  have hstarted := (h.endsAt t ht).started
  cases k with
  | scene =>
    refine h.endStep (h.only ht) trivial hscenes hpcs hpointers hsettled
      ⟨hupdater ▸ hstarted, fun l hl => ?_, fun l p hl => ?_, fun l hl => ?_⟩
      (fun l p hp hh => absurd (hh.symm.trans (hfresh l p hp).1) (by decide))
      fun l p hp hd => absurd (hd.symm.trans (hfresh l p hp).2) (by decide)
    · rcases hl with (hl | hl | hl) | (hl | hl) <;> cases hl
    · rcases hl with hl | hl <;> cases hl
    · exact hl.1 ▸ hnone
  | state =>
    refine h.endStep (h.only ht) trivial hscenes hpcs hpointers hsettled
      ⟨hupdater ▸ hstarted, fun l hl => ?_, fun l p hl => ?_, fun l hl => ?_⟩
      (fun l p hp hh => absurd (hh.symm.trans (hfresh l p hp).1) (by decide))
      fun l p hp hd => absurd (hd.symm.trans (hfresh l p hp).2) (by decide)
    · rcases hl with (hl | hl | hl) | (hl | hl) <;> cases hl
    · rcases hl with hl | hl <;> cases hl
    · cases l with
      | scene => exact hbehind rfl
      | state => exact hnone

/-- What a thread in `on_transaction_end` has put behind it. -/
theorem Inv.behind_state (h : Inv s) (ht : s.pcs t = .check .state ∨ s.pcs t = .null .state) :
    s.pack .scene = none := by
  have hending : (s.pcs t).Ending := by rcases ht with ht | ht <;> rw [ht] <;> trivial
  refine (h.endsAt t hending).behind .scene ?_
  rcases ht with ht | ht <;> rw [ht] <;> exact ⟨rfl, rfl⟩

theorem Inv.check (h : Inv s) (ht : s.pcs t = .check k) :
    Inv (s.setPc t (if (s.pack k).isSome then .count k else Container.afterPack k)) := by
  have hending : (s.pcs t).Ending := by
    rw [ht]
    trivial
  have hfresh : s.Fresh := by
    intro l p hp
    constructor
    · refine Bool.eq_false_iff.mpr fun hh => ?_
      have hr := h.handed_at hending hp hh
      rw [ht] at hr
      rcases hr with hr | hr <;> cases hr
    · refine Bool.eq_false_iff.mpr fun hd => ?_
      have hr := h.deleted_at hending hp hd
      rw [ht] at hr
      cases hr
  cases hk : s.pack k with
  | none =>
    refine h.afterPack hending rfl rfl h.pointers rfl (fun _ _ h => h) hk (fun hks => ?_) hfresh
    exact h.behind_state (.inl (hks ▸ ht))
  | some p =>
    have hends := h.endsAt t hending
    refine h.endStep (h.only hending) trivial rfl rfl h.pointers (fun _ _ h => h)
      ⟨hends.started, fun l hl => ?_, fun l p hl => ?_, fun l hl => ?_⟩
      (fun l p hp hh => absurd (hh.symm.trans (hfresh l p hp).1) (by decide))
      fun l p hp hd => absurd (hd.symm.trans (hfresh l p hp).2) (by decide)
    · rcases hl with (hl | hl | hl) | (hl | hl) <;> cases hl
      rw [hk]
      rfl
    · rcases hl with hl | hl <;> cases hl
    · refine hends.behind l ?_
      rw [ht]
      exact hl

theorem Pc.Uses.ending {pc : Pc} (h : pc.Uses k) : pc.Ending := by
  rcases h with rfl | rfl | rfl <;> trivial

/-- The pack that a thread is about to use is there, and has not been handed over. -/
theorem Inv.uses (h : Inv s) (ht : (s.pcs t).Uses k) : ∃ p, s.pack k = some p ∧
    (s.heap p).handed = false ∧ (s.heap p).deleted = false := by
  obtain ⟨p, hp⟩ := Option.isSome_iff_exists.mp ((h.endsAt t ht.ending).holds k (.inl ht))
  refine ⟨p, hp, Bool.eq_false_iff.mpr fun hh => ?_, Bool.eq_false_iff.mpr fun hd => ?_⟩
  · have hr := h.handed_at ht.ending hp hh
    rcases ht with ht | ht | ht <;> rw [ht] at hr <;> rcases hr with hr | hr <;> cases hr
  · have hr := h.deleted_at ht.ending hp hd
    rcases ht with ht | ht | ht <;> rw [ht] at hr <;> cases hr

/-- The positions at one pack have the same packs behind them. -/
theorem Inv.behind_uses (h : Inv s) (ht : (s.pcs t).Uses k ∨ (s.pcs t).Releasing k) {l : Kind}
    (hl : l = .scene ∧ k = .state) : s.pack l = none := by
  have hending : (s.pcs t).Ending := ht.elim Pc.Uses.ending Pc.Releasing.ending
  refine (h.endsAt t hending).behind l ?_
  rcases ht with (ht | ht | ht) | (ht | ht) <;> rw [ht] <;> exact hl

/-- The pack is used where it stands. -/
theorem Inv.touch (h : Inv s) (ht : (s.pcs t).Uses k) (hp : s.pack k = some p)
    {f : Pack S → Pack S} (hf : ∀ b, (f b).items = b.items ∧ (f b).handed = b.handed ∧
      (f b).deleted = b.deleted) {pc : Pc}
    (hpc : pc = .setEol k ∨ pc = .hand k ∨ pc = .delete k ∧ (s.heap p).items = []) :
    Inv ((s.access p f).setPc t pc) := by
  obtain ⟨p', hp', hhanded, hdeleted⟩ := h.uses ht
  obtain rfl : p = p' := Option.some.inj (hp.symm.trans hp')
  have hends := h.endsAt t ht.ending
  have hopen : ∀ {l q}, (s.access p f).pack l = some q →
      l = k ∧ (s.access p f).heap q = f (s.heap p) := access_open h.pointers hp
  have hending : pc.Ending := by rcases hpc with rfl | rfl | ⟨rfl, -⟩ <;> trivial
  refine h.endStep (h.only ht.ending) hending rfl rfl (access_pointers h.pointers hdeleted)
    (fun place sc hset l hl => (hset l hl).imp_right ?_)
    ⟨hends.started, fun l hl => ?_, fun l q hl hq => ?_, fun l hl => ?_⟩
    (fun l q hq hh => ?_) fun l q hq hd => ?_
  · rintro ⟨q, hq, hh, hitem⟩
    obtain ⟨rfl, heq⟩ := hopen hq
    obtain rfl : p = q := Option.some.inj (hp.symm.trans hq)
    exact ⟨p, hq, by rw [heq, (hf _).2.1]; exact hh, by rw [heq, (hf _).1]; exact hitem⟩
  · have hlk : l = k := by
      rcases hpc with rfl | rfl | ⟨rfl, -⟩ <;> rcases hl with (hl | hl | hl) | (hl | hl) <;>
        cases hl <;> rfl
    exact hlk ▸ (congrArg Option.isSome hp).trans rfl
  · obtain ⟨-, heq⟩ := hopen hq
    rcases hpc with rfl | rfl | ⟨rfl, hempty⟩
    · rcases hl with hl | hl <;> cases hl
    · rcases hl with hl | hl <;> cases hl
    · exact .inr (by rw [heq, (hf _).1, hempty])
  · refine h.behind_uses (.inl ht) ?_
    rcases hpc with rfl | rfl | ⟨rfl, -⟩ <;> exact hl
  · rw [(hopen hq).2, (hf _).2.1, hhanded] at hh
    cases hh
  · rw [(hopen hq).2, (hf _).2.2, hdeleted] at hd
    cases hd

/-- **The hand-over** settles for good what was in the pack. -/
theorem Inv.hand (h : Inv s) (ht : s.pcs t = .hand k) :
    Inv ((s.handOver k).setPc t (.delete k)) := by
  have huses : (s.pcs t).Uses k := .inr (.inr ht)
  obtain ⟨p, hp, -, hdeleted⟩ := h.uses huses
  have hends := h.endsAt t huses.ending
  have hover : s.handOver k = { s with log := .handed (s.heap p).items :: s.log }.access p
      fun b => { b with handed := true } := by
    simp only [Container.handOver, Container.deref, Container.itemsOf, hp]
  have hopen : ∀ {l q}, (s.handOver k).pack l = some q → l = k ∧ (s.handOver k).heap q =
      { s.heap p with handed := true } := by
    intro l q hq
    rw [hover] at hq ⊢
    exact access_open (s := { s with log := .handed (s.heap p).items :: s.log })
      ⟨h.pointers.closed, h.pointers.single, h.pointers.inTime, h.pointers.valid⟩ hp hq
  have hpointers : (s.handOver k).Pointers := by
    rw [hover]
    exact access_pointers (s := { s with log := .handed (s.heap p).items :: s.log })
      ⟨h.pointers.closed, h.pointers.single, h.pointers.inTime, h.pointers.valid⟩ hdeleted
  have hpack : (s.handOver k).pack = s.pack := by rw [hover]; rfl
  refine h.endStep (h.only huses.ending) trivial (by rw [hover]; rfl) (by rw [hover]; rfl) hpointers
    (fun place sc hset l hl => .inl ?_) ⟨by rw [hover]; exact hends.started, fun l hl => ?_,
      fun l q hl hq => .inl (by rw [(hopen hq).2]), fun l hl => ?_⟩
    (fun l q hq _ => ?_) fun l q hq hd => ?_
  · -- what was queued is in the pack that is handed over now
    have hlog : (s.handOver k).log = .handed (s.heap p).items :: s.log := by rw [hover]; rfl
    rw [hlog]
    rcases hset l hl with hsent | ⟨q, hq, -, hitem⟩
    · exact .inr hsent
    · obtain rfl : l = k := h.pointers.eq_of_some hp hq
      obtain rfl : p = q := Option.some.inj (hp.symm.trans hq)
      exact .inl hitem
  · rcases hl with (hl | hl | hl) | (hl | hl) <;> cases hl
    rw [hpack, hp]
    rfl
  · rw [hpack]
    exact h.behind_uses (.inl huses) hl
  · obtain rfl := (hopen hq).1
    exact .inl rfl
  · rw [(hopen hq).2] at hd
    exact absurd (hdeleted.symm.trans hd) (by decide)

/-- What is in a pack that stands before its deletion has been handed over. -/
theorem Inv.not_queued (h : Inv s) (ht : (s.pcs t).Releasing k) {l : Kind} {item : Item S}
    (hq : s.Queued l item) : False := by
  obtain ⟨q, hq, hh, hitem⟩ := hq
  have hends := h.endsAt t ht.ending
  obtain ⟨p, hp⟩ := Option.isSome_iff_exists.mp (hends.holds k (.inr ht))
  have hlk : l = k := h.pointers.eq_of_some hp hq
  rcases hends.released k q ht (hlk ▸ hq) with hr | hr
  · exact absurd (hh.symm.trans hr) (by decide)
  · rw [hr] at hitem
    exact absurd hitem List.not_mem_nil

theorem Inv.delete (h : Inv s) (ht : s.pcs t = .delete k) :
    Inv ((s.derefUnlessNull k fun b => { b with deleted := true }).setPc t (.null k)) := by
  have hreleasing : (s.pcs t).Releasing k := .inl ht
  have hends := h.endsAt t hreleasing.ending
  obtain ⟨p, hp⟩ := Option.isSome_iff_exists.mp (hends.holds k (.inr hreleasing))
  have hdeleted : (s.heap p).deleted = false := by
    refine Bool.eq_false_iff.mpr fun hd => ?_
    have hnull := h.deleted_at hreleasing.ending hp hd
    rw [ht] at hnull
    cases hnull
  have hopen : ∀ {l q}, (s.access p fun b => { b with deleted := true }).pack l = some q →
      l = k ∧ (s.access p fun b => { b with deleted := true }).heap q =
        { s.heap p with deleted := true } := access_open h.pointers hp
  simp only [Container.derefUnlessNull, hp]
  refine h.endStep (h.only hreleasing.ending) trivial rfl rfl (access_pointers h.pointers hdeleted)
    (fun place sc hset l hl => .inl ((hset l hl).resolve_right (h.not_queued hreleasing)))
    ⟨hends.started, fun l hl => ?_, fun l q hl hq => ?_, fun l hl => ?_⟩
    (fun l q hq _ => ?_) fun l q hq _ => ?_
  · rcases hl with (hl | hl | hl) | (hl | hl) <;> cases hl
    exact (congrArg Option.isSome hp).trans rfl
  · rw [(hopen hq).2]
    exact hends.released k p hreleasing hp
  · exact h.behind_uses (.inr hreleasing) hl
  · obtain rfl := (hopen hq).1
    exact .inr rfl
  · obtain rfl := (hopen hq).1
    rfl

theorem Inv.null (h : Inv s) (ht : s.pcs t = .null k) :
    Inv ((s.setPointer k none).setPc t (Container.afterPack k)) := by
  have hreleasing : (s.pcs t).Releasing k := .inr ht
  have hends := h.endsAt t hreleasing.ending
  obtain ⟨p, hp⟩ := Option.isSome_iff_exists.mp (hends.holds k (.inr hreleasing))
  have hnone : ∀ l, (s.setPointer k none).pack l = none := by
    intro l
    simp only [Container.setPointer]
    split
    · rfl
    · rename_i hlk
      exact Option.eq_none_iff_forall_ne_some.mpr fun q hq =>
        hlk (h.pointers.eq_of_some hp hq)
  refine h.afterPack hreleasing.ending rfl rfl ⟨fun _ => hnone, .inl (hnone _), h.pointers.inTime,
    h.pointers.valid⟩ rfl (fun place sc hset l hl =>
      .inl ((hset l hl).resolve_right (h.not_queued hreleasing))) (hnone k) (fun _ => hnone _) ?_
  intro l q hq
  rw [hnone l] at hq
  cases hq

theorem Inv.finish (h : Inv s) (ht : s.pcs t = .finish) :
    Inv ({ s with updater := { s.updater with transactionStarted := false } }.setPc t .answer) := by
  have hending : (s.pcs t).Ending := by
    rw [ht]
    trivial
  have hnone : ∀ k, s.pack k = none := fun k => (h.endsAt t hending).behind k (by
    rw [ht]
    trivial)
  have hnot : ∀ u, ¬ (({ s with
      updater := { s.updater with transactionStarted := false } }.setPc t .answer).pcs
        u).Ending := by
    intro u hu
    simp only [Container.setPc] at hu
    split at hu
    · exact hu
    · rename_i hne
      exact hne (h.only hending u hu)
  refine ⟨⟨fun _ => hnone, h.pointers.single, h.pointers.inTime, h.pointers.valid⟩, h.settled,
    fun u v hu => (hnot u hu).elim, fun u hu => (hnot u hu).elim, fun hs => (by cases hs),
    fun k p hp => ?_, fun k p hp => ?_⟩
  · cases (hnone k).symm.trans hp
  · cases (hnone k).symm.trans hp

end Ender

/-! ## Changes -/

/-- What `set_caption` and `set_state` change: the mark is set, the other kind is as before. -/
def Marks (k : Kind) (f : Scene S → Option (Scene S)) : Prop :=
  ∀ sc sc', f sc = some sc' → sc'.indicator.changed k = true ∧ ∀ l, l ≠ k →
    sc'.convert l = sc.convert l ∧ sc'.indicator.changed l = sc.indicator.changed l

theorem setCaption_marks (caption : Option (List UInt8)) :
    Marks .scene (Scene.setCaption (S := S) caption) := by
  intro sc sc' h
  unfold Scene.setCaption at h
  split at h
  · cases h
  · cases h
    refine ⟨rfl, fun l hl => ?_⟩
    cases l
    · exact absurd rfl hl
    · exact ⟨rfl, rfl⟩

theorem setState_marks [DecidableEq S] (state : S) :
    Marks .state (Scene.setState state) := by
  intro sc sc' h
  unfold Scene.setState at h
  split at h
  · cases h
  · cases h
    refine ⟨rfl, fun l hl => ?_⟩
    cases l
    · exact ⟨rfl, rfl⟩
    · exact absurd rfl hl

theorem Inv.setScene (h : Inv s) {k : Kind} {f : Scene S → Option (Scene S)} (hf : Marks k f)
    (place : Nat) : Inv (s.setScene place k f) := by
  unfold Container.setScene
  split
  · exact h
  · rename_i sc' hsc'
    obtain ⟨sc, hsc, hfsc⟩ := Option.bind_eq_some_iff.mp hsc'
    obtain ⟨hmark, hother⟩ := hf sc sc' hfsc
    refine ⟨⟨h.pointers.closed, h.pointers.single, h.pointers.inTime, h.pointers.valid⟩,
      fun q scq hscq l hl => ?_, h.one, fun u hu => ?_, h.seen, h.handed, h.deleted⟩
    · by_cases hq : place = q
      · subst hq
        have hlt : place < s.scenes.length := (List.getElem?_eq_some_iff.mp hsc).1
        rw [List.getElem?_set_self hlt] at hscq
        obtain rfl : sc' = scq := Option.some.inj hscq
        have hlk : l ≠ k := fun heq => absurd (hmark.symm.trans (heq ▸ hl)) (by decide)
        obtain ⟨hconvert, hchanged⟩ := hother l hlk
        rw [hconvert]
        exact (h.settled place sc hsc l (hchanged ▸ hl)).imp_left
          fun hsent => ⟨fun heq => hlk heq.2.symm, hsent⟩
      · rw [List.getElem?_set_ne hq] at hscq
        exact (h.settled q scq hscq l hl).imp_left fun hsent => ⟨fun heq => hq heq.1, hsent⟩
    · have hends := h.endsAt u hu
      exact ⟨hends.started, hends.holds, hends.released, hends.behind⟩

/-! ## Runs -/

theorem setEol_keeps (b : Pack S) : b.setEol.items = b.items ∧ b.setEol.handed = b.handed ∧
    b.setEol.deleted = b.deleted := by
  unfold Pack.setEol
  split <;> exact ⟨rfl, rfl, rfl⟩

theorem Inv.threadStep (h : Inv s) {t : Nat} (hapart : Apart s (.thread t)) :
    Inv (s.threadStep t) := by
  cases hpc : s.pcs t with
  | idle b =>
    have hnot : ¬ (s.pcs t).Ending := by rw [hpc]; exact id
    simp only [Container.threadStep, hpc]
    refine h.move hnot (fun hp => ?_) ?_
    · rw [hpc] at hp
      cases hp
    · split <;> exact id
  | entered =>
    simp only [Apart, hpc] at hapart
    simp only [Container.threadStep, hpc]
    exact h.lockedPass hpc hapart
  | passed =>
    simp only [Apart, hpc] at hapart
    simp only [Container.threadStep, hpc]
    by_cases hs : s.updater.transactionStarted = true
    · rw [if_pos hs]
      exact h.begin hs (hapart hs)
    · rw [if_neg hs]
      exact h.move (by rw [hpc]; exact id) (fun _ hs' => absurd hs' hs) id
  | check k =>
    simp only [Container.threadStep, hpc]
    exact h.check hpc
  | count k =>
    have huses : (s.pcs t).Uses k := .inl hpc
    obtain ⟨p, hp, -⟩ := h.uses huses
    simp only [Container.threadStep, hpc, Container.deref, hp, Container.itemsOf]
    refine h.touch huses hp (fun b => ⟨rfl, rfl, rfl⟩) ?_
    split
    · rename_i hempty
      exact .inr (.inr ⟨rfl, hempty⟩)
    · exact .inl rfl
  | setEol k =>
    have huses : (s.pcs t).Uses k := .inr (.inl hpc)
    obtain ⟨p, hp, -⟩ := h.uses huses
    simp only [Container.threadStep, hpc, Container.derefUnlessNull, hp]
    exact h.touch huses hp setEol_keeps (.inr (.inl rfl))
  | hand k =>
    simp only [Container.threadStep, hpc]
    exact h.hand hpc
  | delete k =>
    simp only [Container.threadStep, hpc]
    exact h.delete hpc
  | null k =>
    simp only [Container.threadStep, hpc]
    exact h.null hpc
  | finish =>
    simp only [Container.threadStep, hpc]
    exact h.finish hpc
  | answer =>
    have hnot : ¬ (s.pcs t).Ending := by rw [hpc]; exact id
    simp only [Container.threadStep, hpc]
    refine h.move hnot (fun hp => ?_) id
    rw [hpc] at hp
    cases hp

theorem Inv.init [DecidableEq S] (h : (machine S).init s) : Inv s := by
  obtain ⟨hfresh, hupdater, hpack, hpcs, -, hlate, hmisused⟩ := h
  have hnot : ∀ t, ¬ (s.pcs t).Ending := by
    intro t
    rw [hpcs t]
    exact id
  have hnone : ∀ {k p}, s.pack k ≠ some p := by
    intro k p hp
    cases (hpack k).symm.trans hp
  refine ⟨⟨fun _ => hpack, .inl (hpack _), hlate, hmisused⟩, fun place sc hsc k hk => ?_,
    fun t u ht => (hnot t ht).elim, fun t ht => (hnot t ht).elim, fun hs => ?_,
    fun k p hp => (hnone hp).elim, fun k p hp => (hnone hp).elim⟩
  · rw [hfresh sc (List.mem_of_getElem? hsc)] at hk
    cases k <;> cases hk
  · rw [hupdater] at hs
    cases hs

theorem Inv.step [DecidableEq S] {a : Act S} (hok : Apart s a) (h : Inv s)
    (hstep : (machine S).step s a = some s') : Inv s' := by
  cases a with
  | thread t =>
    cases hstep
    exact h.threadStep hok
  | setCaption place caption =>
    cases hstep
    exact h.setScene (setCaption_marks caption) place
  | setState place state =>
    cases hstep
    exact h.setScene (setState_marks state) place

end Client.Scenes
