import SuplaCore.Lib.Until
import SuplaCore.Client.SceneSync

/-!
# The scenes are sent completely

A pass over the scenes fills one pack with the first of the scenes that are changed in its way
(`offer`, `fillAll_spec`), and what it does to the container is that and no more
(`updateAll_opened`). So a call hands over the next pack of a kind, and the calls until one returns
false hand over all of them (`scenes_synchronised`). A call is what a thread does that is alone
(`updateRemote_reach`).
-/

namespace Client.Scenes

open Sys Until

variable {S : Type}

/-! ## Filling one pack -/

/-- The scenes that are to be sent, as items. -/
def toSend (k : Kind) (scenes : List (Scene S)) : List (Item S) :=
  (scenes.filter fun sc => sc.indicator.changed k).map (Scene.convert k)

/-- One scene is offered to the open pack. -/
def offer (k : Kind) (sc : Scene S) (b : Pack S) : Scene S × Pack S :=
  if sc.indicator.changed k then
    if b.items.length < packMaxcount then
      ({ sc with indicator := sc.indicator.set k false },
        { b with items := b.items ++ [sc.convert k] })
    else (sc, { b with totalLeft := b.totalLeft + 1 })
  else (sc, b)

def fillAll (k : Kind) : List (Scene S) → Pack S → List (Scene S) × Pack S
  | [], b => ([], b)
  | sc :: scenes, b =>
    let r := offer k sc b
    let rest := fillAll k scenes r.2
    (r.1 :: rest.1, rest.2)

/-- The scene without its marks. -/
def Scene.unmarked (sc : Scene S) : Scene S := { sc with indicator := ⟨false, false⟩ }

theorem toSend_cons (k : Kind) (sc : Scene S) (scenes : List (Scene S)) :
    toSend k (sc :: scenes) =
      if sc.indicator.changed k then sc.convert k :: toSend k scenes else toSend k scenes := by
  unfold toSend
  rw [List.filter_cons]
  split <;> rfl

/-- Sending a scene in one way leaves it to be sent in the other. -/
theorem changed_set {k l : Kind} (hkl : l ≠ k) (ind : Indicator) (b : Bool) :
    (ind.set k b).changed l = ind.changed l := by
  cases k <;> cases l
  · exact absurd rfl hkl
  · rfl
  · rfl
  · exact absurd rfl hkl

theorem changed_set_self (k : Kind) (ind : Indicator) : (ind.set k false).changed k = false := by
  cases k <;> rfl

theorem convert_indicator (k : Kind) (sc : Scene S) (ind : Indicator) :
    Scene.convert k { sc with indicator := ind } = sc.convert k := by
  cases k <;> rfl

/-- **What a pass makes of the scenes and the pack.** -/
structure Fills (k : Kind) (scenes : List (Scene S)) (b : Pack S)
    (r : List (Scene S) × Pack S) : Prop where
  items : r.2.items = b.items ++ (toSend k scenes).take (packMaxcount - b.items.length)
  totalLeft : r.2.totalLeft = b.totalLeft + (toSend k r.1).length
  eol : r.2.eol = b.eol
  left : toSend k r.1 = (toSend k scenes).drop (packMaxcount - b.items.length)
  other : ∀ l, l ≠ k → toSend l r.1 = toSend l scenes
  unmarked : r.1.map Scene.unmarked = scenes.map Scene.unmarked

theorem fillAll_spec (k : Kind) (scenes : List (Scene S)) :
    ∀ b : Pack S, Fills k scenes b (fillAll k scenes b) := by
  induction scenes with
  | nil =>
    intro b
    exact ⟨by simp [fillAll, toSend], rfl, rfl, by simp [fillAll, toSend], fun _ _ => rfl, rfl⟩
  | cons sc scenes ih =>
    intro b
    have hrest := ih (offer k sc b).2
    rw [fillAll]
    cases hchanged : sc.indicator.changed k with
    | false =>
      have hoffer : offer k sc b = (sc, b) := by rw [offer, if_neg (by rw [hchanged]; nofun)]
      rw [hoffer] at hrest ⊢
      have hcons : ∀ l : List (Scene S), toSend k (sc :: l) = toSend k l := fun l => by
        rw [toSend_cons, if_neg (by rw [hchanged]; nofun)]
      refine ⟨?_, ?_, hrest.eol, ?_, fun l hl => ?_, ?_⟩
      · rw [hcons]
        exact hrest.items
      · rw [hcons]
        exact hrest.totalLeft
      · rw [hcons, hcons]
        exact hrest.left
      · rw [toSend_cons, toSend_cons, hrest.other l hl]
      · rw [List.map_cons, List.map_cons, hrest.unmarked]
    | true =>
      have hcons : ∀ l : List (Scene S), toSend k (sc :: l) = sc.convert k :: toSend k l :=
        fun l => by rw [toSend_cons, if_pos hchanged]
      by_cases hroom : b.items.length < packMaxcount
      · have hoffer : offer k sc b = ({ sc with indicator := sc.indicator.set k false },
            { b with items := b.items ++ [sc.convert k] }) := by
          rw [offer, if_pos hchanged, if_pos hroom]
        rw [hoffer] at hrest ⊢
        have hsub : packMaxcount - b.items.length = packMaxcount - (b.items.length + 1) + 1 := by
          omega
        have hlen : (b.items ++ [sc.convert k]).length = b.items.length + 1 := List.length_append
        have hsent : ∀ l : List (Scene S),
            toSend k ({ sc with indicator := sc.indicator.set k false } :: l) = toSend k l :=
          fun l => by
            rw [toSend_cons, if_neg]
            rw [changed_set_self]
            nofun
        refine ⟨?_, ?_, hrest.eol, ?_, fun l hl => ?_, ?_⟩
        · rw [hcons, hsub, List.take_succ_cons, hrest.items, hlen, List.append_assoc]
          rfl
        · rw [hsent]
          exact hrest.totalLeft
        · rw [hsent, hcons, hsub, List.drop_succ_cons, hrest.left, hlen]
        · have hconvert := convert_indicator l sc (sc.indicator.set k false)
          rw [toSend_cons, toSend_cons, hrest.other l hl, hconvert]
          simp only [changed_set hl]
        · rw [List.map_cons, List.map_cons, hrest.unmarked]
          rfl
      · have hoffer : offer k sc b = (sc, { b with totalLeft := b.totalLeft + 1 }) := by
          rw [offer, if_pos hchanged, if_neg hroom]
        rw [hoffer] at hrest ⊢
        have hfull : packMaxcount - b.items.length = 0 := by omega
        have hitems := hrest.items
        have hleft := hrest.left
        have htotal := hrest.totalLeft
        dsimp only at hitems hleft htotal
        rw [hfull, List.take_zero] at hitems
        rw [hfull, List.drop_zero] at hleft
        refine ⟨?_, ?_, hrest.eol, ?_, fun l hl => ?_, ?_⟩
        · rw [hfull, List.take_zero]
          exact hitems
        · rw [hcons, List.length_cons]
          exact htotal.trans (Nat.succ_add_eq_add_succ _ _)
        · rw [hfull, List.drop_zero, hcons, hcons, hleft]
        · rw [toSend_cons, toSend_cons, hrest.other l hl]
        · rw [List.map_cons, List.map_cons, hrest.unmarked]

/-- A scene that is not changed in this way is passed over. -/
theorem offer_unchanged {k : Kind} {sc : Scene S} (h : sc.indicator.changed k = false)
    (b : Pack S) : offer k sc b = (sc, b) := by
  rw [offer, if_neg (by rw [h]; nofun)]

namespace Container

variable {s s' : Container S}

/-! ## The pass -/

/-- A transaction with one open pack. -/
structure OpenAt (k : Kind) (p : Nat) (s : Container S) : Prop where
  pack : s.pack k = some p
  other : ∀ l, l ≠ k → s.pack l = none
  started : s.updater.transactionStarted = true
  rejected : s.updater.transactionRejected = false
  shouldEnd : s.updater.transactionShouldEnd = false
  anyUpdates : s.updater.anyUpdates = !(s.heap p).items.isEmpty

/-- Between two calls. -/
structure Idle (s : Container S) : Prop where
  pack : ∀ k, s.pack k = none
  started : s.updater.transactionStarted = false
  rejected : s.updater.transactionRejected = false

/-- What a turn of the loop leaves, besides the scene. -/
structure Turned (k : Kind) (p : Nat) (s : Container S) (b : Pack S) (s' : Container S) :
    Prop where
  opened : OpenAt k p s'
  heap : s'.heap p = b
  protoVersion : s'.protoVersion = s.protoVersion

/-- The open pack decides what is done with a scene. -/
theorem prepareTheUpdate_opened {k : Kind} {p : Nat} (h : OpenAt k p s) (sc : Scene S) :
    s.prepareTheUpdate sc =
      if sc.indicator.changed k then
        match s.datapackAdd p (sc.convert k) with
        | (true, s) => (true, { sc with indicator := sc.indicator.set k false }, s)
        | (false, s) => (false, sc, s)
      else (false, sc, s) := by
  unfold prepareTheUpdate
  cases k with
  | scene =>
    simp only [h.pack, Indicator.changed]
    rfl
  | state =>
    have hscene : s.pack .scene = none := h.other .scene (by decide)
    simp only [h.pack, hscene, Indicator.changed]
    rfl

theorem changed_of_unchanged {sc : Scene S} (h : sc.isChanged = false) (k : Kind) :
    sc.indicator.changed k = false := by
  have hor : (sc.indicator.sceneChanged || sc.indicator.stateChanged) = false := h
  rw [Bool.or_eq_false_iff] at hor
  cases k with
  | scene => exact hor.1
  | state => exact hor.2

theorem prepare_opened {k : Kind} {p : Nat} (h : OpenAt k p s) (sc : Scene S) :
    (s.prepare sc).1 = (offer k sc (s.heap p)).1 ∧
      Turned k p s (offer k sc (s.heap p)).2 (s.prepare sc).2 := by
  rw [prepare, prepareTheUpdate_opened h]
  cases hchanged : sc.indicator.changed k with
  | false =>
    rw [offer_unchanged hchanged, if_neg Bool.false_ne_true]
    exact ⟨rfl, h, rfl, rfl⟩
  | true =>
    rw [if_pos rfl, offer, if_pos hchanged, datapackAdd]
    by_cases hroom : (s.heap p).items.length < packMaxcount
    · rw [if_pos hroom, if_pos hroom]
      dsimp only
      refine ⟨rfl, ⟨h.pack, h.other, h.started, h.rejected, h.shouldEnd, ?_⟩, ?_, rfl⟩
      · simp [access]
      · exact if_pos rfl
    · rw [if_neg hroom, if_neg hroom]
      dsimp only
      refine ⟨rfl, ⟨h.pack, h.other, h.started, h.rejected, h.shouldEnd, ?_⟩, ?_, rfl⟩
      · simpa only [access, if_pos] using h.anyUpdates
      · exact if_pos rfl

/-- **One turn of the loop** in a transaction. -/
theorem update_opened {k : Kind} {p : Nat} (h : OpenAt k p s) (sc : Scene S) :
    (s.update sc).1 = (offer k sc (s.heap p)).1 ∧
      Turned k p s (offer k sc (s.heap p)).2 (s.update sc).2 := by
  unfold update
  split
  · rw [if_pos h.started]
    exact prepare_opened h sc
  · rename_i hchanged
    rw [offer_unchanged (changed_of_unchanged (Bool.eq_false_iff.mpr hchanged) k)]
    exact ⟨rfl, h, rfl, rfl⟩

theorem OpenAt.goes_on {k : Kind} {p : Nat} (h : OpenAt k p s) :
    (s.updater.isTransactionRejected || s.updater.isTransactionShouldEnd) = false := by
  rw [Dobject.Updater.isTransactionRejected, Dobject.Updater.isTransactionShouldEnd, h.rejected,
    h.started, h.shouldEnd]
  rfl

/-- **The loop** in a transaction fills the open pack. -/
theorem updateAll_opened {k : Kind} {p : Nat} (scenes : List (Scene S)) :
    ∀ {s : Container S}, OpenAt k p s →
      (updateAll scenes s).1 = (fillAll k scenes (s.heap p)).1 ∧
        Turned k p s (fillAll k scenes (s.heap p)).2 (updateAll scenes s).2 := by
  induction scenes with
  | nil => exact fun h => ⟨rfl, h, rfl, rfl⟩
  | cons sc scenes ih =>
    intro s h
    obtain ⟨hscene, hturn⟩ := update_opened h sc
    obtain ⟨hrest, hturned⟩ := ih hturn.opened
    rw [hturn.heap] at hrest hturned
    rw [updateAll, fillAll]
    dsimp only
    rw [hturn.opened.goes_on, if_neg Bool.false_ne_true, hscene, hrest]
    exact ⟨rfl, hturned.opened, hturned.heap, hturned.protoVersion.trans hturn.protoVersion⟩

/-- The kind of the pack that a transaction opens. -/
def kindOf (anySceneChanged : Bool) : Kind := if anySceneChanged then .scene else .state

/-- The first changed scene opens a pack. -/
theorem update_begins (h : s.Idle) {sc : Scene S} (hchanged : sc.isChanged = true)
    (hkind : sc.indicator.sceneChanged = true → s.anySceneChanged = true) :
    ∃ s₁ : Container S, s.update sc = s₁.prepare sc ∧
      OpenAt (kindOf s.anySceneChanged) s.next s₁ ∧ s₁.heap s.next = .empty ∧
      s₁.protoVersion = s.protoVersion := by
  have hopen (k : Kind) : ∀ s₁ : Container S,
      s₁ = { s.openPack k with updater := ⟨true, false, false, false⟩ } →
        OpenAt k s.next s₁ ∧ s₁.heap s.next = .empty ∧ s₁.protoVersion = s.protoVersion := by
    rintro s₁ rfl
    rw [openPack, h.pack k]
    have hheap : (if s.next = s.next then Pack.empty else s.heap s.next) = (.empty : Pack S) :=
      if_pos rfl
    refine ⟨⟨if_pos rfl, fun l hl => ?_, rfl, rfl, rfl, ?_⟩, hheap, rfl⟩
    · exact (if_neg hl).trans (h.pack l)
    · show false = !(if s.next = s.next then Pack.empty else s.heap s.next : Pack S).items.isEmpty
      rw [hheap]
      rfl
  have hbegin : s.beginTransaction sc =
      { s.openPack (kindOf s.anySceneChanged) with updater := ⟨true, false, false, false⟩ } := by
    unfold beginTransaction onTransactionBegin
    rw [h.started, if_neg Bool.false_ne_true]
    cases hany : s.anySceneChanged with
    | true => rfl
    | false =>
      have hscene : sc.indicator.sceneChanged = false := by
        rw [← Bool.not_eq_true]
        intro hs
        rw [hkind hs] at hany
        cases hany
      have hstate : sc.indicator.stateChanged = true := by
        have hor : (sc.indicator.sceneChanged || sc.indicator.stateChanged) = true := hchanged
        rw [hscene, Bool.false_or] at hor
        exact hor
      rw [hscene, hstate]
      rfl
  obtain ⟨hat, hheap, hproto⟩ := hopen _ _ hbegin
  refine ⟨s.beginTransaction sc, ?_, hat, hheap, hproto⟩
  rw [update, if_pos hchanged, h.started, if_neg Bool.false_ne_true]
  dsimp only
  rw [hat.rejected, if_neg Bool.false_ne_true]

/-- **The loop** between two transactions: nothing, or the next pack. -/
theorem updateAll_idle (scenes : List (Scene S)) (h : s.Idle)
    (hkind : ∀ sc ∈ scenes, sc.indicator.sceneChanged = true → s.anySceneChanged = true) :
    (∀ sc ∈ scenes, sc.isChanged = false) ∧ updateAll scenes s = (scenes, s) ∨
      (∃ sc ∈ scenes, sc.isChanged = true) ∧
        (updateAll scenes s).1 = (fillAll (kindOf s.anySceneChanged) scenes .empty).1 ∧
        Turned (kindOf s.anySceneChanged) s.next s
          (fillAll (kindOf s.anySceneChanged) scenes .empty).2 (updateAll scenes s).2 := by
  induction scenes with
  | nil => exact .inl ⟨nofun, rfl⟩
  | cons sc scenes ih =>
    cases hchanged : sc.isChanged with
    | true =>
      refine .inr ⟨⟨sc, .head _, hchanged⟩, ?_⟩
      obtain ⟨s₁, hupdate, hopen, hheap, hproto⟩ := update_begins h hchanged (hkind sc (.head _))
      obtain ⟨hscene, hturn⟩ := prepare_opened hopen sc
      obtain ⟨hrest, hturned⟩ := updateAll_opened scenes hturn.opened
      rw [hturn.heap] at hrest hturned
      rw [hheap] at hscene hrest hturned
      rw [updateAll, fillAll, hupdate]
      dsimp only
      rw [hturn.opened.goes_on, if_neg Bool.false_ne_true, hscene, hrest]
      exact ⟨rfl, hturned.opened, hturned.heap,
        hturned.protoVersion.trans (hturn.protoVersion.trans hproto)⟩
    | false =>
      have hupdate : s.update sc = (sc, s) := by
        rw [update, if_neg (Bool.eq_false_iff.mp hchanged)]
      have hgoes : (s.updater.isTransactionRejected || s.updater.isTransactionShouldEnd) =
          false := by
        rw [Dobject.Updater.isTransactionRejected, Dobject.Updater.isTransactionShouldEnd,
          h.rejected, h.started]
        rfl
      have hcons : updateAll (sc :: scenes) s = (sc :: (updateAll scenes s).1,
          (updateAll scenes s).2) := by
        rw [updateAll, hupdate]
        dsimp only
        rw [hgoes, if_neg Bool.false_ne_true]
      rw [hcons, fillAll, offer_unchanged (changed_of_unchanged hchanged _)]
      obtain ⟨hnone, hsame⟩ | ⟨⟨sc', hmem, hsome⟩, hrest, hturned⟩ :=
        ih fun sc hsc => hkind sc (.tail _ hsc)
      · refine .inl ⟨List.forall_mem_cons.mpr ⟨hchanged, hnone⟩, ?_⟩
        rw [hsame]
      · exact .inr ⟨⟨sc', .tail _ hmem, hsome⟩, congrArg (sc :: ·) hrest, hturned⟩

/-- The first loop finds out whether any scene is changed itself. -/
theorem verifyAll_spec : ∀ (scenes : List (Scene S)) (first any : Bool),
    verifyAll first scenes any =
      (scenes.any (·.indicator.sceneChanged) || (any && !(first && !scenes.isEmpty)))
  | [], first, any => by simp [verifyAll]
  | sc :: scenes, first, any => by
    rw [verifyAll, preTransactionVerification]
    cases hsc : sc.indicator.sceneChanged with
    | true => simp [hsc]
    | false =>
      have hrest := verifyAll_spec scenes false (if first then false else any)
      rw [if_neg Bool.false_ne_true]
      dsimp only
      rw [hrest, List.any_cons, hsc]
      cases first <;> simp
/-! ## A whole call -/

/-- What the end of a transaction leaves. -/
structure Ended (s s' : Container S) : Prop where
  scenes : s'.scenes = s.scenes
  updater : s'.updater = s.updater
  protoVersion : s'.protoVersion = s.protoVersion

theorem endPack_none {k : Kind} (h : s.pack k = none) : s.endPack k = ([], s) := by
  rw [endPack, h]

/-- The open pack is handed over, and its pointer cleared. -/
theorem endPack_opened {k : Kind} {p : Nat} (h : OpenAt k p s) (hitems : (s.heap p).items ≠ []) :
    ∃ s', s.endPack k = ([sentPack k (s.heap p).setEol], s') ∧ Ended s s' ∧
      ∀ l, s'.pack l = none := by
  have hderef : s.deref k id = s.access p id := by rw [deref, h.pack]
  have hpack : ∀ f : Pack S → Pack S, (s.access p id).derefUnlessNull k f =
      (s.access p id).access p f := fun f => by
    rw [derefUnlessNull, show (s.access p id).pack k = some p from h.pack]
  have hitemsOf : s.itemsOf k ≠ [] := by
    rw [itemsOf, h.pack]
    exact hitems
  rw [endPack, h.pack]
  dsimp only
  rw [if_neg hitemsOf, hderef, hpack]
  have hheap : ((s.access p id).access p Pack.setEol).heap p = (s.heap p).setEol := by
    simp [access]
  rw [hheap]
  have hhand : ((s.access p id).access p Pack.setEol).pack k = some p := h.pack
  rw [handOver, deref, show (_ : Container S).pack k = some p from hhand]
  refine ⟨_, rfl, ⟨?_, ?_, ?_⟩, fun l => ?_⟩
  · rw [derefUnlessNull]
    split <;> rfl
  · rw [derefUnlessNull]
    split <;> rfl
  · rw [derefUnlessNull]
    split <;> rfl
  · by_cases hl : l = k
    · exact if_pos hl
    · refine (if_neg hl).trans ?_
      rw [derefUnlessNull]
      split <;> exact h.other l hl

/-- The end of a transaction hands over the open pack. -/
theorem endTransaction_opened {k : Kind} {p : Nat} (h : OpenAt k p s)
    (hitems : (s.heap p).items ≠ []) :
    ∃ s', s.endTransaction = (true, [sentPack k (s.heap p).setEol], s') ∧ s'.Idle ∧
      s'.scenes = s.scenes ∧ s'.protoVersion = s.protoVersion := by
  obtain ⟨s₁, hend, hended, hnone⟩ := endPack_opened h hitems
  have hwhole : s.onTransactionEnd = ([sentPack k (s.heap p).setEol], s₁) := by
    rw [onTransactionEnd]
    cases k with
    | scene =>
      rw [hend, endPack_none (hnone .state), List.append_nil]
    | state =>
      rw [endPack_none (h.other .scene nofun), hend, List.nil_append]
  have hany : s₁.updater.anyUpdates = true := by
    rw [hended.updater, h.anyUpdates]
    simpa using hitems
  refine ⟨{ s₁ with updater := { s₁.updater with transactionStarted := false } }, ?_,
    ⟨hnone, rfl, ?_⟩, hended.scenes, hended.protoVersion⟩
  · rw [endTransaction, if_pos h.started, hwhole, ← hany]
  · show s₁.updater.transactionRejected = false
    rw [hended.updater, h.rejected]

/-- The first pack of a list of items. -/
def nextPack (k : Kind) (items : List (Item S)) : SentPack S :=
  ⟨k, items.take packMaxcount, (items.drop packMaxcount).length,
    decide ((items.drop packMaxcount).length = 0)⟩

/-- What is to be sent, kind by kind, and the scenes without their marks. -/
structure Sends (k : Kind) (s s' : Container S) : Prop where
  some_item : toSend k s.scenes ≠ []
  sent : toSend k s'.scenes = (toSend k s.scenes).drop packMaxcount
  other : ∀ l, l ≠ k → toSend l s'.scenes = toSend l s.scenes
  unmarked : s'.scenes.map Scene.unmarked = s.scenes.map Scene.unmarked
  idle : s'.Idle
  protoVersion : s'.protoVersion = s.protoVersion

theorem toSend_eq_nil {k : Kind} {scenes : List (Scene S)} :
    toSend k scenes = [] ↔ ∀ sc ∈ scenes, sc.indicator.changed k = false := by
  unfold toSend
  rw [List.map_eq_nil_iff, List.filter_eq_nil_iff]
  simp only [Bool.not_eq_true]

/-- What the pass under the lock does between two calls. -/
theorem lockedPass_spec (h : s.Idle) :
    ((∀ sc ∈ s.scenes, sc.isChanged = false) ∧ s.lockedPass.Idle ∧
        s.lockedPass.scenes = s.scenes) ∨
      ∃ k p, OpenAt k p s.lockedPass ∧ toSend k s.scenes ≠ [] ∧
        (k = .state → toSend .scene s.scenes = []) ∧
        Fills k s.scenes .empty (s.lockedPass.scenes, s.lockedPass.heap p) ∧
        s.lockedPass.protoVersion = s.protoVersion := by
  have hverify := verifyAll_spec s.scenes true s.anySceneChanged
  unfold lockedPass
  generalize hflag : verifyAll true s.scenes s.anySceneChanged = flag at hverify
  have hidle : Idle { s with anySceneChanged := flag } := ⟨h.pack, h.started, h.rejected⟩
  have hkind : ∀ sc ∈ s.scenes, sc.indicator.sceneChanged = true → flag = true := by
    intro sc hsc hchanged
    rw [hverify, List.any_eq_true.mpr ⟨sc, hsc, hchanged⟩, Bool.true_or]
  have hcases := updateAll_idle s.scenes hidle hkind
  dsimp only at hcases ⊢
  obtain ⟨hnone, hsame⟩ | ⟨⟨sc, hsc, hchanged⟩, hscenes, hturned⟩ := hcases
  · rw [hsame]
    exact .inl ⟨hnone, ⟨h.pack, h.started, h.rejected⟩, rfl⟩
  · have hfills := fillAll_spec (kindOf flag) s.scenes .empty
    refine .inr ⟨kindOf flag, s.next, ?_, ?_, ?_, ?_, hturned.protoVersion⟩
    · have hopen := hturned.opened
      exact ⟨hopen.pack, hopen.other, hopen.started, hopen.rejected, hopen.shouldEnd,
        hopen.anyUpdates⟩
    · intro hnil
      have hnone := toSend_eq_nil.mp hnil
      cases flag with
      | true =>
        have hany : s.scenes.any (·.indicator.sceneChanged) = true := by
          cases hs : s.scenes with
          | nil => rw [hs] at hsc; cases hsc
          | cons sc' rest => simpa [hs] using hverify.symm
        obtain ⟨sc', hsc', hscene⟩ := List.any_eq_true.mp hany
        exact absurd ((hnone sc' hsc').symm.trans hscene) (by decide)
      | false =>
        have hor : (sc.indicator.sceneChanged || sc.indicator.stateChanged) = true := hchanged
        have hstate : sc.indicator.stateChanged = false := hnone sc hsc
        rw [hstate, Bool.or_false] at hor
        exact absurd (hkind sc hsc hor) (by decide)
    · intro hstate
      refine toSend_eq_nil.mpr fun sc hsc => ?_
      rw [← Bool.not_eq_true]
      intro hscene
      rw [hkind sc hsc hscene] at hstate
      cases hstate
    · rw [hscenes, hturned.heap]
      exact hfills

/-- **A call** hands over the next pack of the scenes, of the states where no scene is left, or
nothing where nothing is changed. -/
theorem updateRemote_spec (h : s.Idle) (hproto : s.protoVersion ≥ 18) :
    (∃ s', s.updateRemote = (false, [], s') ∧ s'.scenes = s.scenes ∧ s'.Idle ∧
        ∀ sc ∈ s.scenes, sc.isChanged = false) ∨
      ∃ k s', s.updateRemote = (true, [nextPack k (toSend k s.scenes)], s') ∧ Sends k s s' ∧
        (k = .state → toSend .scene s.scenes = []) := by
  rw [updateRemote, if_pos hproto]
  obtain ⟨hnone, hidle, hscenes⟩ | ⟨k, p, hopen, hsome, hstate, hfills, hversion⟩ :=
    lockedPass_spec h
  · refine .inl ⟨s.lockedPass, ?_, hscenes, hidle, hnone⟩
    rw [endTransaction, hidle.started, if_neg Bool.false_ne_true]
  · refine .inr ⟨k, ?_⟩
    have hitems : (s.lockedPass.heap p).items = (toSend k s.scenes).take packMaxcount :=
      hfills.items
    have hleft : toSend k s.lockedPass.scenes = (toSend k s.scenes).drop packMaxcount :=
      hfills.left
    have htotal : (s.lockedPass.heap p).totalLeft =
        ((toSend k s.scenes).drop packMaxcount).length := by
      rw [← hleft]
      exact hfills.totalLeft.trans (Nat.zero_add _)
    have hne : (s.lockedPass.heap p).items ≠ [] := by
      rw [hitems]
      exact fun hnil => (List.take_eq_nil_iff.mp hnil).elim nofun hsome
    obtain ⟨s', hend, hidle, hscenes, hproto'⟩ := endTransaction_opened hopen hne
    refine ⟨s', ?_, ⟨hsome, ?_, fun l hl => ?_, ?_, hidle, hproto'.trans hversion⟩, hstate⟩
    · have hpack : sentPack k (s.lockedPass.heap p).setEol = nextPack k (toSend k s.scenes) := by
        have heol : (s.lockedPass.heap p).eol = false := hfills.eol
        unfold Pack.setEol
        rw [htotal]
        by_cases hzero : ((toSend k s.scenes).drop packMaxcount).length = 0
        · rw [if_pos hzero, nextPack, decide_eq_true hzero, ← hitems, ← htotal]
          rfl
        · rw [if_neg hzero, nextPack, decide_eq_false hzero, ← hitems, ← htotal, ← heol]
          rfl
      rw [hend, hpack]
    · rw [hscenes, hleft]
    · rw [hscenes]
      exact hfills.other l hl
    · rw [hscenes]
      exact hfills.unmarked

/-! ## All calls -/

/-- **What is delivered** of the items of one kind. -/
structure Delivered (k : Kind) (items : List (Item S)) (packs : List (SentPack S)) : Prop where
  kind : ∀ p ∈ packs, p.kind = k
  /-- every item once, in order -/
  items : packs.flatMap (·.items) = items
  size : ∀ p ∈ packs, p.items ≠ [] ∧ p.items.length ≤ packMaxcount
  /-- Each pack says how many are to come, and the last one that it is the last. -/
  counted : ∀ before p after, packs = before ++ p :: after →
    p.totalLeft = (after.flatMap (·.items)).length ∧ (p.eol = true ↔ after = [])

theorem Delivered.nil (k : Kind) : Delivered (S := S) k [] [] :=
  ⟨nofun, rfl, nofun, fun before p after h => by
    have := congrArg List.length h
    simp at this⟩

/-- Where no item is to be sent, there is no pack. -/
theorem Delivered.packs_nil {k : Kind} {packs : List (SentPack S)} (h : Delivered k [] packs) :
    packs = [] := by
  cases packs with
  | nil => rfl
  | cons p ps =>
    have hitems := h.items
    rw [List.flatMap_cons, List.append_eq_nil_iff] at hitems
    exact absurd hitems.1 (h.size p (.head _)).1

theorem Delivered.next {k : Kind} {items : List (Item S)} {packs : List (SentPack S)}
    (hsome : items ≠ []) (h : Delivered k (items.drop packMaxcount) packs) :
    Delivered k items (nextPack k items :: packs) := by
  refine ⟨?_, ?_, ?_, fun before p after hsplit => ?_⟩
  · exact List.forall_mem_cons.mpr ⟨rfl, h.kind⟩
  · rw [List.flatMap_cons, h.items]
    exact List.take_append_drop _ _
  · refine List.forall_mem_cons.mpr ⟨⟨fun hnil => ?_, ?_⟩, h.size⟩
    · exact (List.take_eq_nil_iff.mp hnil).elim nofun hsome
    · exact (List.length_take_le _ _)
  · cases before with
    | nil =>
      cases hsplit
      refine ⟨?_, ?_⟩
      · rw [h.items]
        rfl
      · rw [nextPack, decide_eq_true_eq, List.length_eq_zero_iff]
        constructor
        · intro hnil
          rw [hnil] at h
          exact h.packs_nil
        · rintro rfl
          exact h.items.symm
    | cons q before =>
      rw [List.cons_append, List.cons.injEq] at hsplit
      exact h.counted before p after hsplit.2

/-- The number of items that are to be sent. -/
def owed (s : Container S) : Nat :=
  (toSend .scene s.scenes).length + (toSend .state s.scenes).length

theorem Sends.owed_lt {k : Kind} (h : Sends k s s') : s'.owed < s.owed := by
  have hpos := List.length_pos_iff.mpr h.some_item
  have hmax : 0 < packMaxcount := by decide
  have hlen := congrArg List.length h.sent
  rw [List.length_drop] at hlen
  unfold owed
  cases k with
  | scene =>
    rw [h.other .state nofun]
    omega
  | state =>
    rw [h.other .scene nofun]
    omega

theorem Calls.delivered {out : List (SentPack S)} (hcalls : Calls updateRemote s out s') :
    s.Idle → s.protoVersion ≥ 18 → ∃ scenePacks statePacks, out = scenePacks ++ statePacks ∧
      Delivered .scene (toSend .scene s.scenes) scenePacks ∧
      Delivered .state (toSend .state s.scenes) statePacks ∧
      s'.scenes = s.scenes.map Scene.unmarked ∧ s'.Idle := by
  induction hcalls with
  | @last s s' out hcall =>
    intro hidle hproto
    obtain ⟨s₁, hspec, hscenes, hidle', hnone⟩ | ⟨k, s₁, hspec, -⟩ := updateRemote_spec hidle hproto
    · cases hcall.symm.trans hspec
      have hnil (k : Kind) : toSend k s.scenes = [] :=
        toSend_eq_nil.mpr fun sc hsc => changed_of_unchanged (hnone sc hsc) k
      refine ⟨[], [], rfl, ?_, ?_, ?_, hidle'⟩
      · rw [hnil]
        exact .nil _
      · rw [hnil]
        exact .nil _
      · rw [hscenes]
        refine ((List.map_congr_left fun sc hsc => ?_).trans (List.map_id _)).symm
        have hscene : sc.indicator.sceneChanged = false :=
          changed_of_unchanged (hnone sc hsc) .scene
        have hstate : sc.indicator.stateChanged = false :=
          changed_of_unchanged (hnone sc hsc) .state
        obtain ⟨_, _, _, _, _, _, sceneChanged, stateChanged⟩ := sc
        cases hscene
        cases hstate
        rfl
    · cases hcall.symm.trans hspec
  | @again s s₁ s' out outs hcall _ ih =>
    intro hidle hproto
    obtain ⟨s₂, hspec, -⟩ | ⟨k, s₂, hspec, hsends, hstate⟩ := updateRemote_spec hidle hproto
    · cases hcall.symm.trans hspec
    · cases hcall.symm.trans hspec
      obtain ⟨scenePacks, statePacks, rfl, hscene, hstates, hscenes, hend⟩ :=
        ih hsends.idle (hsends.protoVersion ▸ hproto)
      have hmarks : s'.scenes = s.scenes.map Scene.unmarked := hscenes.trans hsends.unmarked
      cases k with
      | scene =>
        rw [hsends.sent] at hscene
        rw [hsends.other .state nofun] at hstates
        exact ⟨_ :: scenePacks, statePacks, rfl, hscene.next hsends.some_item, hstates, hmarks,
          hend⟩
      | state =>
        rw [hsends.sent] at hstates
        rw [hsends.other .scene nofun, hstate rfl] at hscene
        cases hscene.packs_nil
        rw [hstate rfl]
        exact ⟨[], _ :: statePacks, rfl, hscene, hstates.next hsends.some_item, hmarks, hend⟩
/-- **The scenes are sent completely**: the calls come to an end, all packs of scenes come before
all packs of states, and no scene is marked any more. -/
theorem scenes_synchronised (hidle : s.Idle) (hproto : s.protoVersion ≥ 18) :
    ∃ scenePacks statePacks s', Calls updateRemote s (scenePacks ++ statePacks) s' ∧
      Delivered .scene (toSend .scene s.scenes) scenePacks ∧
      Delivered .state (toSend .state s.scenes) statePacks ∧
      s'.scenes = s.scenes.map Scene.unmarked ∧ s'.Idle := by
  have hstep : ∀ (s : Container S) out s', (s.Idle ∧ s.protoVersion ≥ 18) →
      s.updateRemote = (true, out, s') →
      (s'.Idle ∧ s'.protoVersion ≥ 18) ∧ s'.owed < s.owed := by
    rintro s out s' ⟨hidle, hproto⟩ hcall
    obtain ⟨s₂, hspec, -⟩ | ⟨k, s₂, hspec, hsends, -⟩ := updateRemote_spec hidle hproto
    · cases hcall.symm.trans hspec
    · cases hcall.symm.trans hspec
      exact ⟨⟨hsends.idle, hsends.protoVersion ▸ hproto⟩, hsends.owed_lt⟩
  obtain ⟨out, s', hcalls⟩ := calls_end owed hstep s ⟨hidle, hproto⟩
  obtain ⟨scenePacks, statePacks, rfl, hrest⟩ := Calls.delivered hcalls hidle hproto
  exact ⟨scenePacks, statePacks, s', hcalls, hrest⟩

theorem scenes_synchronised_two :
    let scene (id : Int) (ind : Indicator) : Scene Bool := ⟨id, 0, 0, 0, none, true, ind⟩
    let start : Container Bool :=
      ⟨23, [scene 1 ⟨false, true⟩, scene 2 ⟨true, true⟩], .init, false, fun _ => none,
        fun _ => .empty, 0, fun _ => .idle false, [], false, false⟩
    toSend .scene start.scenes = [.scene 2 0 0 0 []] ∧
      ∃ scenePacks statePacks s', Calls updateRemote start (scenePacks ++ statePacks) s' ∧
        Delivered .scene (toSend .scene start.scenes) scenePacks ∧
        Delivered .state (toSend .state start.scenes) statePacks ∧
        s'.scenes = start.scenes.map Scene.unmarked ∧ s'.Idle :=
  ⟨rfl, scenes_synchronised ⟨fun _ => rfl, rfl, rfl⟩ (by decide)⟩

/-! ## A thread that is alone -/

/-- Only one thread moves. -/
def Alone (t : Nat) : Container S → Act S → Prop := fun _ a => a = .thread t

theorem setPc_pcs (t : Nat) (pc : Pc) (s : Container S) : (s.setPc t pc).pcs t = pc := if_pos rfl

theorem setPc_setPc (t : Nat) (pc pc' : Pc) (s : Container S) :
    (s.setPc t pc).setPc t pc' = s.setPc t pc' := by
  have hpcs : (fun u => if u = t then pc' else (s.setPc t pc).pcs u) =
      fun u => if u = t then pc' else s.pcs u := by
    funext u
    by_cases hu : u = t
    · rw [if_pos hu, if_pos hu]
    · rw [if_neg hu, if_neg hu]
      exact if_neg hu
  exact congrArg (fun pcs => { s with pcs := pcs }) hpcs

theorem setPc_self {t : Nat} {pc : Pc} (h : s.pcs t = pc) : s.setPc t pc = s := by
  have hpcs : (fun u => if u = t then pc else s.pcs u) = s.pcs := by
    funext u
    split
    · rename_i hu
      rw [hu, h]
    · rfl
  exact congrArg (fun pcs => { s with pcs := pcs }) hpcs

theorem deref_setPc (k : Kind) (f : Pack S → Pack S) (t : Nat) (pc : Pc) (s : Container S) :
    (s.setPc t pc).deref k f = (s.deref k f).setPc t pc := by
  have hpack : (s.setPc t pc).pack k = s.pack k := rfl
  unfold deref
  rw [hpack]
  cases s.pack k <;> rfl

theorem derefUnlessNull_setPc (k : Kind) (f : Pack S → Pack S) (t : Nat) (pc : Pc)
    (s : Container S) :
    (s.setPc t pc).derefUnlessNull k f = (s.derefUnlessNull k f).setPc t pc := by
  have hpack : (s.setPc t pc).pack k = s.pack k := rfl
  unfold derefUnlessNull
  rw [hpack]
  cases s.pack k <;> rfl

theorem handOver_setPc (k : Kind) (t : Nat) (pc : Pc) (s : Container S) :
    (s.setPc t pc).handOver k = (s.handOver k).setPc t pc :=
  deref_setPc k _ t pc { s with log := .handed (s.itemsOf k) :: s.log }

section
variable [DecidableEq S] {s₀ : Container S} {t : Nat}

/-- The next step of the thread. -/
theorem Reach.moves {pc pc' : Pc} {u : Container S}
    (h : Reach ((machine S).startingAt s₀) (Alone t) (s.setPc t pc))
    (hs : (s.setPc t pc).threadStep t = u.setPc t pc') :
    Reach ((machine S).startingAt s₀) (Alone t) (u.setPc t pc') :=
  h.act (.thread t) rfl (congrArg some hs)

theorem endPack_reach {k : Kind}
    (h : Reach ((machine S).startingAt s₀) (Alone t) (s.setPc t (.check k))) :
    Reach ((machine S).startingAt s₀) (Alone t) ((s.endPack k).2.setPc t (afterPack k)) := by
  have hcheck : (s.setPc t (.check k)).threadStep t =
      s.setPc t (if (s.pack k).isSome then .count k else afterPack k) := by
    rw [threadStep, setPc_pcs]
    exact setPc_setPc ..
  have h := Reach.moves h hcheck
  rw [endPack]
  cases hpack : s.pack k with
  | none =>
    rw [hpack] at h
    exact h
  | some p =>
    rw [hpack] at h
    have hcount : (s.setPc t (.count k)).threadStep t =
        (s.deref k id).setPc t (if s.itemsOf k = [] then .delete k else .setEol k) := by
      rw [threadStep, setPc_pcs]
      show ((s.setPc t (.count k)).deref k id).setPc t _ = _
      rw [deref_setPc, setPc_setPc]
      rfl
    have h := Reach.moves h hcount
    have hdelete : ∀ u : Container S,
        Reach ((machine S).startingAt s₀) (Alone t) (u.setPc t (.delete k)) →
          Reach ((machine S).startingAt s₀) (Alone t)
            (((u.derefUnlessNull k fun b => { b with deleted := true }).setPointer k none).setPc t
              (afterPack k)) := by
      intro u h
      have hdelete : (u.setPc t (.delete k)).threadStep t =
          (u.derefUnlessNull k fun b => { b with deleted := true }).setPc t (.null k) := by
        rw [threadStep, setPc_pcs]
        show ((u.setPc t (.delete k)).derefUnlessNull k _).setPc t (.null k) = _
        rw [derefUnlessNull_setPc, setPc_setPc]
      refine Reach.moves (Reach.moves h hdelete) ?_
      rw [threadStep, setPc_pcs]
      exact setPc_setPc t (.null k) (afterPack k) (Container.setPointer k none _)
    dsimp only
    by_cases hitems : s.itemsOf k = []
    · rw [if_pos hitems] at h ⊢
      exact hdelete _ h
    · rw [if_neg hitems] at h ⊢
      have heol : ((s.deref k id).setPc t (.setEol k)).threadStep t =
          ((s.deref k id).derefUnlessNull k Pack.setEol).setPc t (.hand k) := by
        rw [threadStep, setPc_pcs]
        show (((s.deref k id).setPc t (.setEol k)).derefUnlessNull k _).setPc t (.hand k) = _
        rw [derefUnlessNull_setPc, setPc_setPc]
      have hhand : (((s.deref k id).derefUnlessNull k Pack.setEol).setPc t (.hand k)).threadStep t =
          (((s.deref k id).derefUnlessNull k Pack.setEol).handOver k).setPc t (.delete k) := by
        rw [threadStep, setPc_pcs]
        show (Container.handOver k (Container.setPc t (.hand k) _)).setPc t (.delete k) = _
        rw [handOver_setPc, setPc_setPc]
      exact hdelete _ (Reach.moves (Reach.moves h heol) hhand)

/-- **A call is what a thread does that is alone**, from the lock on. -/
theorem updateRemote_reach (hpc : s₀.pcs t = .entered) (hproto : s₀.protoVersion ≥ 18) :
    Reach ((machine S).startingAt s₀) (Alone t)
      (s₀.updateRemote.2.2.setPc t (.idle s₀.updateRemote.1)) := by
  have h : Reach ((machine S).startingAt s₀) (Alone t) (s₀.setPc t .entered) :=
    .init (setPc_self hpc)
  have hpass : (s₀.setPc t .entered).threadStep t = s₀.lockedPass.setPc t .passed := by
    rw [setPc_self hpc, threadStep, hpc]
  have h := Reach.moves h hpass
  have hpassed : (s₀.lockedPass.setPc t .passed).threadStep t = s₀.lockedPass.setPc t
      (if s₀.lockedPass.updater.transactionStarted then .check .scene else .idle false) := by
    rw [threadStep, setPc_pcs]
    exact setPc_setPc ..
  have h := Reach.moves h hpassed
  rw [updateRemote, if_pos hproto, endTransaction]
  by_cases hstarted : s₀.lockedPass.updater.transactionStarted = true
  · rw [if_pos hstarted] at h ⊢
    have h := endPack_reach (endPack_reach h)
    have hfinish : ((s₀.lockedPass.onTransactionEnd).2.setPc t .finish).threadStep t =
        Container.setPc t .answer { s₀.lockedPass.onTransactionEnd.2 with
          updater := { s₀.lockedPass.onTransactionEnd.2.updater with
            transactionStarted := false } } := by
      rw [threadStep, setPc_pcs]
      exact setPc_setPc t .finish .answer { s₀.lockedPass.onTransactionEnd.2 with
        updater := { s₀.lockedPass.onTransactionEnd.2.updater with transactionStarted := false } }
    refine Reach.moves (Reach.moves h hfinish) ?_
    rw [threadStep, setPc_pcs]
    exact setPc_setPc ..
  · rw [if_neg hstarted] at h ⊢
    exact h

end

end Container

end Client.Scenes
