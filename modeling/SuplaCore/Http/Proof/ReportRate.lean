import SuplaCore.Http.Proof.StateReport
import SuplaCore.Http.Proof.Throttling

/-!
# How often a channel is reported

As long as the calls for the value of one channel come one after another, there is at most one
request that waits with it, and a new one starts its delay after the last one was picked. So the
requests for a channel are picked at least as far apart as the shortest delay (`reports_spaced`).
-/

namespace Http

open Async Channel Sys

variable {N V : Type} {svc : Service N} {timeoutUsec : Nat} {s s' : Reports N V} {k : Key} {d : Int}

/-! ## Calls one after another -/

/-- The call is about the value of the channel. -/
def CallPc.Concerns (svc : Service N) (k : Key) : CallPc N → Prop
  | .idle => False
  | .entered key note => key = k ∧ svc.isAnyActionSet note = false
  | .allowed key note _ => key = k ∧ svc.isAnyActionSet note = false
  | .delayed key note _ => key = k ∧ svc.isAnyActionSet note = false
  | .found key note _ => key = k ∧ svc.isAnyActionSet note = false
  | .missing key note _ => key = k ∧ svc.isAnyActionSet note = false
  | .started r => r.About svc k

/-- A channel changes only when no call for its value is under way. -/
def Serial (svc : Service N) (s : Reports N V) : Act N V → Prop
  | .change _ key _ _ => ∀ u, ¬ (s.callers u).Concerns svc key
  | _ => True

/-! ## The invariant -/

namespace Reports

/-- A request that waits in the queue with the value of a channel. -/
structure Waits (svc : Service N) (s : Reports N V) (k : Key) (i : Nat) : Prop where
  mem : i ∈ s.queue
  about : (s.requests i).About svc k
  state : (s.requests i).task.state = .waiting

/-- A task that may not be picked before the delay is over since the last one was. -/
def Later (d : Int) (s : Reports N V) (k : Key) (t : Task) : Prop :=
  ∃ start, t.executionStartTime = some start ∧ ∀ now, .picked k now ∈ s.log → now + d ≤ start

end Reports

/-- A call that has found no request, or has made one. -/
def CallPc.Adds (svc : Service N) (k : Key) : CallPc N → Prop
  | .missing key note _ => key = k ∧ svc.isAnyActionSet note = false
  | .started r => r.About svc k
  | _ => False

/-- The delay that a call has been told. -/
def CallPc.delay : CallPc N → Option Int
  | .delayed _ _ delay => some delay
  | .missing _ _ delay => some delay
  | _ => none

/-- Requests for one channel are picked at least `d` apart. -/
def Apart (d : Int) (e e' : Event N V) : Prop :=
  ∀ k now now', e = .picked k now → e' = .picked k now' → now' + d ≤ now

structure Spaced (svc : Service N) (d : Int) (s : Reports N V) : Prop where
  past : ∀ k now, .picked k now ∈ s.log → now ≤ s.now
  serial : ∀ u v k, (s.callers u).Concerns svc k → (s.callers v).Concerns svc k → u = v
  delays : ∀ u delay, (s.callers u).delay = some delay → d ≤ delay
  single : ∀ k i j, s.Waits svc k i → s.Waits svc k j → i = j
  adds : ∀ u k i, (s.callers u).Adds svc k → ¬ s.Waits svc k i
  started : ∀ u k r, s.callers u = .started r → r.About svc k → s.Later d k r.task
  waits : ∀ k i, s.Waits svc k i → s.Later d k (s.requests i).task
  apart : s.log.Pairwise (Apart d)

theorem CallPc.Adds.concerns {pc : CallPc N} (h : pc.Adds svc k) : pc.Concerns svc k := by
  cases pc with
  | missing key note delay => exact h
  | started r => exact h
  | idle | entered | allowed | delayed | found => exact h.elim

theorem CallPc.Concerns.key_eq {pc : CallPc N} {k' : Key} (h : pc.Concerns svc k)
    (h' : pc.Concerns svc k') : k = k' := by
  cases pc with
  | idle => exact h.elim
  | entered | allowed | delayed | found | missing => exact h.1.symm.trans h'.1
  | started r => exact h.key.symm.trans h'.key

/-- The event tells of no pick. -/
def Event.Quiet (e : Event N V) : Prop := ∀ k now, e ≠ .picked k now

theorem quiet_nil : ∀ e ∈ ([] : List (Event N V)), e.Quiet := by
  intro e he
  cases he

theorem quiet_single {e : Event N V} (he : e.Quiet) : ∀ x ∈ [e], x.Quiet := by
  intro x hx
  rw [List.mem_singleton.1 hx]
  exact he

theorem picked_of_append {es log : List (Event N V)} (hes : ∀ e ∈ es, e.Quiet) {now : Int}
    (h : .picked k now ∈ es ++ log) : .picked k now ∈ log :=
  (List.mem_append.1 h).resolve_left fun he => hes _ he k now rfl

theorem apart_append {es log : List (Event N V)} (hes : ∀ e ∈ es, e.Quiet)
    (h : log.Pairwise (Apart d)) : (es ++ log).Pairwise (Apart d) := by
  induction es with
  | nil => exact h
  | cons e es ih =>
    obtain ⟨he, hrest⟩ := List.forall_mem_cons.1 hes
    exact List.pairwise_cons.2 ⟨fun _ _ k now _ hpicked => absurd hpicked (he k now), ih hrest⟩

theorem Reports.Later.quiet {t : Task} {es : List (Event N V)} (h : s.Later d k t)
    (hlog : s'.log = es ++ s.log) (hes : ∀ e ∈ es, e.Quiet) : s'.Later d k t := by
  obtain ⟨start, hstart, hlast⟩ := h
  refine ⟨start, hstart, fun now hnow => hlast now ?_⟩
  rw [hlog] at hnow
  exact picked_of_append hes hnow

/-! ## Steps of a call -/

variable {th : Nat} {pc : CallPc N} {es : List (Event N V)}

theorem Reports.Waits.congr {i : Nat} (h : s'.Waits svc k i) (hrequests : s'.requests = s.requests)
    (hqueue : s'.queue = s.queue) : s.Waits svc k i :=
  ⟨hqueue ▸ h.mem, hrequests ▸ h.about, hrequests ▸ h.state⟩

/-- The invariant over a step of a call that leaves the requests alone. -/
theorem Spaced.calls (h : Spaced svc d s) (hs : Calls s s' th pc es) (hnow : s'.now = s.now)
    (hes : ∀ e ∈ es, e.Quiet)
    (hconcerns : ∀ k, pc.Concerns svc k → ∀ u, (s.callers u).Concerns svc k → u = th)
    (hdelay : ∀ delay, pc.delay = some delay → d ≤ delay)
    (hadds : ∀ k i, pc.Adds svc k → ¬ s.Waits svc k i)
    (hstarted : ∀ k r, pc = .started r → r.About svc k → s.Later d k r.task) :
    Spaced svc d s' := by
  refine ⟨?_, ?_, ?_, ?_, ?_, ?_, ?_, ?_⟩
  · intro k now hpicked
    rw [hs.log] at hpicked
    rw [hnow]
    exact h.past k now (picked_of_append hes hpicked)
  · intro u v k hu hv
    rw [hs.callers] at hu hv
    split at hu
    · rename_i hut
      split at hv
      · rename_i hvt
        rw [hut, hvt]
      · exact hut.trans (hconcerns k hu v hv).symm
    · split at hv
      · rename_i hvt
        exact (hconcerns k hv u hu).trans hvt.symm
      · exact h.serial u v k hu hv
  · intro u delay hu
    rw [hs.callers] at hu
    split at hu
    · exact hdelay delay hu
    · exact h.delays u delay hu
  · intro k i j hi hj
    exact h.single k i j (hi.congr hs.requests hs.queue) (hj.congr hs.requests hs.queue)
  · intro u k i hu hi
    rw [hs.callers] at hu
    split at hu
    · exact hadds k i hu (hi.congr hs.requests hs.queue)
    · exact h.adds u k i hu (hi.congr hs.requests hs.queue)
  · intro u k r hu hr
    rw [hs.callers] at hu
    split at hu
    · exact (hstarted k r hu hr).quiet hs.log hes
    · exact (h.started u k r hu hr).quiet hs.log hes
  · intro k i hi
    rw [hs.requests]
    exact (h.waits k i (hi.congr hs.requests hs.queue)).quiet hs.log hes
  · rw [hs.log]
    exact apart_append hes h.apart

/-- A step that goes on with what the call concerns. -/
theorem Spaced.calls_on (h : Spaced svc d s) (hs : Calls s s' th pc es) (hnow : s'.now = s.now)
    (hes : ∀ e ∈ es, e.Quiet)
    (hconcerns : ∀ k, pc.Concerns svc k → (s.callers th).Concerns svc k)
    (hdelay : ∀ delay, pc.delay = some delay → d ≤ delay)
    (hadds : ∀ k i, pc.Adds svc k → ¬ s.Waits svc k i)
    (hstarted : ∀ k r, pc = .started r → r.About svc k → s.Later d k r.task) :
    Spaced svc d s' :=
  h.calls hs hnow hes (fun k hk u hu => h.serial u th k hu (hconcerns k hk)) hdelay hadds hstarted

/-- A note is replaced by one that is as much about actions. -/
theorem Spaced.setNote (h : Spaced svc d s) {i : Nat} {note : N}
    (hnote : svc.isAnyActionSet note = svc.isAnyActionSet (s.requests i).note) :
    Spaced svc d (s.setRequest i { s.requests i with note := note }) := by
  obtain ⟨s', hs'⟩ : ∃ s', s' = s.setRequest i { s.requests i with note := note } := ⟨_, rfl⟩
  have hsame : ∀ j, (s'.requests j).key = (s.requests j).key ∧
      svc.isAnyActionSet (s'.requests j).note = svc.isAnyActionSet (s.requests j).note ∧
      (s'.requests j).task = (s.requests j).task := by
    intro j
    rw [hs', Reports.setRequest]
    dsimp only
    split
    · rename_i hj
      rw [hj]
      exact ⟨rfl, hnote, rfl⟩
    · exact ⟨rfl, rfl, rfl⟩
  have hwaits : ∀ k j, s'.Waits svc k j → s.Waits svc k j := by
    intro k j hj
    obtain ⟨hkey, hvalue, htask⟩ := hsame j
    refine ⟨?_, ⟨hkey.symm.trans hj.about.key, hvalue.symm.trans hj.about.value⟩, ?_⟩
    · have hqueue := hj.mem
      rw [hs'] at hqueue
      exact hqueue
    · rw [← htask]
      exact hj.state
  have hrest : s'.callers = s.callers ∧ s'.now = s.now ∧ s'.log = s.log := by
    rw [hs']
    exact ⟨rfl, rfl, rfl⟩
  obtain ⟨hcallers, hnow, hlog⟩ := hrest
  have hlater : ∀ k t, s.Later d k t → s'.Later d k t := by
    intro k t ht
    unfold Reports.Later
    rwa [hlog]
  rw [← hs']
  refine ⟨?_, ?_, ?_, ?_, ?_, ?_, ?_, ?_⟩
  · rw [hnow, hlog]
    exact h.past
  · rw [hcallers]
    exact h.serial
  · rw [hcallers]
    exact h.delays
  · intro k j j' hj hj'
    exact h.single k j j' (hwaits k j hj) (hwaits k j' hj')
  · intro u k j hu hj
    rw [hcallers] at hu
    exact h.adds u k j hu (hwaits k j hj)
  · intro u k r hu hr
    rw [hcallers] at hu
    exact hlater k _ (h.started u k r hu hr)
  · intro k j hj
    rw [(hsame j).2.2]
    exact hlater k _ (h.waits k j (hwaits k j hj))
  · rw [hlog]
    exact h.apart

/-- A request is added that nothing waits with. -/
theorem Spaced.addTask (h : Spaced svc d s) (hinv : Inv svc s) {r : Request N}
    (hpc : s.callers th = .started r) : Spaced svc d ((s.addTask r).setCaller th .idle) := by
  obtain ⟨s', hs'⟩ : ∃ s', s' = (s.addTask r).setCaller th .idle := ⟨_, rfl⟩
  have hself : s'.requests s.created = r := by
    rw [hs']
    exact if_pos rfl
  have hwaits : ∀ k j, s'.Waits svc k j →
      j = s.created ∧ r.About svc k ∨ s.Waits svc k j ∧ s'.requests j = s.requests j := by
    intro k j hj
    have hqueue := hj.mem
    rw [hs'] at hqueue
    obtain rfl | hqueue := Life.mem_insert.1 hqueue
    · exact .inl ⟨rfl, hself ▸ hj.about⟩
    · have hother : s'.requests j = s.requests j := by
        rw [hs']
        exact if_neg (Nat.ne_of_lt (hinv.queued j hqueue))
      exact .inr ⟨⟨hqueue, hother ▸ hj.about, hother ▸ hj.state⟩, hother⟩
  have hadds : ∀ k, r.About svc k → (s.callers th).Adds svc k := by
    intro k hr
    rwa [hpc]
  have hcallers : ∀ u, s'.callers u = if u = th then .idle else s.callers u := by
    intro u
    rw [hs']
    rfl
  have hrest : s'.now = s.now ∧ s'.log = s.log := by
    rw [hs']
    exact ⟨rfl, rfl⟩
  obtain ⟨hnow, hlog⟩ := hrest
  have hlater : ∀ k t, s.Later d k t → s'.Later d k t := by
    intro k t ht
    unfold Reports.Later
    rwa [hlog]
  rw [← hs']
  refine ⟨?_, ?_, ?_, ?_, ?_, ?_, ?_, ?_⟩
  · rw [hnow, hlog]
    exact h.past
  · intro u v k hu hv
    rw [hcallers] at hu hv
    split at hu
    · exact hu.elim
    · split at hv
      · exact hv.elim
      · exact h.serial u v k hu hv
  · intro u delay hu
    rw [hcallers] at hu
    split at hu
    · cases hu
    · exact h.delays u delay hu
  · intro k i j hi hj
    obtain ⟨rfl, hr⟩ | ⟨hi, -⟩ := hwaits k i hi
    · obtain ⟨rfl, -⟩ | ⟨hj, -⟩ := hwaits k j hj
      · rfl
      · exact absurd hj (h.adds th k j (hadds k hr))
    · obtain ⟨rfl, hr⟩ | ⟨hj, -⟩ := hwaits k j hj
      · exact absurd hi (h.adds th k i (hadds k hr))
      · exact h.single k i j hi hj
  · intro u k i hu hi
    rw [hcallers] at hu
    split at hu
    · exact hu
    · rename_i hut
      obtain ⟨-, hr⟩ | ⟨hi, -⟩ := hwaits k i hi
      · exact hut (h.serial u th k hu.concerns (hadds k hr).concerns)
      · exact h.adds u k i hu hi
  · intro u k r' hu hr
    rw [hcallers] at hu
    split at hu
    · cases hu
    · exact hlater k _ (h.started u k r' hu hr)
  · intro k i hi
    obtain ⟨rfl, hr⟩ | ⟨hi, hother⟩ := hwaits k i hi
    · rw [hself]
      exact hlater k _ (h.started th k r hpc hr)
    · rw [hother]
      exact hlater k _ (h.waits k i hi)
  · rw [hlog]
    exact h.apart

theorem Reports.findTask_none {key : Key} {note : N} {i : Nat}
    (h : s.findTask svc key note = none) (hkey : key = k)
    (hnote : svc.isAnyActionSet note = false) : ¬ s.Waits svc k i := by
  intro hi
  refine List.find?_eq_none.1 h i hi.mem ?_
  unfold Request.conditionMet
  rw [Bool.and_eq_true, Bool.and_eq_true, decide_eq_true_eq, decide_eq_true_eq, beq_iff_eq]
  exact ⟨⟨hi.about.key.trans hkey.symm, hi.about.value.trans hnote.symm⟩, hi.state⟩

/-- A request that is made now comes after the last pick and the delay. -/
theorem Spaced.later_new (h : Spaced svc d s) {key : Key} {note : N} {delay : Int}
    (hdelay : d ≤ delay) :
    s.Later d k (Request.new svc timeoutUsec s.now key note delay).task := by
  refine ⟨if delay > 0 then s.now + delay else s.now, rfl, fun now hnow => ?_⟩
  have hpast := h.past k now hnow
  split <;> omega

theorem Spaced.callStep (h : Spaced svc d s) (hinv : Inv svc s)
    (hd : ∀ func, d ≤ svc.throttling.getDefaultDelayTime func ∧
      d ≤ svc.throttling.getDelayTimeOverThreadshold func)
    {g : Gate} (hs : s.callStep svc timeoutUsec th g = some s') : Spaced svc d s' := by
  unfold Reports.callStep at hs
  cases hpc : s.callers th with
  | idle =>
    rw [hpc] at hs
    cases hs
  | entered key note =>
    rw [hpc] at hs
    cases hs
    split
    · refine h.calls_on ⟨fun u => rfl, rfl, rfl, rfl, rfl, rfl, rfl⟩ rfl quiet_nil (fun k hk => ?_)
        (by intro _ hf; cases hf) (by intro _ _ hf; cases hf) (by intro _ _ hf; cases hf)
      rwa [hpc]
    · have hcalls : Calls s ((s.tell (.refused key)).setCaller th .idle) th .idle
          [.refused key] := ⟨fun u => rfl, rfl, rfl, rfl, rfl, rfl, rfl⟩
      exact h.calls_on hcalls rfl (quiet_single (by intro _ _ hf; cases hf))
        (fun k hk => hk.elim) (by intro _ hf; cases hf) (by intro _ _ hf; cases hf)
        (by intro _ _ hf; cases hf)
  | allowed key note func =>
    rw [hpc] at hs
    cases hs
    refine h.calls_on ⟨fun u => rfl, rfl, rfl, rfl, rfl, rfl, rfl⟩ rfl quiet_nil (fun k hk => ?_)
      (fun delay hdelay => ?_) (by intro _ _ hf; cases hf) (by intro _ _ hf; cases hf)
    · rwa [hpc]
    · cases hdelay
      exact Throttling.le_getDelayTime hd key.channelId func s.now s.items
  | delayed key note delay =>
    rw [hpc] at hs
    cases hs
    cases hfind : s.findTask svc key note with
    | none =>
      refine h.calls_on ⟨fun u => rfl, rfl, rfl, rfl, rfl, rfl, rfl⟩ rfl quiet_nil (fun k hk => ?_)
        (fun delay' hdelay => ?_) (fun k i hk => ?_) (by intro _ _ hf; cases hf)
      · rwa [hpc]
      · cases hdelay
        exact h.delays th delay (congrArg CallPc.delay hpc)
      · exact Reports.findTask_none hfind hk.1 hk.2
    | some i =>
      refine h.calls_on ⟨fun u => rfl, rfl, rfl, rfl, rfl, rfl, rfl⟩ rfl quiet_nil (fun k hk => ?_)
        (by intro _ hf; cases hf) (by intro _ _ hf; cases hf) (by intro _ _ hf; cases hf)
      rwa [hpc]
  | found key note i =>
    rw [hpc] at hs
    cases hs
    have hkeep := svc.onTask_actions note (s.requests i).note (hinv.found th key note i hpc).2
    exact (h.setNote hkeep).calls_on ⟨fun u => rfl, rfl, rfl, rfl, rfl, rfl, rfl⟩ rfl quiet_nil
      (fun k hk => hk.elim) (by intro _ hf; cases hf) (by intro _ _ hf; cases hf)
      (by intro _ _ hf; cases hf)
  | missing key note delay =>
    have hdelay := h.delays th delay (congrArg CallPc.delay hpc)
    rw [hpc] at hs
    cases hs
    refine h.calls_on ⟨fun u => rfl, rfl, rfl, rfl, rfl, rfl, rfl⟩ rfl quiet_nil (fun k hk => ?_)
      (by intro _ hf; cases hf) (fun k i hk => h.adds th k i ?_) (fun k r hr _ => ?_)
    · rw [hpc]
      exact ⟨hk.key, hk.value⟩
    · rw [hpc]
      exact ⟨hk.key, hk.value⟩
    · cases hr
      exact h.later_new hdelay
  | started r =>
    rw [hpc] at hs
    cases hs
    exact h.addTask hinv hpc

/-! ## Steps of a pool thread -/

/-- A pool thread leaves its task in a state in which nobody waits with it. -/
structure Leaves (s s' : Reports N V) (i : Nat) (es : List (Event N V)) : Prop where
  others : ∀ j, j ≠ i → s'.requests j = s.requests j
  state : (s'.requests i).task.state ≠ .waiting
  queue : ∀ j ∈ s'.queue, j ∈ s.queue
  callers : s'.callers = s.callers
  now : s'.now = s.now
  log : s'.log = es ++ s.log

section
variable {w i : Nat}

theorem Leaves.waits (hs : Leaves s s' i es) {j : Nat} (h : s'.Waits svc k j) :
    j ≠ i ∧ s.Waits svc k j := by
  have hji : j ≠ i := by
    rintro rfl
    exact hs.state h.state
  exact ⟨hji, hs.queue j h.mem, hs.others j hji ▸ h.about, hs.others j hji ▸ h.state⟩

/-- The invariant over a step of a pool thread; `hlater` is about what was told. -/
theorem Spaced.leaves (h : Spaced svc d s) (hs : Leaves s s' i es)
    (hpast : ∀ k now, .picked k now ∈ es → now ≤ s.now)
    (hwaits : ∀ k j, s'.Waits svc k j → s.Later d k (s.requests j).task →
      s'.Later d k (s.requests j).task)
    (hstarted : ∀ u k r, s.callers u = .started r → r.About svc k → s.Later d k r.task →
      s'.Later d k r.task)
    (hapart : s'.log.Pairwise (Apart d)) : Spaced svc d s' := by
  refine ⟨?_, ?_, ?_, ?_, ?_, ?_, ?_, hapart⟩
  · intro k now hpicked
    rw [hs.log] at hpicked
    rw [hs.now]
    exact (List.mem_append.1 hpicked).elim (hpast k now) (h.past k now)
  · rw [hs.callers]
    exact h.serial
  · rw [hs.callers]
    exact h.delays
  · intro k j j' hj hj'
    exact h.single k j j' (hs.waits hj).2 (hs.waits hj').2
  · intro u k j hu hj
    rw [hs.callers] at hu
    exact h.adds u k j hu (hs.waits hj).2
  · intro u k r hu hr
    rw [hs.callers] at hu
    exact hstarted u k r hu hr (h.started u k r hu hr)
  · intro k j hj
    obtain ⟨hji, hold⟩ := hs.waits hj
    rw [hs.others j hji]
    exact hwaits k j hj (h.waits k j hold)

/-- A step that picks no request about a value. -/
theorem Spaced.leaves_quiet (h : Spaced svc d s) (hs : Leaves s s' i es)
    (hes : ∀ e ∈ es, e.Quiet) : Spaced svc d s' := by
  refine h.leaves hs (fun k now he => absurd rfl (hes _ he k now))
    (fun k j _ hj => hj.quiet hs.log hes) (fun u k r _ _ hr => hr.quiet hs.log hes) ?_
  rw [hs.log]
  exact apart_append hes h.apart

/-- **A request is picked**: it waited until the delay was over since the last one was picked, and
no other one waits or is about to. -/
theorem Spaced.leaves_picked (h : Spaced svc d s) {key : Key}
    (hs : Leaves s s' i [.picked key s.now]) (hi : s.Waits svc key i)
    (hdue : (s.requests i).task.timeLeftUsec s.now ≤ 0) : Spaced svc d s' := by
  have hother : ∀ k t, k ≠ key → s.Later d k t → s'.Later d k t := by
    intro k t hne ht
    obtain ⟨start, hstart, hlast⟩ := ht
    refine ⟨start, hstart, fun now hnow => hlast now ?_⟩
    rw [hs.log] at hnow
    obtain heq | hnow := List.mem_cons.1 hnow
    · cases heq
      exact absurd rfl hne
    · exact hnow
  refine h.leaves hs (fun k now he => ?_) (fun k j hj ht => ?_) (fun u k r hu hr ht => ?_) ?_
  · cases List.mem_singleton.1 he
    exact Int.le_refl _
  · obtain ⟨hji, hold⟩ := hs.waits hj
    refine hother k _ (fun hk => hji ?_) ht
    subst hk
    exact h.single k j i hold hi
  · refine hother k _ (fun hk => h.adds u k i ?_ (hk ▸ hi)) ht
    rw [hu]
    exact hr
  · rw [hs.log]
    refine List.pairwise_cons.2 ⟨fun e he k now now' hpicked hlast => ?_, h.apart⟩
    cases hpicked
    obtain ⟨start, hstart, hbound⟩ := h.waits key i hi
    rw [Task.timeLeftUsec, hstart] at hdue
    dsimp only at hdue
    have hfar := hbound now' (hlast ▸ he)
    omega

/-- A task that its thread does not find waiting. -/
theorem Inv.busy (h : Inv svc s) (hw : (s.workers w).holds = some i) :
    (s.requests i).task.state ≠ .waiting := (h.fits w i hw).not_waiting hw

theorem Works.leaves {t : Task} {pc' : WorkPc N V} (hs : Works s s' w i t pc' es)
    (hnow : s'.now = s.now) (ht : t.state ≠ .waiting) : Leaves s s' i es := by
  refine ⟨fun j hj => ?_, ?_, hs.queue, hs.callers, hnow, hs.log⟩
  · rw [hs.requests, if_neg hj]
  · rw [hs.requests, if_pos rfl]
    exact ht

/-- What a step of a pool thread leaves: only the one that picks a request tells of a pick. -/
theorem Inv.workStep_cases (h : Inv svc s) {tokenExists result : Bool}
    (hs : s.workStep svc w tokenExists result = some s') :
    ∃ i es, Leaves s s' i es ∧ ((∀ e ∈ es, e.Quiet) ∨
      ∃ key, es = [.picked key s.now] ∧ s.Waits svc key i ∧
        (s.requests i).task.timeLeftUsec s.now ≤ 0) := by
  cases hpc : s.workers w with
  | idle =>
    unfold Reports.workStep at hs
    rw [hpc] at hs
    obtain ⟨i, hi, hs⟩ := Option.map_eq_some_iff.1 hs
    obtain ⟨hqueue, hwaiting, hdue⟩ := Reports.findDue_some hi
    have hpicked : (s.requests i).task.pick.2.state ≠ .waiting := by
      rw [Task.pick, if_pos hwaiting]
      exact TaskState.noConfusion
    dsimp only at hs
    split at hs
    · have hworks : Works s s' w i (s.requests i).task.pick.2 (.picked i) [] := by
        rw [← hs]
        exact ⟨fun v => rfl, fun j => rfl, rfl, rfl, rfl, fun j hj => hj, fun j _ hj => hj, rfl⟩
      exact ⟨i, [], hworks.leaves (by rw [← hs]; rfl) hpicked, .inl quiet_nil⟩
    · rename_i hvalue
      have hworks : Works s s' w i (s.requests i).task.pick.2 (.picked i)
          [.picked (s.requests i).key s.now] := by
        rw [← hs]
        exact ⟨fun v => rfl, fun j => rfl, rfl, rfl, rfl, fun j hj => hj, fun j _ hj => hj, rfl⟩
      exact ⟨i, _, hworks.leaves (by rw [← hs]; rfl) hpicked, .inr ⟨_, rfl,
        ⟨hqueue, ⟨rfl, Bool.eq_false_iff.2 hvalue⟩, hwaiting⟩, hdue⟩⟩
  | picked i =>
    have hw : (s.workers w).holds = some i := congrArg WorkPc.holds hpc
    have hstate : (s.requests i).task.state = .picked := by
      have hfits := h.fits w i hw
      rwa [hpc] at hfits
    have hbegun : ((s.requests i).task.executeBegin s.now).2.state ≠ .waiting := by
      rw [Task.executeBegin, if_pos hstate]
      split <;> exact TaskState.noConfusion
    unfold Reports.workStep at hs
    rw [hpc] at hs
    have hs := Option.some.inj hs
    split at hs
    · have hworks : Works s s' w i ((s.requests i).task.executeBegin s.now).2 (.running i) [] := by
        rw [← hs]
        exact ⟨fun v => rfl, fun j => rfl, rfl, rfl, rfl, fun j hj => hj, fun j _ hj => hj, rfl⟩
      exact ⟨i, [], hworks.leaves (by rw [← hs]; rfl) hbegun, .inl quiet_nil⟩
    · have hworks : Works s s' w i ((s.requests i).task.executeBegin s.now).2 (.finished i)
          [.dropped (s.requests i).key] := by
        rw [← hs]
        exact ⟨fun v => rfl, fun j => rfl, rfl, rfl, rfl, fun j hj => hj, fun j _ hj => hj, rfl⟩
      exact ⟨i, _, hworks.leaves (by rw [← hs]; rfl) hbegun,
        .inl (quiet_single (by intro _ _ hf; cases hf))⟩
  | running i =>
    have hbusy := h.busy (congrArg WorkPc.holds hpc : (s.workers w).holds = some i)
    unfold Reports.workStep at hs
    rw [hpc] at hs
    have hs := Option.some.inj hs
    split at hs
    · refine ⟨i, [.dropped (s.requests i).key], ?_,
        .inl (quiet_single (by intro _ _ hf; cases hf))⟩
      rw [← hs]
      exact ⟨fun j _ => rfl, hbusy, fun j hj => hj, rfl, rfl, rfl⟩
    · split at hs
      · refine ⟨i, [.actionsSent (s.requests i).key (s.requests i).note], ?_,
          .inl (quiet_single (by intro _ _ hf; cases hf))⟩
        rw [← hs]
        exact ⟨fun j _ => rfl, hbusy, fun j hj => hj, rfl, rfl, rfl⟩
      · refine ⟨i, [], ?_, .inl quiet_nil⟩
        rw [← hs]
        exact ⟨fun j _ => rfl, hbusy, fun j hj => hj, rfl, rfl, rfl⟩
  | read i content =>
    have hbusy := h.busy (congrArg WorkPc.holds hpc : (s.workers w).holds = some i)
    unfold Reports.workStep at hs
    rw [hpc] at hs
    have hs := Option.some.inj hs
    refine ⟨i, [], ?_, .inl quiet_nil⟩
    rw [← hs]
    exact ⟨fun j _ => rfl, hbusy, fun j hj => hj, rfl, rfl, rfl⟩
  | noted i content note =>
    have hbusy := h.busy (congrArg WorkPc.holds hpc : (s.workers w).holds = some i)
    unfold Reports.workStep at hs
    rw [hpc] at hs
    have hs := Option.some.inj hs
    refine ⟨i, [], ?_, .inl quiet_nil⟩
    rw [← hs]
    refine ⟨fun j hj => if_neg hj, ?_, fun j hj => hj, rfl, rfl, rfl⟩
    show (if i = i then _ else _ : Request N).task.state ≠ .waiting
    rw [if_pos rfl]
    exact hbusy
  | taken i content note =>
    have hbusy := h.busy (congrArg WorkPc.holds hpc : (s.workers w).holds = some i)
    unfold Reports.workStep at hs
    rw [hpc] at hs
    have hs := Option.some.inj hs
    split at hs
    · refine ⟨i, [.sent (s.requests i).key content note], ?_,
        .inl (quiet_single (by intro _ _ hf; cases hf))⟩
      rw [← hs]
      exact ⟨fun j _ => rfl, hbusy, fun j hj => hj, rfl, rfl, rfl⟩
    · refine ⟨i, [.dropped (s.requests i).key], ?_,
        .inl (quiet_single (by intro _ _ hf; cases hf))⟩
      rw [← hs]
      exact ⟨fun j _ => rfl, hbusy, fun j hj => hj, rfl, rfl, rfl⟩
  | ending i done =>
    have hw : (s.workers w).holds = some i := congrArg WorkPc.holds hpc
    have hstate : (s.requests i).task.state = .executing := by
      have hfits := h.fits w i hw
      rwa [hpc] at hfits
    have hended : ((s.requests i).task.executeEnd s.now false done).state ≠ .waiting := by
      rw [Task.executeEnd, if_pos (by rw [hstate]; decide), if_neg (by decide)]
      cases done <;> exact TaskState.noConfusion
    unfold Reports.workStep at hs
    rw [hpc] at hs
    have hs := Option.some.inj hs
    have hworks : Works s s' w i ((s.requests i).task.executeEnd s.now false done)
        (.finished i) [] := by
      rw [← hs]
      exact ⟨fun v => rfl, fun j => rfl, rfl, rfl, rfl, fun j hj => hj, fun j _ hj => hj, rfl⟩
    exact ⟨i, [], hworks.leaves (by rw [← hs]; rfl) hended, .inl quiet_nil⟩
  | finished i =>
    have hbusy := h.busy (congrArg WorkPc.holds hpc : (s.workers w).holds = some i)
    unfold Reports.workStep at hs
    rw [hpc] at hs
    have hs := Option.some.inj hs
    refine ⟨i, [], ?_, .inl quiet_nil⟩
    rw [← hs]
    exact ⟨fun j _ => rfl, hbusy, fun j hj => List.mem_of_mem_erase hj, rfl, rfl, rfl⟩

theorem Spaced.workStep (h : Spaced svc d s) (hinv : Inv svc s) {tokenExists result : Bool}
    (hs : s.workStep svc w tokenExists result = some s') : Spaced svc d s' := by
  obtain ⟨i, es, hleaves, hquiet | ⟨key, rfl, hwaits, hdue⟩⟩ := hinv.workStep_cases hs
  · exact h.leaves_quiet hleaves hquiet
  · exact h.leaves_picked hleaves hwaits hdue

end

/-! ## Runs -/

/-- Time goes by and channels change; neither touches the requests. -/
theorem Spaced.congr (h : Spaced svc d s) (hnow : s.now ≤ s'.now)
    (hrequests : s'.requests = s.requests) (hqueue : s'.queue = s.queue)
    (hcallers : s'.callers = s.callers) (hlog : s'.log = s.log) : Spaced svc d s' := by
  have hlater : ∀ k t, s.Later d k t → s'.Later d k t := by
    intro k t ht
    unfold Reports.Later
    rwa [hlog]
  refine ⟨?_, ?_, ?_, ?_, ?_, ?_, ?_, ?_⟩
  · intro k now hpicked
    rw [hlog] at hpicked
    exact Int.le_trans (h.past k now hpicked) hnow
  · rw [hcallers]
    exact h.serial
  · rw [hcallers]
    exact h.delays
  · intro k i j hi hj
    exact h.single k i j (hi.congr hrequests hqueue) (hj.congr hrequests hqueue)
  · intro u k i hu hi
    rw [hcallers] at hu
    exact h.adds u k i hu (hi.congr hrequests hqueue)
  · intro u k r hu hr
    rw [hcallers] at hu
    exact hlater k _ (h.started u k r hu hr)
  · intro k i hi
    rw [hrequests]
    exact hlater k _ (h.waits k i (hi.congr hrequests hqueue))
  · rw [hlog]
    exact h.apart

theorem Spaced.step (h : Spaced svc d s) (hinv : Inv svc s)
    (hd : ∀ func, d ≤ svc.throttling.getDefaultDelayTime func ∧
      d ≤ svc.throttling.getDelayTimeOverThreadshold func)
    {a : Act N V} (ha : Serial svc s a) (hs : s.step svc timeoutUsec a = some s') :
    Spaced svc d s' := by
  cases a with
  | tick us =>
    cases hs
    refine h.congr ?_ rfl rfl rfl rfl
    show s.now ≤ s.now + us
    omega
  | change th key note content =>
    rw [Reports.step] at hs
    cases hpc : s.callers th with
    | idle =>
      rw [hpc] at hs
      dsimp only at hs
      split at hs
      · cases hs
      · have hs := Option.some.inj hs
        have hbefore : Spaced svc d
            { s with content := fun k => if k = key then content else s.content k } :=
          h.congr (Int.le_refl _) rfl rfl rfl rfl
        have hcalls : Calls { s with content := fun k => if k = key then content else s.content k }
            s' th (.entered key note) [.changed key] := by
          rw [← hs]
          exact ⟨fun u => rfl, rfl, rfl, rfl, rfl, rfl, rfl⟩
        refine hbefore.calls hcalls (by rw [← hs]; rfl)
          (quiet_single (by intro _ _ hf; cases hf)) (fun k hk u hu => ?_)
          (by intro _ hf; cases hf) (by intro _ _ hf; cases hf) (by intro _ _ hf; cases hf)
        rw [← hk.1] at hu
        exact absurd hu (ha u)
    | entered | allowed | delayed | found | missing | started =>
      rw [hpc] at hs
      cases hs
  | trigger th key note =>
    rw [Reports.step] at hs
    cases hpc : s.callers th with
    | idle =>
      rw [hpc] at hs
      dsimp only at hs
      split at hs
      · rename_i hnote
        cases hs
        refine h.calls_on ⟨fun u => rfl, rfl, rfl, rfl, rfl, rfl, rfl⟩ rfl quiet_nil
          (fun k hk => ?_) (by intro _ hf; cases hf) (by intro _ _ hf; cases hf)
          (by intro _ _ hf; cases hf)
        cases hnote.symm.trans hk.2
      · cases hs
    | entered | allowed | delayed | found | missing | started =>
      rw [hpc] at hs
      cases hs
  | call th g => exact h.callStep hinv hd hs
  | work w tokenExists result => exact h.workStep hinv hs

theorem Spaced.init (hs : (reports svc timeoutUsec V).init s) : Spaced svc d s := by
  obtain ⟨-, -, hqueue, hcallers, -, hlog⟩ := hs
  refine ⟨?_, ?_, ?_, ?_, ?_, ?_, ?_, ?_⟩
  · intro k now hpicked
    rw [hlog] at hpicked
    cases hpicked
  · intro u v k hu
    rw [hcallers] at hu
    exact hu.elim
  · intro u delay hu
    rw [hcallers] at hu
    cases hu
  · intro k i j hi
    have hmem := hi.mem
    rw [hqueue] at hmem
    cases hmem
  · intro u k i hu
    rw [hcallers] at hu
    exact hu.elim
  · intro u k r hu
    rw [hcallers] at hu
    cases hu
  · intro k i hi
    have hmem := hi.mem
    rw [hqueue] at hmem
    cases hmem
  · rw [hlog]
    exact List.Pairwise.nil

theorem Spaced.reach (hd : ∀ func, d ≤ svc.throttling.getDefaultDelayTime func ∧
      d ≤ svc.throttling.getDelayTimeOverThreadshold func)
    (h : Reach (reports svc timeoutUsec V) (Serial svc) s) : Spaced svc d s ∧ Inv svc s :=
  h.invariant (P := fun s => Spaced svc d s ∧ Inv svc s)
    (fun _ hinit => ⟨Spaced.init hinit, Inv.init hinit⟩)
    fun ha hinv hs => ⟨hinv.1.step hinv.2 hd ha hs, hinv.2.step hs⟩

/-- **How often a channel is reported**: as long as the calls for the value of a channel come one
after another, two of its requests are picked at least the shortest delay of the service apart. -/
theorem reports_spaced (svc : Service N) (timeoutUsec : Nat) (d : Int)
    (hd : ∀ func, d ≤ svc.throttling.getDefaultDelayTime func ∧
      d ≤ svc.throttling.getDelayTimeOverThreadshold func)
    (s : Reports N V) (h : Reach (reports svc timeoutUsec V) (Serial svc) s) (k : Key)
    (now now' : Int) (pre mid post : List (Event N V))
    (hlog : s.log = pre ++ .picked k now :: (mid ++ .picked k now' :: post)) : now' + d ≤ now := by
  have hapart := (Spaced.reach hd h).1.apart
  rw [hlog, List.pairwise_append, List.pairwise_cons] at hapart
  exact hapart.2.1.1 _ (List.mem_append_right mid (.head post)) k now now' rfl rfl

theorem alexaChangeReport_delays (func : Int) :
    500000 ≤ Alexa.changeReport.throttling.getDefaultDelayTime func ∧
      500000 ≤ Alexa.changeReport.throttling.getDelayTimeOverThreadshold func := by
  refine ⟨?_, (by decide : (500000 : Int) ≤ 10000000)⟩
  show 500000 ≤ if func = channelfncThermostatHeatpolHomeplus then (2500000 : Int) else 500000
  split <;> decide

/-- Steps of calls and of pool threads, and time. -/
def goesOn (_s : Reports Unit Nat) : Act Unit Nat → Bool
  | .change _ _ _ _ => false
  | _ => true

theorem serial_of_goesOn (s : Reports Unit Nat) (a : Act Unit Nat) (h : goesOn s a = true) :
    Serial Alexa.changeReport s a := by
  cases a with
  | change => cases h
  | tick | trigger | call | work => trivial

def lampReport : List (Act Unit Nat) :=
  [.call 0 openGate, .call 0 openGate, .call 0 openGate, .call 0 openGate, .call 0 openGate,
    .tick 500000, .work 0 true true, .work 0 true true, .work 0 true true, .work 0 true true,
    .work 0 true true, .work 0 true true, .work 0 true true, .work 0 true true]

/-- The lamp is turned on or off, and the change is reported. -/
def lampReported (value : Nat) (s : Reports Unit Nat) : Option (Reports Unit Nat) :=
  ((reports Alexa.changeReport 0 Nat).step s
    (.change 0 lampKey () (channelfncLightSwitch, value))).bind
      fun s => (reports Alexa.changeReport 0 Nat).runWhere goesOn s lampReport

theorem lampReported_reach {s s' : Reports Unit Nat} {value : Nat}
    (h : Reach (reports Alexa.changeReport 0 Nat) (Serial Alexa.changeReport) s)
    (hidle : ∀ u, s.callers u = .idle) (hs : lampReported value s = some s') :
    Reach (reports Alexa.changeReport 0 Nat) (Serial Alexa.changeReport) s' := by
  obtain ⟨s₁, hchange, hrun⟩ := Option.bind_eq_some_iff.1 hs
  refine Reach.runWhere serial_of_goesOn (h.act (.change 0 _ _ _) (fun u hu => ?_) hchange) hrun
  rw [hidle] at hu
  exact hu

def lampOn : Reports Unit Nat := (lampReported 1 lampOff).getD lampOff

def lampOffAgain : Reports Unit Nat := (lampReported 0 lampOn).getD lampOff

theorem lampOn_idle (u : Nat) : lampOn.callers u = .idle := by
  cases u with
  | zero => rfl
  | succ u => rfl

theorem reports_spaced_lamp :
    lampOffAgain.log = [.sent lampKey (channelfncLightSwitch, 0) (), .picked lampKey 1000000,
      .changed lampKey, .sent lampKey (channelfncLightSwitch, 1) (), .picked lampKey 500000,
      .changed lampKey] ∧ (500000 : Int) + 500000 ≤ 1000000 := by
  have hoff := @Reach.init _ _ _ (Serial Alexa.changeReport) _ (lampOff_init 0)
  have hon : Reach (reports Alexa.changeReport 0 Nat) (Serial Alexa.changeReport) lampOn :=
    lampReported_reach hoff (fun _ => rfl) (rfl : lampReported 1 lampOff = some lampOn)
  have hagain := lampReported_reach hon lampOn_idle
    (rfl : lampReported 0 lampOn = some lampOffAgain)
  exact ⟨rfl, reports_spaced Alexa.changeReport 0 500000 alexaChangeReport_delays lampOffAgain
    hagain lampKey 1000000 500000 [.sent lampKey (channelfncLightSwitch, 0) ()]
    [.changed lampKey, .sent lampKey (channelfncLightSwitch, 1) ()] [.changed lampKey] rfl⟩

end Http
