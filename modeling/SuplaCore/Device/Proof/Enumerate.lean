import SuplaCore.Conn.Proof.Objects
import SuplaCore.Device.Enumerate

/-!
# Which channels are visited

The loops of `for_each` are one loop over the channels of the device itself and then of every device
whose id differs from that of the channel (`forEach_eq`). So each channel is visited once only if
the device and the channel go by the same id, and a stop is final only if no such device has a
channel (`visits_iff`).
-/

namespace Device

open ConnectionObjects (Objects)
open Sys

variable {G C σ : Type} [DecidableEq G] {s : Objects G} {channels : Nat → List C} {device : Nat}

/-! ## The property -/

/-- The calls of a function in `for_each(true, f)` of the channel `c`, with their answers. -/
def calls (s : Objects G) (channels : Nat → List C) (device : Nat) (id : Int)
    (f : C → σ → Bool × σ) (st : σ) : List (C × Bool) :=
  (forEach (some s) channels device id true (Loop.logged f) (st, [])).2

/-- The channels of the connected devices. -/
def connected (s : Objects G) (channels : Nat → List C) : List C := s.live.flatMap channels

structure Visits (s : Objects G) (channels : Nat → List C) (device : Nat) (id : Int) : Prop where
  /-- Each channel once, by a function that never stops. -/
  once : ∀ {σ : Type} (f : C → σ → Bool × σ) (st : σ), (∀ c st, (f c st).1 = true) →
    ((calls s channels device id f st).map Prod.fst).Perm (connected s channels)
  stops : ∀ {σ : Type} (f : C → σ → Bool × σ) (st : σ),
    Loop.Stops (calls s channels device id f st)

/-! ## One loop -/

/-- The devices in the order in which their channels are visited. -/
def visited (s : Objects G) (device : Nat) (id : Int) : List Nat :=
  device :: s.live.filter fun d => decide (s.id d ≠ id)

omit [DecidableEq G]

theorem objects_forEach (g : Nat → σ → σ) (st : σ) :
    s.forEach (fun d st => (true, g d st)) st = s.live.foldl (fun st d => g d st) st := by
  unfold Objects.forEach Objects.live
  induction s.objects generalizing st with
  | nil => rfl
  | cons d rest ih =>
    rw [Loop.forEach]
    cases hd : s.expired d with
    | true =>
      rw [List.filter_cons_of_neg (by simp [hd])]
      exact ih st
    | false =>
      rw [List.filter_cons_of_pos (by simp [hd])]
      exact ih (g d st)

theorem forEach_eq (id : Int) (f : C → σ → Bool × σ) (st : σ) :
    forEach (some s) channels device id true f st =
      (visited s device id).foldl (fun st d => Loop.forEach f (channels d) st) st := by
  simp only [forEach, if_true, objects_forEach, visited, List.foldl_cons, List.foldl_filter,
    decide_eq_true_eq]

theorem calls_continues {f : C → σ → Bool × σ} (hf : ∀ c st, (f c st).1 = true) (id : Int)
    (st : σ) : (calls s channels device id f st).map Prod.fst =
      (visited s device id).flatMap channels := by
  have hloops : ∀ (l : List Nat) (st : σ × List (C × Bool)),
      (l.foldl (fun st d => Loop.forEach (Loop.logged f) (channels d) st) st).2.map Prod.fst =
        st.2.map Prod.fst ++ l.flatMap channels := by
    intro l
    induction l with
    | nil => exact fun st => (List.append_nil _).symm
    | cons d rest ih =>
      intro st
      rw [List.foldl_cons, ih, Loop.calls_of_continues hf, List.map_append, List.map_map,
        List.flatMap_cons, List.append_assoc]
      congr 2
      exact List.map_id _
  rw [calls, forEach_eq, hloops]
  rfl

theorem calls_stops {f : C → σ → Bool × σ} (hf : ∀ c st, (f c st).1 = false) (id : Int) (st : σ) :
    calls s channels device id f st =
      (visited s device id).flatMap fun d => ((channels d).take 1).map (·, false) := by
  have hloops : ∀ (l : List Nat) (st : σ × List (C × Bool)),
      (l.foldl (fun st d => Loop.forEach (Loop.logged f) (channels d) st) st).2 =
        st.2 ++ l.flatMap fun d => ((channels d).take 1).map (·, false) := by
    intro l
    induction l with
    | nil => exact fun st => (List.append_nil _).symm
    | cons d rest ih =>
      intro st
      rw [List.foldl_cons, ih, Loop.calls_of_stops hf, List.flatMap_cons, List.append_assoc]
  rw [calls, forEach_eq, hloops]
  rfl

/-! ## Ids -/

variable {c : C} {id : Int}

/-- Where the ids agree, the device itself is passed over. -/
theorem visited_eq (hs : ConnectionObjects.Inv s) (hdevice : device ∈ s.live)
    (hid : s.id device = id) : visited s device id = device :: s.live.erase device := by
  have hnodup : s.live.Nodup := hs.nodup.filter _
  rw [visited, hnodup.erase_eq_filter]
  congr 1
  apply List.filter_congr
  intro d hd
  rw [Objects.live, List.mem_filter, Bool.not_eq_true'] at hd hdevice
  rw [← hid, Bool.eq_iff_iff, decide_eq_true_iff, bne_iff_ne]
  constructor
  · rintro hne rfl
    exact hne rfl
  · intro hne
    exact (hs.apart d hd.1 device hdevice.1 hd.2 hdevice.2 hne).1

/-- Where they differ, it is visited twice. -/
theorem not_nodup_visited (hdevice : device ∈ s.live) (hc : c ∈ channels device)
    (hid : s.id device ≠ id) : ¬ ((visited s device id).flatMap channels).Nodup := by
  intro hnodup
  rw [visited, List.flatMap_cons, List.nodup_append] at hnodup
  have hagain : c ∈ (s.live.filter fun d => decide (s.id d ≠ id)).flatMap channels :=
    List.mem_flatMap.mpr ⟨device, List.mem_filter.mpr ⟨hdevice, decide_eq_true hid⟩, hc⟩
  exact hnodup.2.2 c hc c hagain rfl

/-- Devices without channels make no calls. -/
theorem foldl_empty (f : C → σ → Bool × σ) {l : List Nat} (hempty : ∀ d ∈ l, channels d = [])
    (st : σ) : l.foldl (fun st d => Loop.forEach f (channels d) st) st = st := by
  induction l with
  | nil => rfl
  | cons d rest ih =>
    rw [List.foldl_cons, hempty d List.mem_cons_self]
    exact ih fun d hd => hempty d (List.mem_cons_of_mem _ hd)

/-- **The visits of all channels** are right exactly if the id of the channel is also that of its
device, and no other device has channels. -/
theorem visits_iff [DecidableEq G] (h : Reach (ConnectionObjects.machine G) Any s)
    (hdevice : device ∈ s.live) (hchannels : (connected s channels).Nodup)
    (hc : c ∈ channels device) :
    Visits s channels device id ↔
      s.id device = id ∧ ∀ d ∈ s.live, d ≠ device → channels d = [] := by
  have hs : ConnectionObjects.Inv s :=
    h.invariant (fun _ hs => .init hs) fun _ hinv hs => hinv.step hs
  have hnodup : s.live.Nodup := hs.nodup.filter _
  constructor
  · intro hvisits
    have hid : s.id device = id := by
      by_contra hne
      have honce := hvisits.once (fun _ st => (true, st)) () fun _ _ => rfl
      rw [calls_continues fun _ _ => rfl] at honce
      exact not_nodup_visited hdevice hc hne (honce.nodup_iff.mpr hchannels)
    refine ⟨hid, ?_⟩
    intro d hd hne
    have hstops := hvisits.stops (fun _ st => (false, st)) ()
    rw [calls_stops fun _ _ => rfl, visited_eq hs hdevice hid, List.flatMap_cons] at hstops
    obtain ⟨x, l, hl⟩ := List.exists_cons_of_ne_nil (List.ne_nil_of_mem hc)
    rw [hl, List.take_succ_cons, List.take_zero, List.map_singleton, List.singleton_append]
      at hstops
    have hrest := List.flatMap_eq_nil_iff.mp (hstops [] x _ rfl) d
      (hnodup.mem_erase_iff.mpr ⟨hne, hd⟩)
    simpa using hrest
  · rintro ⟨hid, hothers⟩
    have hempty : ∀ d ∈ s.live.erase device, channels d = [] := by
      intro d hd
      rw [hnodup.mem_erase_iff] at hd
      exact hothers d hd.2 hd.1
    constructor
    · intro σ f st hf
      rw [calls_continues hf, visited_eq hs hdevice hid]
      exact (List.perm_cons_erase hdevice).symm.flatMap_right channels
    · intro σ f st
      rw [calls, forEach_eq, visited_eq hs hdevice hid, List.foldl_cons, foldl_empty _ hempty]
      apply Loop.stops_forEach
      intro c hc
      cases hc

/-! ## Two users -/

/-- Device 1 with the given id, and device 2. -/
private def user (id : Int) : Objects (List UInt8) :=
  ConnectionObjects.add (ConnectionObjects.identify
    (ConnectionObjects.add (ConnectionObjects.identify
      (.init (fun _ => 0) fun _ => []) 1 id (List.replicate 16 1)) 1 true)
    2 9 (List.replicate 16 2)) 2 true

private theorem user_reach (id : Int) :
    Reach (ConnectionObjects.machine (List UInt8)) Any (user id) := by
  have hrun : (ConnectionObjects.machine (List UInt8)).run (.init (fun _ => 0) fun _ => [])
      [.add 1 id (List.replicate 16 1) true, .add 2 9 (List.replicate 16 2) true] =
        some (user id) := rfl
  exact Reach.run (.init (ConnectionObjects.init_start _ _)) hrun

/-- The first device alone has channels, and an id that is also that of its first channel. -/
theorem visits_iff_alone :
    Visits (user 7) (fun d => if d = 1 then [7, 8] else ([] : List Int)) 1 7 :=
  (visits_iff (c := 7) (user_reach 7) (by decide) (by decide) (by decide)).mpr
    ⟨by decide, by decide⟩

/-- A device with an id of its own. -/
theorem visited_twice : ¬ ∀ (s : Objects (List UInt8)) (channels : Nat → List Int) (device : Nat)
    (c : Int), Reach (ConnectionObjects.machine (List UInt8)) Any s → device ∈ s.live →
      (connected s channels).Nodup → c ∈ channels device → Visits s channels device c := by
  intro hall
  have hvisits := hall (user 3) (fun d => if d = 1 then [7, 8] else []) 1 7 (user_reach 3)
    (by decide) (by decide) (by decide)
  have honce := (hvisits.once (fun _ st => (true, st)) () fun _ _ => rfl).length_eq
  revert honce
  decide

end Device
