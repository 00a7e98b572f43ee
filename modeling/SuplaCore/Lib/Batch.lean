import Mathlib.Data.List.Basic

/-!
# Filling packs

The elements of a list are offered one after another to a block that is opened on the way
(`offerAll`); the elements that are not taken stay. Such rounds are repeated until one takes nothing
(`Rounds`).

`put` fills a pack of at most `max` records. An element may have no record. The first record opens
the pack, and an element that is not taken after that is counted in it.
-/

namespace Batch

/-- The outcome of a round: whether an element was taken, what stays, and the block. -/
structure Round (α δ : Type) where
  any : Bool
  kept : List α
  data : Option δ

section Rounds

variable {α δ : Type} (offer : α → Option δ → Bool × Option δ)

def offerAll : List α → Option δ → Round α δ
  | [], data => ⟨false, [], data⟩
  | a :: l, data =>
    let taken := offer a data
    let r := offerAll l taken.2
    ⟨taken.1 || r.any, if taken.1 then r.kept else a :: r.kept, r.data⟩

/-- Rounds from a list on, with the blocks in their order and what stays at the end. -/
inductive Rounds : List α → List δ → List α → Prop
  | done {l : List α} : offerAll offer l none = ⟨false, l, none⟩ → Rounds l [] l
  | again {l kept rest : List α} {d : δ} {ds : List δ} :
    offerAll offer l none = ⟨true, kept, some d⟩ → Rounds kept ds rest → Rounds l (d :: ds) rest

variable {offer}

theorem offerAll_kept_le (l : List α) (data : Option δ) :
    (offerAll offer l data).kept.length ≤ l.length := by
  induction l generalizing data with
  | nil => exact Nat.le_refl _
  | cons a l ih =>
    have hle := ih (offer a data).2
    rw [offerAll]
    show (if _ then _ else _ : List α).length ≤ l.length + 1
    split
    · omega
    · rw [List.length_cons]
      omega

/-- A round that takes something leaves less. -/
theorem offerAll_kept_lt {l : List α} {data : Option δ} (h : (offerAll offer l data).any = true) :
    (offerAll offer l data).kept.length < l.length := by
  induction l generalizing data with
  | nil => cases h
  | cons a l ih =>
    rw [offerAll] at h ⊢
    simp only at h ⊢
    cases htaken : (offer a data).1 with
    | true =>
      rw [if_pos rfl, List.length_cons]
      exact Nat.lt_succ_of_le (offerAll_kept_le l _)
    | false =>
      rw [htaken, Bool.false_or] at h
      rw [if_neg Bool.false_ne_true, List.length_cons, List.length_cons]
      exact Nat.succ_lt_succ (ih h)

end Rounds

/-- A pack, with the elements that were offered since it was opened and were not taken. -/
structure Pack (β : Type) where
  items : List β
  totalLeft : Nat
  deriving DecidableEq

section Put

variable {α β : Type} (max : Nat) (record : α → Option β)

def Pack.add (r : β) (p : Pack β) : Pack β := { p with items := p.items ++ [r] }

def Pack.leave (p : Pack β) : Pack β := { p with totalLeft := p.totalLeft + 1 }

def put (a : α) : Option (Pack β) → Bool × Option (Pack β)
  | none =>
    match record a with
    | none => (false, none)
    | some r => (true, some ⟨[r], 0⟩)
  | some p =>
    match record a with
    | none => (false, some p.leave)
    | some r => if p.items.length < max then (true, some (p.add r)) else (false, some p.leave)

variable {max record}

/-- What is in the pack, if there is one. -/
def itemsOf (data : Option (Pack β)) : List β := (data.map Pack.items).getD []

theorem put_taken {a : α} {data : Option (Pack β)} (h : (put max record a data).1 = true) :
    ∃ b, record a = some b ∧ itemsOf (put max record a data).2 = itemsOf data ++ [b] := by
  cases data with
  | none =>
    rw [put] at h ⊢
    cases hrecord : record a with
    | none =>
      rw [hrecord] at h
      cases h
    | some b => exact ⟨b, rfl, rfl⟩
  | some p =>
    rw [put] at h ⊢
    cases hrecord : record a with
    | none =>
      rw [hrecord] at h
      cases h
    | some b =>
      rw [hrecord] at h
      simp only at h ⊢
      split at h
      · rename_i hroom
        rw [if_pos hroom]
        exact ⟨b, rfl, rfl⟩
      · cases h

theorem put_left {a : α} {data : Option (Pack β)} (h : (put max record a data).1 = false) :
    itemsOf (put max record a data).2 = itemsOf data := by
  cases data with
  | none =>
    rw [put] at h ⊢
    cases hrecord : record a with
    | none => rfl
    | some b =>
      rw [hrecord] at h
      cases h
  | some p =>
    rw [put] at h ⊢
    cases hrecord : record a with
    | none => rfl
    | some b =>
      rw [hrecord] at h
      simp only at h ⊢
      split at h
      · cases h
      · rename_i hroom
        rw [if_neg hroom]
        rfl

/-- What a round makes of an open pack `p`. -/
structure Filled (max : Nat) (record : α → Option β) (l : List α) (p : Pack β)
    (r : Round α (Pack β)) (q : Pack β) : Prop where
  data : r.data = some q
  items : q.items = p.items ++ (l.filterMap record).take (max - p.items.length)
  totalLeft : q.totalLeft = p.totalLeft + r.kept.length
  records : r.kept.filterMap record = (l.filterMap record).drop (max - p.items.length)
  sublist : r.kept.Sublist l
  length : r.kept.length + ((l.filterMap record).take (max - p.items.length)).length = l.length

/-- An element that is left changes nothing but the count. -/
theorem Filled.leave {a : α} {l : List α} {p q : Pack β} {r : Round α (Pack β)}
    (h : Filled max record l p.leave r q)
    (hnone : record a = none ∨ max ≤ p.items.length) :
    Filled max record (a :: l) p ⟨r.any, a :: r.kept, r.data⟩ q := by
  have htake : ((a :: l).filterMap record).take (max - p.items.length) =
      (l.filterMap record).take (max - p.items.length) := by
    rcases hnone with hnone | hfull
    · rw [List.filterMap_cons_none hnone]
    · rw [Nat.sub_eq_zero_of_le hfull, List.take_zero, List.take_zero]
  refine ⟨h.data, ?_, ?_, ?_, h.sublist.cons_cons a, ?_⟩
  · rw [htake]
    exact h.items
  · rw [h.totalLeft, List.length_cons]
    show p.totalLeft + 1 + _ = _
    omega
  · show (a :: r.kept).filterMap record = _
    have hrest : r.kept.filterMap record = (l.filterMap record).drop (max - p.items.length) :=
      h.records
    rcases hnone with hnone | hfull
    · rw [List.filterMap_cons_none hnone, List.filterMap_cons_none hnone, hrest]
    · rw [Nat.sub_eq_zero_of_le hfull, List.drop_zero] at hrest ⊢
      rw [List.filterMap_cons, List.filterMap_cons, hrest]
  · have hlength := h.length
    rw [htake, List.length_cons, List.length_cons]
    show r.kept.length + 1 + _ = _
    rw [← hlength]
    show _ = r.kept.length + ((l.filterMap record).take (max - p.items.length)).length + 1
    omega

/-- An element that is taken is the next record of the pack. -/
theorem Filled.add {a : α} {b : β} {l : List α} {p q : Pack β} {r : Round α (Pack β)}
    (h : Filled max record l (p.add b) r q) (hsome : record a = some b)
    (hroom : p.items.length < max) :
    Filled max record (a :: l) p ⟨true, r.kept, r.data⟩ q := by
  have hlen : (p.add b).items.length = p.items.length + 1 := List.length_append
  have hsub : max - p.items.length = max - (p.items.length + 1) + 1 := by omega
  have hitems := h.items
  have hrecords := h.records
  have hlength := h.length
  rw [hlen] at hitems hrecords hlength
  refine ⟨h.data, ?_, h.totalLeft, ?_, h.sublist.cons a, ?_⟩
  · rw [hitems, List.filterMap_cons_some hsome, hsub, List.take_succ_cons]
    show p.items ++ [b] ++ _ = _
    rw [List.append_assoc, List.singleton_append]
  · rw [List.filterMap_cons_some hsome, hsub, List.drop_succ_cons]
    exact hrecords
  · rw [List.filterMap_cons_some hsome, hsub, List.take_succ_cons, List.length_cons,
      List.length_cons, ← hlength]
    exact (Nat.add_assoc _ _ 1).symm

/-- A round with an open pack. -/
theorem offerAll_open (l : List α) (p : Pack β) :
    ∃ q, Filled max record l p (offerAll (put max record) l (some p)) q := by
  induction l generalizing p with
  | nil =>
    refine ⟨p, rfl, ?_, rfl, ?_, .refl _, ?_⟩
    · rw [List.filterMap_nil, List.take_nil, List.append_nil]
    · rw [List.filterMap_nil, List.drop_nil]
      rfl
    · rw [List.filterMap_nil, List.take_nil]
      rfl
  | cons a l ih =>
    rw [offerAll, put]
    cases hrecord : record a with
    | none =>
      obtain ⟨q, hq⟩ := ih p.leave
      exact ⟨q, hq.leave (.inl hrecord)⟩
    | some b =>
      by_cases hroom : p.items.length < max
      · obtain ⟨q, hq⟩ := ih (p.add b)
        simp only [if_pos hroom]
        exact ⟨q, hq.add hrecord hroom⟩
      · obtain ⟨q, hq⟩ := ih p.leave
        simp only [if_neg hroom]
        exact ⟨q, hq.leave (.inr (Nat.le_of_not_lt hroom))⟩

/-- As long as no element has a record, no pack is opened. -/
theorem offerAll_unopened {pre : List α} (hpre : ∀ a ∈ pre, record a = none) (l : List α) :
    offerAll (put max record) (pre ++ l) none =
      { offerAll (put max record) l none with
        kept := pre ++ (offerAll (put max record) l none).kept } := by
  induction pre with
  | nil => rfl
  | cons a pre ih =>
    rw [List.cons_append, offerAll, put, hpre a List.mem_cons_self]
    simp only [Bool.false_or, Bool.false_eq_true, if_false]
    rw [ih fun a ha => hpre a (List.mem_cons_of_mem _ ha)]
    rfl

/-- Where the first record of a list is, if it has one. -/
theorem first_record (record : α → Option β) (l : List α) :
    (∀ a ∈ l, record a = none) ∨ ∃ pre a post b, l = pre ++ a :: post ∧
      (∀ a ∈ pre, record a = none) ∧ record a = some b := by
  induction l with
  | nil => exact .inl fun a ha => absurd ha List.not_mem_nil
  | cons a l ih =>
    cases hrecord : record a with
    | some b => exact .inr ⟨[], a, l, b, rfl, fun a ha => absurd ha List.not_mem_nil, hrecord⟩
    | none =>
      rcases ih with hnone | ⟨pre, c, post, b, rfl, hpre, hc⟩
      · exact .inl (List.forall_mem_cons.mpr ⟨hrecord, hnone⟩)
      · exact .inr ⟨a :: pre, c, post, b, rfl, List.forall_mem_cons.mpr ⟨hrecord, hpre⟩, hc⟩

/-- After an element with a record all have one. -/
def Solid (record : α → Option β) (l : List α) : Prop :=
  l.Pairwise fun a b => (record a).isSome → (record b).isSome

/-- In each pack is counted what the packs after it hold. -/
def Counted : List (Pack β) → Prop
  | [] => True
  | p :: ps => p.totalLeft = (ps.flatMap Pack.items).length ∧ Counted ps

theorem solid_of_none {l : List α} (h : ∀ a ∈ l, record a = none) : Solid record l :=
  List.pairwise_of_forall_mem_list fun a ha b _ hsome => by
    rw [h a ha] at hsome
    cases hsome

/-- The elements before the first record do not matter. -/
theorem solid_iff {pre post : List α} {a : α} (hpre : ∀ a ∈ pre, record a = none)
    (ha : (record a).isSome) :
    Solid record (pre ++ a :: post) ↔ (post.filterMap record).length = post.length := by
  rw [List.filterMap_length_eq_length]
  constructor
  · intro h b hb
    exact List.rel_of_pairwise_cons (List.pairwise_append.mp h).2.1 hb ha
  · intro h
    refine List.pairwise_append.mpr ⟨solid_of_none hpre, ?_, fun b hb c _ hsome => ?_⟩
    · exact List.pairwise_cons.mpr
        ⟨fun b hb _ => h b hb, List.pairwise_of_forall_mem_list fun _ _ b hb _ => h b hb⟩
    · rw [hpre b hb] at hsome
      cases hsome

/-- What holds of all packs of a run of rounds. -/
structure Delivered (max : Nat) (record : α → Option β) (l : List α) (ps : List (Pack β)) :
    Prop where
  /-- every record once, in order -/
  items : ps.flatMap Pack.items = l.filterMap record
  items_ne : ∀ p ∈ ps, p.items ≠ []
  items_le : ∀ p ∈ ps, p.items.length ≤ max
  counted : Counted ps ↔ Solid record l

/-- A round from the first record on. -/
theorem offerAll_first {pre post : List α} {a : α} {b : β} (hpre : ∀ a ∈ pre, record a = none)
    (hsome : record a = some b) :
    ∃ q r, offerAll (put max record) (pre ++ a :: post) none = ⟨true, pre ++ r.kept, some q⟩ ∧
      Filled max record post ⟨[b], 0⟩ r q := by
  obtain ⟨q, hq⟩ := @offerAll_open α β max record post ⟨[b], 0⟩
  refine ⟨q, _, ?_, hq⟩
  rw [offerAll_unopened hpre, offerAll, put, hsome]
  show Round.mk _ _ _ = _
  rw [Bool.true_or, if_pos rfl, hq.data]

/-- The first pack, and what is delivered after it. -/
theorem Delivered.first {pre post : List α} {a : α} {b : β} (hmax : 0 < max)
    (hpre : ∀ a ∈ pre, record a = none) (hsome : record a = some b) {q : Pack β}
    {r : Round α (Pack β)} (hq : Filled max record post ⟨[b], 0⟩ r q) {ps : List (Pack β)}
    (h : Delivered max record (pre ++ r.kept) ps) :
    Delivered max record (pre ++ a :: post) (q :: ps) := by
  have hnil : pre.filterMap record = [] := List.filterMap_eq_nil_iff.mpr hpre
  have hitems : q.items = b :: (post.filterMap record).take (max - 1) := hq.items
  have hleft : ps.flatMap Pack.items = (post.filterMap record).drop (max - 1) := by
    rw [h.items, List.filterMap_append, hnil, List.nil_append]
    exact hq.records
  refine ⟨?_, ?_, ?_, ?_⟩
  · rw [List.flatMap_cons, hleft, hitems, List.cons_append, List.take_append_drop,
      List.filterMap_append, hnil, List.nil_append, List.filterMap_cons_some hsome]
  · refine List.forall_mem_cons.mpr ⟨?_, h.items_ne⟩
    rw [hitems]
    exact List.cons_ne_nil _ _
  · refine List.forall_mem_cons.mpr ⟨?_, h.items_le⟩
    rw [hitems, List.length_cons, List.length_take]
    omega
  · have htotal : q.totalLeft = r.kept.length := by
      rw [hq.totalLeft]
      exact Nat.zero_add _
    have hlength : r.kept.length + ((post.filterMap record).take (max - 1)).length = post.length :=
      hq.length
    rw [List.length_take] at hlength
    have hsolid := @solid_iff _ _ record pre post a hpre (Option.isSome_of_eq_some hsome)
    have hsublist : (pre ++ r.kept).Sublist (pre ++ a :: post) :=
      (List.Sublist.refl pre).append (hq.sublist.cons a)
    rw [Counted, h.counted, hleft, htotal, List.length_drop]
    constructor
    · rintro ⟨hcount, -⟩
      apply hsolid.mpr
      omega
    · intro hL
      have hall := hsolid.mp hL
      exact ⟨by omega, List.Pairwise.sublist hsublist hL⟩

/-- **The rounds come to an end**, and what they have delivered. -/
theorem rounds_put (hmax : 0 < max) (l : List α) :
    ∃ ps rest, Rounds (put max record) l ps rest ∧ Delivered max record l ps ∧
      ∀ a ∈ rest, record a = none := by
  induction hn : l.length using Nat.strongRecOn generalizing l with
  | _ n ih =>
  subst hn
  rcases first_record record l with hnone | ⟨pre, a, post, b, rfl, hpre, hsome⟩
  · have hround := @offerAll_unopened α β max record l hnone []
    rw [List.append_nil] at hround
    have hkept : (offerAll (put max record) l none).kept = l := by
      rw [hround]
      exact List.append_nil l
    refine ⟨[], l, .done ?_, ⟨?_, ?_, ?_, ?_⟩, hnone⟩
    · rw [hround]
      show Round.mk _ (l ++ []) _ = _
      rw [List.append_nil]
      rfl
    · exact (List.filterMap_eq_nil_iff.mpr hnone).symm
    · exact fun p hp => absurd hp List.not_mem_nil
    · exact fun p hp => absurd hp List.not_mem_nil
    · exact iff_of_true trivial (solid_of_none hnone)
  · obtain ⟨q, r, hround, hq⟩ := @offerAll_first α β max record pre post a b hpre hsome
    have hlt : (pre ++ r.kept).length < (pre ++ a :: post).length := by
      have hany : (offerAll (put max record) (pre ++ a :: post) none).any = true := by
        rw [hround]
      have hlt := offerAll_kept_lt hany
      rwa [hround] at hlt
    obtain ⟨ps, rest, hrounds, hps, hrest⟩ := ih _ hlt _ rfl
    exact ⟨q :: ps, rest, .again hround hrounds, hps.first hmax hpre hsome hq, hrest⟩

end Put

end Batch
