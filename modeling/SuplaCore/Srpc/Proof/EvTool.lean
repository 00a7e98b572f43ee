import SuplaCore.Srpc.EvTool

/-!
# Reading multi values

The loop of `srpc_evtool_value_get` comes to the value of an index over the values before it
(`start`, `walk_spec`), and where the size of the multi value leaves room for a header, it reads
only headers within that size. What it then copies is bounded by the capacity alone
(`value_get_bounded`).
-/

namespace Srpc

open Bytes Proto TSuplaChannelExtendedValue

/-! ## The walk -/

/-- The header at an offset passes the checks of the loop. -/
def Passes (ev : TSuplaChannelExtendedValue) (o : Nat) : Prop :=
  typeAt (ev.value.drop o) ≠ evTypeNone ∧ sizeAt (ev.value.drop o) ≠ 0 ∧
    add32 (add32 (sizeAt (ev.value.drop o)) o) evHeaderSize ≤ channelExtendedValueSize

instance (ev : TSuplaChannelExtendedValue) (o : Nat) : Decidable (Passes ev o) :=
  inferInstanceAs (Decidable (_ ∧ _ ∧ _))

/-- Where the loop looks for value number `n`, if it comes to it. -/
def start (ev : TSuplaChannelExtendedValue) (size : Nat) : Nat → Option Nat
  | 0 => some 0
  | n + 1 => (start ev size n).bind fun o =>
    if o < size ∧ Passes ev o then
      some (add32 o (add32 evHeaderSize (sizeAt (ev.value.drop o))))
    else none

variable {ev : TSuplaChannelExtendedValue} {index : UInt16} {size : Nat}

theorem start_none {n m : Nat} (h : start ev size n = none) (hle : n ≤ m) :
    start ev size m = none := by
  induction m, hle using Nat.le_induction with
  | base => exact h
  | succ m _ ih => rw [start, ih, Option.bind_none]

/-- How the loop ends: at the value of the index, if it comes to it. -/
def Ends (ev : TSuplaChannelExtendedValue) (index : UInt16) (size : Nat) : Walk → Prop
  | .found o => start ev size index.toNat = some o ∧ o < size ∧ Passes ev o
  | _ => ∀ o, start ev size index.toNat = some o → o < size → ¬ Passes ev o

theorem ends_stuck {k o : Nat} {n : UInt16} (hk : n.toNat + k = index.toNat)
    (hstart : start ev size n.toNat = some o) (hstuck : ¬ (o < size ∧ Passes ev o)) :
    ∀ o', start ev size index.toNat = some o' → o' < size → ¬ Passes ev o' := by
  intro o' ho' hlt hpasses
  cases k with
  | zero =>
    rw [← hk, Nat.add_zero, hstart] at ho'
    cases ho'
    exact hstuck ⟨hlt, hpasses⟩
  | succ k =>
    have hnone : start ev size (n.toNat + 1) = none := by
      rw [start, hstart, Option.bind_some, if_neg hstuck]
    rw [start_none hnone (by omega)] at ho'
    cases ho'

/-- The two fields of a header. -/
theorem header_reads {o : Nat} (h : o < size) :
    ∀ x ∈ ([(o, 1), (o + 1, 4)] : Reads), x.1 + x.2 ≤ size + evHeaderSize := by
  simp only [List.mem_cons, List.not_mem_nil, or_false, forall_eq_or_imp, forall_eq, evHeaderSize]
  omega

/-- A header that passes is that of the value asked for, or is gone past. -/
theorem walk_passes {n : UInt16} {o : Nat} (fuel : Nat) (h : o < size ∧ Passes ev o) :
    walk ev index size (fuel + 1) n o =
      if n = index then some (.found o, [(o, 1), (o + 1, 4)])
      else (walk ev index size fuel (n + 1)
        (add32 o (add32 evHeaderSize (sizeAt (ev.value.drop o))))).map
          fun r => (r.1, [(o, 1), (o + 1, 4)] ++ r.2) := by
  obtain ⟨ho, htype, hsize, hfits⟩ := h
  have hchecks : ¬ (sizeAt (ev.value.drop o) = 0 ∨
      add32 (add32 (sizeAt (ev.value.drop o)) o) evHeaderSize > channelExtendedValueSize) := by
    rintro (hzero | hlarge)
    · exact hsize hzero
    · exact absurd hfits (Nat.not_le_of_lt hlarge)
  rw [walk, if_pos ho]
  simp only [if_neg htype, if_neg hchecks]

/-- At any other the loop ends. -/
theorem walk_stuck {n : UInt16} {o : Nat} (fuel : Nat) (h : ¬ (o < size ∧ Passes ev o)) :
    ∃ w reads, walk ev index size (fuel + 1) n o = some (w, reads) ∧
      (∀ x ∈ reads, x.1 + x.2 ≤ size + evHeaderSize) ∧
      (w = .refused ∨ w = .ended ∧ size ≤ o) := by
  rw [walk]
  by_cases ho : o < size
  · rw [if_pos ho]
    simp only
    split
    · refine ⟨_, _, rfl, fun x hx => ?_, .inl rfl⟩
      rw [List.mem_singleton.mp hx]
      show o + 1 ≤ _
      omega
    · rename_i htype
      split
      · exact ⟨_, _, rfl, header_reads ho, .inl rfl⟩
      · rename_i hchecks
        refine absurd ⟨ho, htype, fun hzero => hchecks (.inl hzero), ?_⟩ h
        exact Nat.le_of_not_lt fun hlarge => hchecks (.inr hlarge)
  · rw [if_neg ho]
    exact ⟨_, _, rfl, List.forall_mem_nil _, .inr ⟨rfl, Nat.le_of_not_lt ho⟩⟩

/-- **The loop ends**, and reads headers before `size` only. -/
theorem walk_spec (k : Nat) : ∀ {n : UInt16} {o fuel : Nat}, n.toNat + k = index.toNat →
    k < fuel → start ev size n.toNat = some o → ∃ w reads,
      walk ev index size fuel n o = some (w, reads) ∧
      (∀ x ∈ reads, x.1 + x.2 ≤ size + evHeaderSize) ∧ Ends ev index size w ∧
      (w = .ended → k = 0 → size ≤ o) := by
  induction k with
  | zero =>
    intro n o fuel hk hfuel hstart
    obtain ⟨fuel, rfl⟩ : ∃ f, fuel = f + 1 := ⟨fuel - 1, by omega⟩
    by_cases hpasses : o < size ∧ Passes ev o
    · have hn : n = index := UInt16.toNat.inj hk
      rw [walk_passes fuel hpasses, if_pos hn]
      exact ⟨_, _, rfl, header_reads hpasses.1, ⟨hn ▸ hstart, hpasses⟩, fun h => by cases h⟩
    · obtain ⟨w, reads, hwalk, hreads, hw⟩ := @walk_stuck ev index size n o fuel hpasses
      refine ⟨w, reads, hwalk, hreads, ?_, ?_⟩
      · rcases hw with rfl | ⟨rfl, -⟩ <;> exact ends_stuck hk hstart hpasses
      · rcases hw with rfl | ⟨rfl, hle⟩
        · intro h
          cases h
        · exact fun _ _ => hle
  | succ k ih =>
    intro n o fuel hk hfuel hstart
    obtain ⟨fuel, rfl⟩ : ∃ f, fuel = f + 1 := ⟨fuel - 1, by omega⟩
    by_cases hpasses : o < size ∧ Passes ev o
    · have hlt : index.toNat < 2 ^ 16 := index.toNat_lt
      have hn : ¬ n = index := by
        rintro rfl
        omega
      have hnext : (n + 1).toNat = n.toNat + 1 := by
        rw [UInt16.toNat_add]
        exact Nat.mod_eq_of_lt (show n.toNat + 1 < 2 ^ 16 by omega)
      have hgone : start ev size (n + 1).toNat =
          some (add32 o (add32 evHeaderSize (sizeAt (ev.value.drop o)))) := by
        rw [hnext, start, hstart, Option.bind_some, if_pos hpasses]
      obtain ⟨w, reads, hwalk, hreads, hends, -⟩ :=
        ih (by rw [hnext]; omega) (Nat.lt_of_succ_lt_succ hfuel) hgone
      rw [walk_passes fuel hpasses, if_neg hn, hwalk]
      refine ⟨w, _, rfl, fun x hx => ?_, hends, fun _ h => by cases h⟩
      rcases List.mem_append.mp hx with hx | hx
      · exact header_reads hpasses.1 x hx
      · exact hreads x hx
    · obtain ⟨w, reads, hwalk, hreads, hw⟩ := @walk_stuck ev index size n o fuel hpasses
      refine ⟨w, reads, hwalk, hreads, ?_, fun _ h => by cases h⟩
      rcases hw with rfl | ⟨rfl, -⟩ <;> exact ends_stuck hk hstart hpasses

/-! ## Nested values -/

/-- The bytes of `value` that are in use. -/
def declared (ev : TSuplaChannelExtendedValue) : Nat := min ev.size channelExtendedValueSize

/-- Where nested value number `n` begins: the ones before it lie one after another within the bytes
in use. -/
def nestedStart (ev : TSuplaChannelExtendedValue) : Nat → Option Nat
  | 0 => some 0
  | n + 1 => (nestedStart ev n).bind fun o =>
    if typeAt (ev.value.drop o) ≠ evTypeNone ∧ sizeAt (ev.value.drop o) ≠ 0 ∧
        o + evHeaderSize + sizeAt (ev.value.drop o) ≤ declared ev then
      some (o + evHeaderSize + sizeAt (ev.value.drop o))
    else none

/-- A nested value of type `t` is there. -/
def Nested (ev : TSuplaChannelExtendedValue) (n : Nat) (t : UInt8) : Prop :=
  ∃ o, nestedStart ev n = some o ∧ typeAt (ev.value.drop o) = t ∧
    sizeAt (ev.value.drop o) ≠ 0 ∧ o + evHeaderSize + sizeAt (ev.value.drop o) ≤ declared ev

/-- `srpc_evtool_value_get` returns, reads bytes in use only, and hands out a multi value only where
one is nested. -/
def Bounded (ev : TSuplaChannelExtendedValue) (index : UInt16)
    (dest : TSuplaChannelExtendedValue) : Prop :=
  ∃ r, srpcEvtoolValueGet ev index dest = some r ∧
    (∀ x ∈ r.reads, x.1 + x.2 ≤ declared ev) ∧
    (r.ok = true → r.dest.type = evTypeMultiValue → Nested ev index.toNat evTypeMultiValue)

/-- The condition for it: without room for a value in the bytes in use, the first of them is
`EV_TYPE_NONE`, or they are a header and it is not the first value that is asked for; and otherwise
the value that the loop comes to lies within the bytes in use. (A size near `2 ^ 32` wraps around;
then at most four bytes are copied.) -/
def Contained (ev : TSuplaChannelExtendedValue) (index : UInt16)
    (dest : TSuplaChannelExtendedValue) : Prop :=
  if declared ev < evHeaderSize then declared ev ≠ 0 ∧ typeAt ev.value = evTypeNone
  else if declared ev = evHeaderSize then index ≠ 0
  else ∀ o, start ev (declared ev - evHeaderSize) index.toNat = some o →
    o < declared ev - evHeaderSize → Passes ev o →
      (o + evHeaderSize + sizeAt (ev.value.drop o) ≤ declared ev ∧
        (typeAt (ev.value.drop o) = evTypeMultiValue → nestedStart ev index.toNat = some o)) ∨
      (evHeaderSize + sizeAt (ev.value.drop o) = 2 ^ 32 ∧ dest.type ≠ evTypeMultiValue) ∨
      (evHeaderSize + sizeAt (ev.value.drop o) > 2 ^ 32 ∧
        typeAt (ev.value.drop o) ≠ evTypeMultiValue)

theorem sizeAt_lt (bs : List UInt8) : sizeAt bs < 2 ^ 32 := readLE_lt bs 1 4

theorem declared_le (ev : TSuplaChannelExtendedValue) : declared ev ≤ 1024 := Nat.min_le_right _ _

/-- The loop comes to nested values where they are. -/
theorem start_of_nested {n o : Nat} (h : nestedStart ev n = some o) :
    start ev (declared ev - evHeaderSize) n = some o := by
  induction n generalizing o with
  | zero => exact h
  | succ n ih =>
    rw [nestedStart] at h
    obtain ⟨o', ho', h⟩ := Option.bind_eq_some_iff.mp h
    split at h
    · rename_i hvalue
      obtain ⟨htype, hsize, hfits⟩ := hvalue
      have hle := declared_le ev
      have hsum : add32 o' (add32 evHeaderSize (sizeAt (ev.value.drop o'))) =
          o' + evHeaderSize + sizeAt (ev.value.drop o') := by
        rw [add32_of_lt (a := evHeaderSize) (by omega), add32_of_lt (by omega), Nat.add_assoc]
      have hcheck : add32 (add32 (sizeAt (ev.value.drop o')) o') evHeaderSize ≤
          channelExtendedValueSize := by
        rw [add32_of_lt (a := sizeAt (ev.value.drop o')) (by omega), add32_of_lt (by omega),
          channelExtendedValueSize]
        omega
      rw [start, ih ho', Option.bind_some, if_pos ⟨by omega, htype, hsize, hcheck⟩, hsum]
      exact h
    · cases h

/-- Copying a header copies its type. -/
theorem type_copy (dest : TSuplaChannelExtendedValue) {src : List UInt8} (hsrc : src ≠ [])
    (n : Nat) : (dest.copy 0 src n).type = if n = 0 then dest.type else typeAt src := by
  obtain ⟨b, src, rfl⟩ := List.exists_cons_of_ne_nil hsrc
  cases n with
  | zero =>
    rw [if_pos rfl]
    show ((memcpy dest.bytes 0 (b :: src) 0).take _).getD 0 0 = dest.bytes.getD 0 0
    rw [memcpy_zero, List.take_of_length_le (Nat.le_of_eq dest.length_bytes)]
  | succ n =>
    rw [if_neg (Nat.succ_ne_zero n)]
    rfl

/-! ## Getting a value -/

/-- What `srpc_evtool_value_get` makes of the end of the loop. -/
def answer (ev : TSuplaChannelExtendedValue) (index : UInt16) (dest : TSuplaChannelExtendedValue)
    (reads : Reads) : Walk → GetResult
  | .refused => ⟨false, dest, reads⟩
  | .found o => ⟨true, dest.copy 0 (ev.value.drop o)
      (add32 evHeaderSize (sizeAt (ev.value.drop o))),
      reads ++ [(o, add32 evHeaderSize (sizeAt (ev.value.drop o)))]⟩
  | .ended => if index = 0 then ⟨true, ev, reads ++ [(0, channelExtendedValueSize)]⟩
    else ⟨false, dest, reads⟩

theorem get_multi {dest : TSuplaChannelExtendedValue} (hmulti : ev.type = evTypeMultiValue) :
    srpcEvtoolValueGet ev index dest =
      (walk ev index (sub32 (declared ev) evHeaderSize) (2 ^ 16) 0 0).map
        fun r => answer ev index dest r.2 r.1 := by
  rw [srpcEvtoolValueGet, if_neg (by rw [hmulti]; decide), if_pos hmulti, declared]
  simp only
  cases walk ev index (sub32 (min ev.size channelExtendedValueSize) evHeaderSize) (2 ^ 16) 0 0 with
  | none => rfl
  | some r =>
    obtain ⟨w, reads⟩ := r
    cases w with
    | refused => rfl
    | found o => rfl
    | ended =>
      simp only [answer, Option.map_some]
      split <;> rfl

theorem mem_answer {dest : TSuplaChannelExtendedValue} {reads : Reads} {w : Walk} {x : Nat × Nat}
    (h : x ∈ reads) : x ∈ (answer ev index dest reads w).reads := by
  cases w with
  | refused => exact h
  | found o => exact List.mem_append_left _ h
  | ended =>
    rw [answer]
    split
    · exact List.mem_append_left _ h
    · exact h

section
variable {dest : TSuplaChannelExtendedValue} (hmulti : ev.type = evTypeMultiValue)
include hmulti

/-- A first byte `EV_TYPE_NONE` ends the loop. -/
theorem get_none (hsize : 0 < sub32 (declared ev) evHeaderSize)
    (htype : typeAt ev.value = evTypeNone) :
    srpcEvtoolValueGet ev index dest = some ⟨false, dest, [(0, 1)]⟩ := by
  rw [get_multi hmulti, show 2 ^ 16 = 65535 + 1 from rfl, walk, if_pos hsize]
  simp only [List.drop_zero, if_pos htype, Option.map_some, answer]

/-- Without room for a header the first byte is read, and unless it is `EV_TYPE_NONE` the whole
header. -/
theorem bounded_short (hshort : declared ev < evHeaderSize) :
    Bounded ev index dest ↔ declared ev ≠ 0 ∧ typeAt ev.value = evTypeNone := by
  have hsize : 0 < sub32 (declared ev) evHeaderSize := by
    unfold sub32 evHeaderSize at *
    omega
  rw [Bounded]
  by_cases htype : typeAt ev.value = evTypeNone
  · simp only [get_none hmulti hsize htype, Option.some.injEq, exists_eq_left']
    constructor
    · rintro ⟨hreads, -⟩
      have hfirst := hreads (0, 1) (List.mem_singleton_self _)
      exact ⟨by omega, htype⟩
    · rintro ⟨hne, -⟩
      refine ⟨fun x hx => ?_, fun h => by cases h⟩
      rw [List.mem_singleton.mp hx]
      show 0 + 1 ≤ declared ev
      omega
  · refine ⟨fun h => ?_, fun h => absurd h.2 htype⟩
    obtain ⟨r, hr, hreads, -⟩ := h
    rw [get_multi hmulti, show 2 ^ 16 = 65535 + 1 from rfl] at hr
    obtain ⟨⟨w, reads⟩, hwalk, rfl⟩ := Option.map_eq_some_iff.mp hr
    have hseen : (1, 4) ∈ reads := by
      rw [walk, if_pos hsize] at hwalk
      simp only [List.drop_zero, if_neg htype] at hwalk
      split at hwalk
      · cases hwalk
        exact List.mem_cons_of_mem _ (List.mem_singleton_self _)
      · split at hwalk
        · cases hwalk
          exact List.mem_cons_of_mem _ (List.mem_singleton_self _)
        · obtain ⟨r, -, heq⟩ := Option.map_eq_some_iff.mp hwalk
          cases heq
          exact List.mem_append_left _ (List.mem_cons_of_mem _ (List.mem_singleton_self _))
    have hlong : 1 + 4 ≤ declared ev := hreads (1, 4) (mem_answer hseen)
    exact absurd hshort (Nat.not_lt_of_le hlong)

omit hmulti in
/-- With room for a header the loop reads within the bytes in use. -/
theorem walk_declared (hroom : evHeaderSize ≤ declared ev) : ∃ w reads,
    walk ev index (sub32 (declared ev) evHeaderSize) (2 ^ 16) 0 0 = some (w, reads) ∧
      (∀ x ∈ reads, x.1 + x.2 ≤ declared ev) ∧ Ends ev index (declared ev - evHeaderSize) w ∧
      (w = .ended → index = 0 → declared ev = evHeaderSize) := by
  have hle := declared_le ev
  have hsize : sub32 (declared ev) evHeaderSize = declared ev - evHeaderSize :=
    sub32_of_le hroom (by omega)
  have hindex : index.toNat < 2 ^ 16 := index.toNat_lt
  obtain ⟨w, reads, hwalk, hreads, hends, hended⟩ :=
    @walk_spec ev index (declared ev - evHeaderSize) index.toNat 0 0 (2 ^ 16)
      (by rw [UInt16.toNat_zero, Nat.zero_add]) hindex rfl
  rw [Nat.sub_add_cancel hroom] at hreads
  refine ⟨w, reads, hsize ▸ hwalk, hreads, hends, fun hw hzero => ?_⟩
  have hnone := hended hw (by rw [hzero]; rfl)
  omega

/-- Where the bytes in use are a header the loop does not turn, and the whole value is handed out
as the first one. -/
theorem bounded_header (hheader : declared ev = evHeaderSize) :
    Bounded ev index dest ↔ index ≠ 0 := by
  have hsize : ¬ 0 < sub32 (declared ev) evHeaderSize := by
    rw [hheader]
    decide
  rw [Bounded, get_multi hmulti, show 2 ^ 16 = 65535 + 1 from rfl, walk, if_neg hsize]
  simp only [Option.map_some, Option.some.injEq, exists_eq_left', answer]
  by_cases hindex : index = 0
  · rw [if_pos hindex]
    refine ⟨fun h => ?_, fun h => absurd hindex h⟩
    have hall : 0 + channelExtendedValueSize ≤ declared ev :=
      h.1 (0, channelExtendedValueSize) (List.mem_singleton_self _)
    rw [hheader] at hall
    exact absurd hall (by decide)
  · rw [if_neg hindex]
    exact ⟨fun _ => hindex, fun _ => ⟨List.forall_mem_nil _, fun h => by cases h⟩⟩

omit hmulti in
/-- What is copied of the value that is found. -/
theorem bounded_found {o : Nat} {reads : Reads} (hreads : ∀ x ∈ reads, x.1 + x.2 ≤ declared ev)
    (hstart : start ev (declared ev - evHeaderSize) index.toNat = some o)
    (ho : o < declared ev - evHeaderSize) (hpasses : Passes ev o) :
    ((∀ x ∈ (answer ev index dest reads (.found o)).reads, x.1 + x.2 ≤ declared ev) ∧
      ((answer ev index dest reads (.found o)).ok = true →
        (answer ev index dest reads (.found o)).dest.type = evTypeMultiValue →
          Nested ev index.toNat evTypeMultiValue)) ↔
    (o + evHeaderSize + sizeAt (ev.value.drop o) ≤ declared ev ∧
      (typeAt (ev.value.drop o) = evTypeMultiValue → nestedStart ev index.toNat = some o)) ∨
    (evHeaderSize + sizeAt (ev.value.drop o) = 2 ^ 32 ∧ dest.type ≠ evTypeMultiValue) ∨
    (evHeaderSize + sizeAt (ev.value.drop o) > 2 ^ 32 ∧
      typeAt (ev.value.drop o) ≠ evTypeMultiValue) := by
  have hle := declared_le ev
  have hlt := sizeAt_lt (ev.value.drop o)
  have hsrc : ev.value.drop o ≠ [] := by
    intro hnil
    have hlen := congrArg List.length hnil
    rw [List.length_drop, TSuplaChannelExtendedValue.value, List.length_drop, ev.length_bytes,
      List.length_nil, channelExtendedValueSize] at hlen
    omega
  have hcopied : (∀ x ∈ (answer ev index dest reads (.found o)).reads, x.1 + x.2 ≤ declared ev) ↔
      o + add32 evHeaderSize (sizeAt (ev.value.drop o)) ≤ declared ev := by
    constructor
    · intro h
      exact h (o, _) (List.mem_append_right _ (List.mem_singleton_self _))
    · intro h x hx
      rcases List.mem_append.mp hx with hx | hx
      · exact hreads x hx
      · rw [List.mem_singleton.mp hx]
        exact h
  have hnested : Nested ev index.toNat evTypeMultiValue ↔ nestedStart ev index.toNat = some o ∧
      typeAt (ev.value.drop o) = evTypeMultiValue ∧
        o + evHeaderSize + sizeAt (ev.value.drop o) ≤ declared ev := by
    constructor
    · rintro ⟨o', hstart', htype, -, hfits⟩
      have hsame := start_of_nested hstart'
      rw [hstart] at hsame
      cases hsame
      exact ⟨hstart', htype, hfits⟩
    · rintro ⟨hstart', htype, hfits⟩
      exact ⟨o, hstart', htype, hpasses.2.1, hfits⟩
  have htype : (answer ev index dest reads (.found o)).dest.type =
      if add32 evHeaderSize (sizeAt (ev.value.drop o)) = 0 then dest.type
      else typeAt (ev.value.drop o) := type_copy dest hsrc _
  rw [hcopied, hnested, htype]
  by_cases hwrap : evHeaderSize + sizeAt (ev.value.drop o) < 2 ^ 32
  · rw [add32_of_lt hwrap, if_neg (by show ¬ 5 + _ = 0; omega)]
    constructor
    · rintro ⟨hfits, hmultiValue⟩
      exact .inl ⟨by omega, fun ht => (hmultiValue rfl ht).1⟩
    · rintro (⟨hfits, hchain⟩ | ⟨heq, -⟩ | ⟨hgt, -⟩)
      · exact ⟨by omega, fun _ ht => ⟨hchain ht, ht, hfits⟩⟩
      · exact absurd hwrap (by omega)
      · exact absurd hwrap (by omega)
  · have hlen : add32 evHeaderSize (sizeAt (ev.value.drop o)) =
        evHeaderSize + sizeAt (ev.value.drop o) - 2 ^ 32 := by
      unfold add32 evHeaderSize at *
      omega
    have hsmall : o + (evHeaderSize + sizeAt (ev.value.drop o) - 2 ^ 32) ≤ declared ev := by
      unfold evHeaderSize at *
      omega
    have hlarge : ¬ o + evHeaderSize + sizeAt (ev.value.drop o) ≤ declared ev := by omega
    rw [hlen]
    by_cases heq : evHeaderSize + sizeAt (ev.value.drop o) = 2 ^ 32
    · rw [if_pos (by omega)]
      constructor
      · rintro ⟨-, hmultiValue⟩
        exact .inr (.inl ⟨heq, fun ht => hlarge (hmultiValue rfl ht).2.2⟩)
      · rintro (⟨hfits, -⟩ | ⟨-, ht⟩ | ⟨hgt, -⟩)
        · exact absurd hfits hlarge
        · exact ⟨hsmall, fun _ hd => absurd hd ht⟩
        · exact absurd heq (Nat.ne_of_gt hgt)
    · rw [if_neg (by omega)]
      constructor
      · rintro ⟨-, hmultiValue⟩
        exact .inr (.inr ⟨by omega, fun ht => hlarge (hmultiValue rfl ht).2.2⟩)
      · rintro (⟨hfits, -⟩ | ⟨heq', -⟩ | ⟨-, ht⟩)
        · exact absurd hfits hlarge
        · exact absurd heq' heq
        · exact ⟨hsmall, fun _ hd => absurd hd ht⟩

/-- **The condition** is exact where there is room for a value. -/
theorem bounded_room (hroom : evHeaderSize < declared ev) :
    Bounded ev index dest ↔ Contained ev index dest := by
  obtain ⟨w, reads, hwalk, hreads, hends, hended⟩ := @walk_declared ev index hroom.le
  rw [Bounded, get_multi hmulti, hwalk, Contained, if_neg (Nat.not_lt_of_le hroom.le),
    if_neg (Nat.ne_of_gt hroom)]
  simp only [Option.map_some, Option.some.injEq, exists_eq_left']
  cases w with
  | refused =>
    have hnone : ∀ o, start ev (declared ev - evHeaderSize) index.toNat = some o →
        o < declared ev - evHeaderSize → ¬ Passes ev o := hends
    exact ⟨fun _ o hstart ho hpasses => absurd hpasses (hnone o hstart ho),
      fun _ => ⟨hreads, fun h => by cases h⟩⟩
  | found o =>
    obtain ⟨hstart, ho, hpasses⟩ : start ev (declared ev - evHeaderSize) index.toNat = some o ∧
      o < declared ev - evHeaderSize ∧ Passes ev o := hends
    rw [bounded_found hreads hstart ho hpasses]
    constructor
    · intro h o' hstart' _ _
      rw [hstart] at hstart'
      cases hstart'
      exact h
    · intro h
      exact h o hstart ho hpasses
  | ended =>
    have hnone : ∀ o, start ev (declared ev - evHeaderSize) index.toNat = some o →
        o < declared ev - evHeaderSize → ¬ Passes ev o := hends
    have hindex : index ≠ 0 := fun hzero => Nat.ne_of_gt hroom (hended rfl hzero)
    rw [answer, if_neg hindex]
    exact ⟨fun _ o hstart ho hpasses => absurd hpasses (hnone o hstart ho),
      fun _ => ⟨hreads, fun h => by cases h⟩⟩

theorem bounded_iff : Bounded ev index dest ↔ Contained ev index dest := by
  by_cases hshort : declared ev < evHeaderSize
  · rw [bounded_short hmulti hshort, Contained, if_pos hshort]
  by_cases hheader : declared ev = evHeaderSize
  · rw [bounded_header hmulti hheader, Contained, if_neg hshort, if_pos hheader]
  · exact bounded_room hmulti (by omega)

end

/-! ## Values that agree -/

theorem typeAt_take (bs : List UInt8) : typeAt bs = typeAt (bs.take evHeaderSize) := by
  cases bs <;> rfl

theorem sizeAt_take (bs : List UInt8) : sizeAt bs = sizeAt (bs.take evHeaderSize) :=
  (readLE_take (Nat.le_refl 5)).symm

/-- Two values agree in type, size and the bytes in use. -/
structure Agrees (ev ev' : TSuplaChannelExtendedValue) : Prop where
  type : ev'.type = ev.type
  size : ev'.size = ev.size
  value : ev'.value.take (declared ev) = ev.value.take (declared ev)

theorem Agrees.drop {ev' : TSuplaChannelExtendedValue} (h : Agrees ev ev') {o n : Nat}
    (hle : o + n ≤ declared ev) : (ev'.value.drop o).take n = (ev.value.drop o).take n := by
  have hsame : ∀ value : List UInt8,
      (value.drop o).take n = ((value.take (declared ev)).drop o).take n := by
    intro value
    rw [List.drop_take, List.take_take, Nat.min_eq_left (by omega)]
  rw [hsame, hsame ev.value, h.value]

theorem Agrees.header {ev' : TSuplaChannelExtendedValue} (h : Agrees ev ev') {o : Nat}
    (hle : o + evHeaderSize ≤ declared ev) :
    typeAt (ev'.value.drop o) = typeAt (ev.value.drop o) ∧
      sizeAt (ev'.value.drop o) = sizeAt (ev.value.drop o) := by
  rw [typeAt_take, typeAt_take (ev.value.drop o), sizeAt_take, sizeAt_take (ev.value.drop o),
    h.drop hle]
  exact ⟨rfl, rfl⟩

/-- The loop does the same on both. -/
theorem Agrees.walk {ev' : TSuplaChannelExtendedValue} (h : Agrees ev ev')
    (hroom : size + evHeaderSize = declared ev) (fuel : Nat) : ∀ (n : UInt16) (o : Nat),
      walk ev' index size fuel n o = walk ev index size fuel n o := by
  induction fuel with
  | zero => exact fun _ _ => rfl
  | succ fuel ih =>
    intro n o
    rw [Srpc.walk, Srpc.walk]
    by_cases ho : o < size
    · obtain ⟨htype, hsize⟩ := h.header (o := o) (by omega)
      simp only [if_pos ho, htype, hsize, ih]
    · rw [if_neg ho, if_neg ho]

/-- **Reading a multi value** stays within its size exactly where the value that is found does; and
then what follows the bytes in use has no effect. -/
theorem value_get_bounded (ev : TSuplaChannelExtendedValue) (hmulti : ev.type = evTypeMultiValue)
    (index : UInt16) (dest : TSuplaChannelExtendedValue) :
    (Bounded ev index dest ↔ Contained ev index dest) ∧
      (Bounded ev index dest → ∀ ev', Agrees ev ev' →
        srpcEvtoolValueGet ev' index dest = srpcEvtoolValueGet ev index dest) := by
  refine ⟨bounded_iff hmulti, fun hbounded ev' h => ?_⟩
  have hmulti' : ev'.type = evTypeMultiValue := h.type.trans hmulti
  have hdeclared : declared ev' = declared ev := by rw [declared, h.size, declared]
  by_cases hshort : declared ev < evHeaderSize
  · obtain ⟨hne, htype⟩ := (bounded_short hmulti hshort).mp hbounded
    have hsize : 0 < sub32 (declared ev) evHeaderSize := by
      unfold sub32 evHeaderSize at *
      omega
    have htype' : typeAt ev'.value = typeAt ev.value := by
      have hfirst : ∀ bs : List UInt8, typeAt bs = typeAt ((bs.drop 0).take 1) := by
        intro bs
        cases bs <;> rfl
      rw [hfirst, h.drop (o := 0) (n := 1) (by omega), ← hfirst]
    rw [get_none hmulti hsize htype,
      get_none hmulti' (hdeclared ▸ hsize) (htype'.trans htype)]
  · have hroom : evHeaderSize ≤ declared ev := Nat.le_of_not_lt hshort
    obtain ⟨w, reads, hwalk, -, hends, hended⟩ := @walk_declared ev index hroom
    have hsize : sub32 (declared ev) evHeaderSize + evHeaderSize = declared ev := by
      have hle := declared_le ev
      rw [sub32_of_le hroom (by omega)]
      omega
    obtain ⟨r, hr, hreads, -⟩ := hbounded
    rw [get_multi hmulti, hwalk, Option.map_some] at hr
    cases hr
    rw [get_multi hmulti', get_multi hmulti, hdeclared, h.walk hsize, hwalk, Option.map_some,
      Option.map_some]
    cases w with
    | refused => rfl
    | found o =>
      have ho : o < declared ev - evHeaderSize := hends.2.1
      have hcopied : o + add32 evHeaderSize (sizeAt (ev.value.drop o)) ≤ declared ev :=
        hreads (o, _) (List.mem_append_right _ (List.mem_singleton_self _))
      have hsame : dest.copy 0 (ev'.value.drop o) (add32 evHeaderSize (sizeAt (ev.value.drop o))) =
          dest.copy 0 (ev.value.drop o) (add32 evHeaderSize (sizeAt (ev.value.drop o))) := by
        unfold TSuplaChannelExtendedValue.copy
        simp only [← memcpy_take dest.bytes (List.drop o _), h.drop hcopied]
      simp only [answer, (h.header (o := o) (by omega)).2, hsame]
    | ended =>
      have hindex : index ≠ 0 := by
        intro hzero
        have hall : 0 + channelExtendedValueSize ≤ declared ev := by
          refine hreads (0, channelExtendedValueSize) ?_
          rw [answer, if_pos hzero]
          exact List.mem_append_right _ (List.mem_singleton_self _)
        rw [hended rfl hzero] at hall
        exact absurd hall (by decide)
      rw [answer, answer, if_neg hindex, if_neg hindex]

/-- A multi value of the given size that begins with a value of type 10 and size 1. -/
def multiValue (size : UInt8) : TSuplaChannelExtendedValue where
  bytes := [100, size, 0, 0, 0, 10, 1, 0, 0, 0, 7] ++ List.replicate 1018 0
  length_bytes := by
    rw [List.length_append, List.length_replicate]
    rfl

theorem value_get_bounded_one : Bounded (multiValue 6) 0 (multiValue 0) := by
  refine (value_get_bounded (multiValue 6) rfl 0 (multiValue 0)).1.mpr ?_
  rw [Contained, if_neg (by decide), if_neg (by decide)]
  intro o hstart _ _
  cases hstart
  exact .inl ⟨by decide, fun h => absurd h (by decide)⟩

/-- **A size of five** leaves no room for a value, and the whole of `value` is copied. -/
theorem value_get_header :
    (multiValue 5).type = evTypeMultiValue ∧ ¬ Bounded (multiValue 5) 0 (multiValue 0) :=
  ⟨rfl, fun h => (bounded_header rfl (by decide)).mp h rfl⟩

end Srpc
