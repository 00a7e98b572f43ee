import SuplaCore.Device.ChannelTable
import Mathlib.Data.List.Perm.Subperm
import Mathlib.Data.List.Nodup

/-!
# When a registration leaves the stored channels as the message has them

The loop goes through if no entry contradicts the table or an earlier entry (`Accepted`), and then
the table has the processed entries besides what it had (`addChannelsLoop_spec`). `add_channels`
compares the number of rows with the number of processed entries, so it returns `true` exactly
where the rows that no processed entry lists are as many as the entries beyond the first of their
number, with the entry of type 0 that ends the loop (`addChannels_iff`). What is stored of the
function lists is not restricted (`FilterLost`).
-/

namespace Device.ChannelTable

/-! ## What is said about a message -/

/-- An entry lists the number. -/
def listed (es : List DevChannel) (n : UInt8) : Bool := es.any fun e => e.number == n

/-- The entries that the loop stores, those before the first of type 0. -/
def processed (es : List DevChannel) : List DevChannel := es.takeWhile fun e => decide (e.type ≠ 0)

/-- The entries from the first of type 0 on. -/
def rest (es : List DevChannel) : List DevChannel := es.dropWhile fun e => decide (e.type ≠ 0)

/-- The loop counts the entry of type 0, too. -/
def processedCount (es : List DevChannel) : Nat :=
  (processed es).length + if (rest es).isEmpty then 0 else 1

/-- The rows that no processed entry lists. -/
def unlisted (t : Table) (es : List DevChannel) : Nat :=
  numbers.countP fun n => (t n).isSome && !listed (processed es) n

/-- The counted entries beyond one for each number. -/
def surplus (es : List DevChannel) : Nat :=
  processedCount es - numbers.countP (listed (processed es))

/-- No entry contradicts the table or another entry, and nothing new comes while additions are
blocked. -/
def Accepted (blocked : Bool) (t : Table) (es : List DevChannel) : Prop :=
  ∀ e ∈ es, (∀ row, t e.number = some row → row.type = e.type) ∧
    (t e.number = none → blocked = false) ∧ ∀ e' ∈ es, e'.number = e.number → e'.type = e.type

/-- The type of a number in the table or else among the entries. -/
def typeIn (t : Table) (es : List DevChannel) (n : UInt8) : Option Int :=
  match t n with
  | some row => some row.type
  | none => (es.find? fun e => e.number == n).map DevChannel.type

/-- Every row is listed, and the entries that are not processed are there as listed. -/
def RestMatches (t : Table) (es : List DevChannel) : Prop :=
  (∀ n, (t n).isSome = true → listed es n = true) ∧
    ∀ e ∈ rest es, typeIn t (processed es) e.number = some e.type

/-- The list of an action trigger goes beyond the stored one. -/
def FilterLost (t : Table) (es : List DevChannel) : Prop :=
  ∃ e ∈ es, e.type = channeltypeActiontrigger ∧
    t.funcList e.number ||| e.funcList ≠ t.funcList e.number

/-- The stored list is the one of the message as `func_list_filter` restricts it, or the old one
with it. -/
def ListWrite.Restricted : ListWrite → Prop
  | .added ch funcList => funcList = funcListFilter ch.funcList ch.type
  | .updated ch old new => new = old ||| funcListFilter ch.funcList ch.type

/-- The rows are those of the entries, with their types. -/
def Agrees (rows : Table) (es : List DevChannel) : Prop :=
  (∀ n, (rows n).isSome = listed es n) ∧ ∀ e ∈ es, (rows e.number).map Row.type = some e.type

/-- What a registration is to leave. -/
structure Registered (t : Table) (es : List DevChannel) (s : Stored) : Prop where
  agrees : Agrees s.rows es
  kept : ∀ n row, t n = some row → ∃ row', s.rows n = some row' ∧ row'.type = row.type
  lists : ∀ w ∈ s.writes, w.Restricted

/-! ## One entry -/

/-- The table lets an entry in. -/
def Fits (blocked : Bool) (t : Table) (e : DevChannel) : Prop :=
  (∀ row, t e.number = some row → row.type = e.type) ∧ (t e.number = none → blocked = false)

/-- What an entry that was let in changes. -/
structure Stores (e : DevChannel) (s s' : Stored) : Prop where
  row : ∃ row, s'.rows e.number = some row ∧ row.type = e.type ∧
    row.funcList = s.rows.funcList e.number ||| e.funcList
  others : ∀ n, n ≠ e.number → s'.rows n = s.rows n
  lists : (∀ w ∈ s'.writes, w.Restricted) ↔ (∀ w ∈ s.writes, w.Restricted) ∧
    ¬ (e.type = channeltypeActiontrigger ∧
      s.rows.funcList e.number ||| e.funcList ≠ s.rows.funcList e.number)

theorem restricted_append {ws : List ListWrite} {w : ListWrite} {p : Prop}
    (hw : w.Restricted ↔ ¬ p) :
    (∀ v ∈ ws ++ [w], v.Restricted) ↔ (∀ v ∈ ws, v.Restricted) ∧ ¬ p := by
  rw [← hw]
  simp [or_imp, forall_and]

/-- Only the list of an action trigger is restricted. -/
theorem restricted_iff (e : DevChannel) (old : BitVec 32) :
    (old ||| e.funcList = old ||| funcListFilter e.funcList e.type) ↔
      ¬ (e.type = channeltypeActiontrigger ∧ old ||| e.funcList ≠ old) := by
  unfold funcListFilter
  by_cases htype : e.type = channeltypeActiontrigger
  · simp [htype]
  · simp [htype]

theorem addChannel_fits {blocked : Bool} {e : DevChannel} {s : Stored} (htype : e.type ≠ 0)
    (h : Fits blocked s.rows e) : ∃ s', addChannel blocked e s = (true, s') ∧ Stores e s s' := by
  obtain ⟨hsame, hnew⟩ := h
  unfold addChannel
  cases hrow : s.rows e.number with
  | none =>
    have ht : s.rows.type e.number = 0 := by simp [Table.type, hrow]
    have hl : s.rows.funcList e.number = 0#32 := by simp [Table.funcList, hrow]
    have hadd : addRow e s = some
        { rows := s.rows.insert e.number ⟨e.type, e.defaultFunc, e.funcList, e.flags⟩
          writes := s.writes ++ [.added e e.funcList] } := by
      simp [addRow, hrow]
    rw [if_pos ht, hnew hrow, if_neg Bool.false_ne_true, hadd]
    refine ⟨_, rfl, ⟨_, if_pos rfl, rfl, ?_⟩, fun n hn => if_neg hn, ?_⟩
    · rw [hl]
      exact BitVec.zero_or.symm
    · refine restricted_append ?_
      have hiff := restricted_iff e 0#32
      rw [hl]
      simpa [ListWrite.Restricted] using hiff
  | some row =>
    have ht : s.rows.type e.number = row.type := by simp [Table.type, hrow]
    have hl : s.rows.funcList e.number = row.funcList := by simp [Table.funcList, hrow]
    have hrtype := hsame row hrow
    rw [ht, hl, hrtype, if_neg htype, if_neg (not_not.mpr rfl)]
    by_cases hlist : row.funcList ||| e.funcList = row.funcList
    · rw [if_neg (not_not.mpr hlist)]
      refine ⟨s, rfl, ⟨row, hrow, hrtype, ?_⟩, fun _ _ => rfl, ?_⟩
      · rw [hl, hlist]
      · rw [hl]
        simp [hlist]
    · rw [if_pos hlist]
      have hupdate : updateFunctions e (row.funcList ||| e.funcList) s =
          { rows := s.rows.insert e.number { row with funcList := row.funcList ||| e.funcList }
            writes := s.writes ++ [.updated e row.funcList (row.funcList ||| e.funcList)] } := by
        simp [updateFunctions, hrow]
      rw [hupdate]
      refine ⟨_, rfl, ⟨_, if_pos rfl, hrtype, ?_⟩, fun n hn => if_neg hn, ?_⟩
      · rw [hl]
      · rw [hl]
        exact restricted_append (restricted_iff e row.funcList)

theorem addChannel_refuses {blocked : Bool} {e : DevChannel} {s : Stored}
    (h : ¬ Fits blocked s.rows e) : (addChannel blocked e s).1 = false := by
  unfold addChannel
  cases hrow : s.rows e.number with
  | none =>
    have ht : s.rows.type e.number = 0 := by simp [Table.type, hrow]
    have hblocked : blocked = true := by
      refine (Bool.not_eq_false _).mp fun hb => h ⟨fun row hsome => ?_, fun _ => hb⟩
      rw [hrow] at hsome
      cases hsome
    rw [if_pos ht, if_pos hblocked]
  | some row =>
    have ht : s.rows.type e.number = row.type := by simp [Table.type, hrow]
    have hne : row.type ≠ e.type := fun heq => h ⟨fun row' hsome => by
      rw [hrow] at hsome
      cases hsome
      exact heq, fun hnone => by
      rw [hrow] at hnone
      cases hnone⟩
    rw [ht]
    by_cases h0 : row.type = 0
    · rw [if_pos h0]
      cases blocked with
      | true => rfl
      | false =>
        rw [if_neg Bool.false_ne_true]
        simp [addRow, hrow]
    · rw [if_neg h0, if_pos hne]

/-! ## The loop -/

variable {blocked : Bool} {e : DevChannel} {es : List DevChannel} {s s' : Stored} {t : Table}

theorem Accepted.fits (h : Accepted blocked t (e :: es)) : Fits blocked t e :=
  ⟨(h e List.mem_cons_self).1, (h e List.mem_cons_self).2.1⟩

/-- The other entries meet a table that has the first one. -/
theorem Stores.accepted (h : Stores e s s') : Accepted blocked s.rows (e :: es) ↔
    Fits blocked s.rows e ∧ Accepted blocked s'.rows es := by
  obtain ⟨row, hrow, htype, -⟩ := h.row
  constructor
  · intro hacc
    refine ⟨hacc.fits, fun d hd => ?_⟩
    obtain ⟨hsame, hnew, hpair⟩ := hacc d (List.mem_cons_of_mem _ hd)
    refine ⟨fun r hr => ?_, fun hnone => ?_, fun d' hd' => hpair d' (List.mem_cons_of_mem _ hd')⟩
    · by_cases hn : d.number = e.number
      · rw [hn, hrow, Option.some.injEq] at hr
        rw [← hr, htype]
        exact hpair e List.mem_cons_self hn.symm
      · rw [h.others _ hn] at hr
        exact hsame r hr
    · by_cases hn : d.number = e.number
      · rw [hn, hrow] at hnone
        cases hnone
      · rw [h.others _ hn] at hnone
        exact hnew hnone
  · rintro ⟨hfits, hacc⟩ d hd
    -- An entry with the number of the first one agrees with it through the new row.
    have hfirst : ∀ d' ∈ es, d'.number = e.number → d'.type = e.type := by
      intro d' hd' hn
      have := (hacc d' hd').1 row (by rw [hn, hrow])
      rw [← this, htype]
    rcases List.mem_cons.mp hd with rfl | hd
    · refine ⟨hfits.1, hfits.2, fun d' hd' hn => ?_⟩
      rcases List.mem_cons.mp hd' with rfl | hd'
      · rfl
      · exact hfirst d' hd' hn
    · obtain ⟨hsame, hnew, hpair⟩ := hacc d hd
      by_cases hn : d.number = e.number
      · have hd_type := hfirst d hd hn
        refine ⟨fun r hr => ?_, fun hnone => ?_, fun d' hd' hn' => ?_⟩
        · rw [hd_type]
          exact hfits.1 r (by rw [← hn, hr])
        · exact hfits.2 (by rw [← hn, hnone])
        · rcases List.mem_cons.mp hd' with rfl | hd'
          · exact hd_type.symm
          · exact hpair d' hd' hn'
      · refine ⟨fun r hr => hsame r (by rw [h.others _ hn, hr]),
          fun hnone => hnew (by rw [h.others _ hn, hnone]), fun d' hd' hn' => ?_⟩
        rcases List.mem_cons.mp hd' with rfl | hd'
        · exact absurd hn'.symm hn
        · exact hpair d' hd' hn'

theorem Stores.filterLost (h : Stores e s s') (hacc : Accepted blocked s.rows (e :: es)) :
    FilterLost s.rows (e :: es) ↔ (e.type = channeltypeActiontrigger ∧
      s.rows.funcList e.number ||| e.funcList ≠ s.rows.funcList e.number) ∨
        FilterLost s'.rows es := by
  obtain ⟨row, hrow, htype, hlist⟩ := h.row
  -- The list that the other entries meet is the same unless the first entry has lost its own.
  have hsame : ¬ (e.type = channeltypeActiontrigger ∧
      s.rows.funcList e.number ||| e.funcList ≠ s.rows.funcList e.number) →
      ∀ d ∈ es, d.type = channeltypeActiontrigger →
        s'.rows.funcList d.number = s.rows.funcList d.number := by
    intro hkept d hd hd_type
    by_cases hn : d.number = e.number
    · have he_type : e.type = channeltypeActiontrigger := by
        rw [← hd_type]
        exact (hacc d (List.mem_cons_of_mem _ hd)).2.2 e List.mem_cons_self hn.symm
      have hor : s.rows.funcList e.number ||| e.funcList = s.rows.funcList e.number :=
        not_not.mp fun hne => hkept ⟨he_type, hne⟩
      have hnew : s'.rows.funcList e.number = row.funcList := by simp [Table.funcList, hrow]
      rw [hn, hnew, hlist, hor]
    · unfold Table.funcList
      rw [h.others _ hn]
  by_cases hlost : e.type = channeltypeActiontrigger ∧
      s.rows.funcList e.number ||| e.funcList ≠ s.rows.funcList e.number
  · exact iff_of_true ⟨e, List.mem_cons_self, hlost⟩ (Or.inl hlost)
  · constructor
    · rintro ⟨d, hd, hd_type, hne⟩
      rcases List.mem_cons.mp hd with rfl | hd
      · exact Or.inl ⟨hd_type, hne⟩
      · exact Or.inr ⟨d, hd, hd_type, by rwa [hsame hlost d hd hd_type]⟩
    · rintro (h | ⟨d, hd, hd_type, hne⟩)
      · exact absurd h hlost
      · exact ⟨d, List.mem_cons_of_mem _ hd, hd_type, by rwa [hsame hlost d hd hd_type] at hne⟩

theorem Stores.typeIn (h : Stores e s s') (hfits : Fits blocked s.rows e) (n : UInt8) :
    ChannelTable.typeIn s'.rows es n = ChannelTable.typeIn s.rows (e :: es) n := by
  unfold ChannelTable.typeIn
  obtain ⟨row, hrow, htype, -⟩ := h.row
  by_cases hn : n = e.number
  · subst hn
    rw [hrow]
    cases hold : s.rows e.number with
    | none => simp [htype]
    | some r => simp [htype, hfits.1 r hold]
  · have hne : ¬ e.number = n := fun heq => hn heq.symm
    rw [h.others n hn]
    simp [hne]

/-- **The loop over entries that are accepted.** -/
theorem addChannelsLoop_spec (final : List DevChannel) (hend : ∀ e ∈ final.head?, e.type = 0) :
    ∀ (es : List DevChannel) (n : Nat) (s : Stored), (∀ e ∈ es, e.type ≠ 0) →
      Accepted blocked s.rows es →
      ∃ s', addChannelsLoop blocked (es ++ final) n s =
          (some (n + es.length + if final.isEmpty then 0 else 1), s') ∧
        (∀ k, (s'.rows k).map Row.type = ChannelTable.typeIn s.rows es k) ∧
        ((∀ w ∈ s'.writes, w.Restricted) ↔
          (∀ w ∈ s.writes, w.Restricted) ∧ ¬ FilterLost s.rows es)
  | [], n, s, _, _ => by
    refine ⟨s, ?_, fun k => ?_, ?_⟩
    · cases final with
      | nil => rfl
      | cons d ds =>
        have hd : d.type = 0 := hend d rfl
        rw [List.nil_append, addChannelsLoop, if_pos hd]
        rfl
    · unfold ChannelTable.typeIn
      cases s.rows k <;> rfl
    · simp [FilterLost]
  | e :: es, n, s, htypes, hacc => by
    obtain ⟨s1, hstep, hstores⟩ := addChannel_fits (htypes e List.mem_cons_self) hacc.fits
    obtain ⟨s', hloop, hrows, hlists⟩ := addChannelsLoop_spec final hend es (n + 1) s1
      (fun d hd => htypes d (List.mem_cons_of_mem _ hd)) (hstores.accepted.mp hacc).2
    refine ⟨s', ?_, fun k => ?_, ?_⟩
    · rw [List.cons_append, addChannelsLoop, if_neg (htypes e List.mem_cons_self), hstep]
      dsimp only
      rw [hloop, List.length_cons]
      congr 2
      omega
    · rw [hrows k]
      exact hstores.typeIn hacc.fits k
    · rw [hlists, hstores.lists, hstores.filterLost hacc, not_or, and_assoc]

/-- The loop ends with -1 where an entry is not accepted. -/
theorem addChannelsLoop_refuses (final : List DevChannel) :
    ∀ (es : List DevChannel) (n : Nat) (s : Stored), (∀ e ∈ es, e.type ≠ 0) →
      ¬ Accepted blocked s.rows es → (addChannelsLoop blocked (es ++ final) n s).1 = none
  | [], _, _, _, hacc => absurd (fun _ h => absurd h List.not_mem_nil) hacc
  | e :: es, n, s, htypes, hacc => by
    rw [List.cons_append, addChannelsLoop, if_neg (htypes e List.mem_cons_self)]
    by_cases hfits : Fits blocked s.rows e
    · obtain ⟨s1, hstep, hstores⟩ := addChannel_fits (htypes e List.mem_cons_self) hfits
      rw [hstep]
      exact addChannelsLoop_refuses final es (n + 1) s1
        (fun d hd => htypes d (List.mem_cons_of_mem _ hd))
        fun h => hacc (hstores.accepted.mpr ⟨hfits, h⟩)
    · have hfalse := addChannel_refuses hfits
      generalize addChannel blocked e s = r at hfalse
      obtain ⟨b, s1⟩ := r
      subst hfalse
      rfl

/-! ## Counting -/

theorem numbers_nodup : numbers.Nodup := by
  refine List.Nodup.map_on (fun x hx y hy hxy => ?_) List.nodup_range
  rw [List.mem_range] at hx hy
  have hval := congrArg UInt8.toNat hxy
  rw [UInt8.toNat_ofNat', UInt8.toNat_ofNat'] at hval
  omega

theorem countP_or {α : Type} (p q : α → Bool) : ∀ l : List α,
    l.countP (fun a => q a || p a) = l.countP (fun a => q a && !p a) + l.countP p
  | [] => rfl
  | a :: l => by
    rw [List.countP_cons, List.countP_cons, List.countP_cons, countP_or p q l]
    cases p a <;> cases q a <;> simp <;> omega

/-- A list has at most as many numbers as entries. -/
theorem countP_listed_le (es : List DevChannel) : numbers.countP (listed es) ≤ es.length := by
  have hsub : numbers.filter (listed es) ⊆ es.map DevChannel.number := by
    intro n hn
    obtain ⟨e, he, heq⟩ := List.any_eq_true.mp (List.mem_filter.mp hn).2
    exact List.mem_map.mpr ⟨e, he, eq_of_beq heq⟩
  have hle := (List.subperm_of_subset (numbers_nodup.filter (listed es)) hsub).length_le
  rwa [List.length_map, ← List.countP_eq_length_filter] at hle

theorem typeIn_isSome (t : Table) (es : List DevChannel) (n : UInt8) :
    (typeIn t es n).isSome = ((t n).isSome || listed es n) := by
  unfold typeIn listed
  cases t n with
  | some row => rfl
  | none => rw [Option.isSome_map, List.isSome_find?, Option.isSome_none, Bool.false_or]

/-- The rows after the loop are those of the processed entries and the ones they do not list. -/
theorem count_of_types {rows : Table} {es : List DevChannel}
    (h : ∀ k, (rows k).map Row.type = typeIn t (processed es) k) :
    rows.count = unlisted t es + numbers.countP (listed (processed es)) := by
  have hsome : ∀ k, (rows k).isSome = ((t k).isSome || listed (processed es) k) := by
    intro k
    rw [← typeIn_isSome, ← h k, Option.isSome_map]
  unfold Table.count unlisted
  simp only [hsome]
  exact countP_or _ _ numbers

/-! ## The whole call -/

theorem listed_iff {es : List DevChannel} {n : UInt8} :
    listed es n = true ↔ ∃ e ∈ es, e.number = n := by
  simp [listed]

theorem mem_of_processed {es : List DevChannel} (h : e ∈ processed es) : e ∈ es :=
  List.takeWhile_subset _ h

theorem mem_of_rest {es : List DevChannel} (h : e ∈ rest es) : e ∈ es :=
  (List.dropWhile_suffix _).subset h

theorem mem_split {es : List DevChannel} (h : e ∈ es) : e ∈ processed es ∨ e ∈ rest es := by
  rw [← List.takeWhile_append_dropWhile (p := fun e : DevChannel => decide (e.type ≠ 0)) (l := es)]
    at h
  exact List.mem_append.mp h

theorem type_of_processed {es : List DevChannel} (h : e ∈ processed es) : e.type ≠ 0 :=
  of_decide_eq_true (List.all_eq_true.mp List.all_takeWhile e h)

theorem typeIn_of_accepted {es : List DevChannel} (hacc : Accepted blocked t es) (h : e ∈ es) :
    typeIn t es e.number = some e.type := by
  unfold typeIn
  cases hrow : t e.number with
  | some row => exact congrArg some ((hacc e h).1 row hrow)
  | none =>
    cases hfind : es.find? fun d => d.number == e.number with
    | none => exact absurd (List.find?_eq_none.mp hfind e h) (by simp)
    | some d =>
      have hd := List.find?_some hfind
      exact congrArg some ((hacc e h).2.2 d (List.mem_of_find?_eq_some hfind) (eq_of_beq hd))

/-- The rows agree with the message exactly if the rest of it does. -/
theorem agrees_iff {rows : Table} {es : List DevChannel} (hacc : Accepted blocked t (processed es))
    (h : ∀ k, (rows k).map Row.type = typeIn t (processed es) k) :
    Agrees rows es ↔ RestMatches t es := by
  have hsome : ∀ k, (rows k).isSome = ((t k).isSome || listed (processed es) k) := by
    intro k
    rw [← typeIn_isSome, ← h k, Option.isSome_map]
  constructor
  · rintro ⟨hnumbers, htypes⟩
    refine ⟨fun n hn => ?_, fun d hd => ?_⟩
    · rw [← hnumbers n, hsome n, hn, Bool.true_or]
    · rw [← h, htypes d (mem_of_rest hd)]
  · rintro ⟨hnumbers, htypes⟩
    refine ⟨fun n => ?_, fun d hd => ?_⟩
    · rw [hsome n, Bool.eq_iff_iff, Bool.or_eq_true, listed_iff, listed_iff]
      constructor
      · rintro (hn | ⟨d, hd, hdn⟩)
        · exact listed_iff.mp (hnumbers n hn)
        · exact ⟨d, mem_of_processed hd, hdn⟩
      · rintro ⟨d, hd, rfl⟩
        rcases mem_split hd with hd | hd
        · exact Or.inr ⟨d, hd, rfl⟩
        · have hsome := typeIn_isSome t (processed es) d.number
          rw [htypes d hd] at hsome
          rw [← listed_iff]
          exact Bool.or_eq_true_iff.mp hsome.symm
    · rw [h]
      rcases mem_split hd with hd | hd
      · exact typeIn_of_accepted hacc hd
      · exact htypes d hd

theorem head_rest {es : List DevChannel} : ∀ e ∈ (rest es).head?, e.type = 0 := by
  intro e he
  have hnot := List.head?_dropWhile_not (fun e : DevChannel => decide (e.type ≠ 0)) es
  unfold rest at he
  rw [Option.mem_def] at he
  rw [he] at hnot
  simpa using hnot

theorem processed_append_rest (es : List DevChannel) : processed es ++ rest es = es :=
  List.takeWhile_append_dropWhile

variable {m : Message}

/-- **A call that is accepted** compares the rows that no processed entry lists with the surplus. -/
theorem addChannels_accepted (hacc : Accepted blocked t (processed (entries m))) :
    ((addChannels blocked m t).1 = true ↔ unlisted t (entries m) = surplus (entries m)) ∧
      (∀ k, ((addChannels blocked m t).2.rows k).map Row.type =
        typeIn t (processed (entries m)) k) ∧
      ((∀ w ∈ (addChannels blocked m t).2.writes, w.Restricted) ↔
        ¬ FilterLost t (processed (entries m))) := by
  obtain ⟨s', hloop, hrows, hlists⟩ := addChannelsLoop_spec (rest (entries m)) head_rest
    (processed (entries m)) 0 ⟨t, []⟩ (fun _ => type_of_processed) hacc
  rw [processed_append_rest, Nat.zero_add] at hloop
  have hcount : s'.rows.count =
      unlisted t (entries m) + numbers.countP (listed (processed (entries m))) :=
    count_of_types hrows
  have hle : numbers.countP (listed (processed (entries m))) ≤ processedCount (entries m) :=
    Nat.le_trans (countP_listed_le _) (Nat.le_add_right _ _)
  have hcall : addChannels blocked m t =
      (decide (s'.rows.count = processedCount (entries m)), s') := by
    unfold addChannels
    rw [hloop]
    change (if s'.rows.count ≠ processedCount (entries m) then (false, s') else (true, s')) = _
    by_cases h : s'.rows.count = processedCount (entries m) <;> simp [h]
  rw [hcall]
  refine ⟨?_, hrows, by simpa using hlists⟩
  have hsurplus : surplus (entries m) = processedCount (entries m) -
      numbers.countP (listed (processed (entries m))) := rfl
  rw [decide_eq_true_iff, hcount, hsurplus]
  omega

/-- A call that is not accepted fails. -/
theorem addChannels_refused (hacc : ¬ Accepted blocked t (processed (entries m))) :
    (addChannels blocked m t).1 = false := by
  have hnone := addChannelsLoop_refuses (rest (entries m)) (processed (entries m)) 0
    ⟨t, []⟩ (fun _ => type_of_processed) hacc
  rw [processed_append_rest] at hnone
  unfold addChannels
  generalize addChannelsLoop blocked (entries m) 0 ⟨t, []⟩ = r at hnone
  obtain ⟨n, s⟩ := r
  subst hnone
  rfl

/-- **A successful registration leaves the stored channels as the message has them**, and one that
would leave them otherwise fails, exactly if in an accepted message whose surplus makes up for the
rows that it does not list the rest matches, and no action trigger has its list restricted. -/
theorem addChannels_registers_iff (blocked : Bool) (m : Message) (t : Table) :
    (((addChannels blocked m t).1 = true →
        Registered t (entries m) (addChannels blocked m t).2) ∧
      (¬ Agrees (addChannels blocked m t).2.rows (entries m) →
        (addChannels blocked m t).1 = false)) ↔
    (Accepted blocked t (processed (entries m)) → unlisted t (entries m) = surplus (entries m) →
      RestMatches t (entries m) ∧ ¬ FilterLost t (processed (entries m))) := by
  by_cases hacc : Accepted blocked t (processed (entries m))
  · obtain ⟨htrue, hrows, hlists⟩ := addChannels_accepted hacc
    have hagrees := agrees_iff hacc hrows
    constructor
    · rintro ⟨hregisters, -⟩ _ hcounts
      have h := hregisters (htrue.mpr hcounts)
      exact ⟨hagrees.mp h.agrees, hlists.mp h.lists⟩
    · intro hgood
      refine ⟨fun hresult => ?_, fun hnot => ?_⟩
      · obtain ⟨hmatches, hkept⟩ := hgood hacc (htrue.mp hresult)
        refine ⟨hagrees.mpr hmatches, fun n row hrow => ?_, hlists.mpr hkept⟩
        have htype := hrows n
        unfold typeIn at htype
        rw [hrow] at htype
        obtain ⟨row', hrow', heq⟩ := Option.map_eq_some_iff.mp htype
        exact ⟨row', hrow', heq⟩
      · refine (Bool.not_eq_true _).mp fun hresult => hnot ?_
        exact hagrees.mpr (hgood hacc (htrue.mp hresult)).1
  · have hfalse := addChannels_refused hacc
    refine iff_of_true ⟨fun hresult => ?_, fun _ => hfalse⟩ fun h => absurd h hacc
    rw [hfalse] at hresult
    cases hresult

/-- A message that lists channel 0 twice. -/
def zeroTwice : Message where
  guid := [1]
  credentials := .c 1
  channelCount := 2
  channels := fun _ => ⟨0, 2900, 0, 0, 0⟩

/-- Channel 0 as it is listed, and a channel 5 that is not. -/
def zeroAndFive : Table :=
  fun n => if n = 0 then some ⟨2900, 0, 0, 0⟩ else if n = 5 then some ⟨1000, 0, 0, 0⟩ else none

/-- A message that lists an action trigger with a function list. -/
def oneTrigger : Message where
  guid := [1]
  credentials := .c 1
  channelCount := 1
  channels := fun _ => ⟨1, channeltypeActiontrigger, 7, 0, 0⟩

/-- The second entry for channel 0 makes up for channel 5, and the list of an action trigger is
stored as it came. -/
theorem addChannels_miscounts :
    ((addChannels false zeroTwice zeroAndFive).1 = true ∧
      ((addChannels false zeroTwice zeroAndFive).2.rows 5).isSome = true ∧
      listed (entries zeroTwice) 5 = false) ∧
    (addChannels false oneTrigger fun _ => none).1 = true ∧
      ((addChannels false oneTrigger fun _ => none).2.rows 1).map Row.funcList = some 7 ∧
      funcListFilter 7 channeltypeActiontrigger = 0 := by
  decide +kernel

/-! ## The call over the answers of a table -/

theorem properties_type (t : Table) (n : UInt8) :
    (if (t.properties n).1 = 0 then 0 else (t.properties n).2.1) = t.type n := by
  unfold Table.properties Table.type
  cases t n with
  | none => rfl
  | some row => exact if_neg Int.one_ne_zero

theorem properties_funcList (t : Table) (n : UInt8) : (t.properties n).2.2 = t.funcList n := by
  unfold Table.properties Table.funcList
  cases t n <;> rfl

/-- No id for a row that is not added. -/
theorem newId_eq_zero (ch : DevChannel) (s : Stored) :
    s.rows.newId ch.number = 0 ↔ addRow ch s = none := by
  unfold Table.newId addRow
  cases s.rows ch.number <;> simp

variable {dao : Dao} {r : Reg}

variable (t m dao) in
theorem addChannel_answers (a : Nat) (hr : r.channelAdditionBlocked = blocked) :
    (r.addChannel m (answers blocked m t dao) a).1 =
        (addChannel blocked (m.channels a) (tableAt blocked m t a)).1 ∧
      (r.addChannel m (answers blocked m t dao) a).2.channelAdditionBlocked = blocked := by
  have htype : (answers blocked m t dao).dbChannelType a =
      (tableAt blocked m t a).rows.type (m.channels a).number := properties_type _ _
  have hlist : ((answers blocked m t dao).getChannelProperties a).2.2 =
      (tableAt blocked m t a).rows.funcList (m.channels a).number := properties_funcList _ _
  have hadd : (answers blocked m t dao).addChannel a = 0 ↔
      addRow (m.channels a) (tableAt blocked m t a) = none := newId_eq_zero _ _
  unfold Reg.addChannel addChannel
  dsimp only
  rw [htype, hlist, hr]
  by_cases h0 : (tableAt blocked m t a).rows.type (m.channels a).number = 0
  · rw [if_pos h0, if_pos h0]
    cases blocked with
    | true => exact ⟨rfl, hr⟩
    | false =>
      rw [if_neg Bool.false_ne_true, if_neg Bool.false_ne_true]
      cases hrow : addRow (m.channels a) (tableAt false m t a) with
      | none =>
        rw [if_pos (hadd.mpr hrow)]
        exact ⟨rfl, hr⟩
      | some s' =>
        rw [if_neg fun h => by rw [hadd.mp h] at hrow; cases hrow]
        exact ⟨rfl, hr⟩
  · rw [if_neg h0, if_neg h0]
    by_cases hne : (tableAt blocked m t a).rows.type (m.channels a).number ≠ (m.channels a).type
    · rw [if_pos hne, if_pos hne]
      exact ⟨rfl, hr⟩
    · rw [if_neg hne, if_neg hne]
      by_cases hor : (tableAt blocked m t a).rows.funcList (m.channels a).number |||
          (m.channels a).funcList ≠ (tableAt blocked m t a).rows.funcList (m.channels a).number
      · rw [if_pos hor, if_pos hor]
        exact ⟨rfl, hr⟩
      · rw [if_neg hor, if_neg hor]
        exact ⟨rfl, hr⟩

variable (t m dao) in
theorem addChannelsLoop_answers : ∀ (k a n : Nat) (r : Reg), r.channelAdditionBlocked = blocked →
    (r.addChannelsLoop m (answers blocked m t dao) (List.range' a k) n).1 =
      (addChannelsLoop blocked ((List.range' a k).map m.channels) n (tableAt blocked m t a)).1
  | 0, _, _, _, _ => rfl
  | k + 1, a, n, r, hr => by
    have hstep := addChannel_answers t m dao a hr
    rw [List.range'_succ, List.map_cons, Reg.addChannelsLoop, addChannelsLoop]
    by_cases h0 : (m.channels a).type = 0
    · rw [if_pos h0, if_pos h0]
    · rw [if_neg h0, if_neg h0]
      generalize r.addChannel m (answers blocked m t dao) a = x at hstep
      generalize hy : addChannel blocked (m.channels a) (tableAt blocked m t a) = y at hstep
      obtain ⟨b, r'⟩ := x
      obtain ⟨c, s'⟩ := y
      obtain ⟨rfl, hr'⟩ := hstep
      cases b with
      | false => rfl
      | true =>
        have hnext : tableAt blocked m t (a + 1) = s' := congrArg Prod.snd hy
        dsimp only
        rw [addChannelsLoop_answers k (a + 1) (n + 1) r' hr', hnext]

/-- **`Reg.addChannels` is this call**, where the DAO answers from a table. -/
theorem reg_addChannels (blocked : Bool) (m : Message) (t : Table) (dao : Dao) (r : Reg)
    (hr : r.channelAdditionBlocked = blocked) :
    (r.addChannels m (answers blocked m t dao)).1 = (addChannels blocked m t).1 := by
  have hloop := addChannelsLoop_answers t m dao
    (min suplaChannelmaxcount m.channelCount.toNat) 0 0 r hr
  rw [← List.range_eq_range'] at hloop
  unfold Reg.addChannels
  generalize hx : r.addChannelsLoop m (answers blocked m t dao) (Reg.channelIndices m) 0 = x
  have hsame : x.1 = (addChannelsLoop blocked (entries m) 0 ⟨t, []⟩).1 := by
    rw [← hx]
    exact hloop
  have hcount : (answers blocked m t dao).getDeviceChannelCount =
      ((addChannelsLoop blocked (entries m) 0 ⟨t, []⟩).2.rows.count : Int) := by
    have hsnd : (addChannels blocked m t).2 =
        (addChannelsLoop blocked (entries m) 0 ⟨t, []⟩).2 := by
      unfold addChannels
      cases addChannelsLoop blocked (entries m) 0 ⟨t, []⟩ with
      | mk n s =>
        cases n with
        | none => rfl
        | some n =>
          dsimp only
          split <;> rfl
    rw [← hsnd]
    rfl
  unfold addChannels
  generalize addChannelsLoop blocked (entries m) 0 ⟨t, []⟩ = y at hsame hcount
  obtain ⟨n, r'⟩ := x
  obtain ⟨k, s'⟩ := y
  subst hsame
  cases n with
  | none => rfl
  | some n =>
    dsimp only
    rw [hcount]
    by_cases hn : s'.rows.count = n
    · rw [if_neg (by simp [hn]), if_neg (by simp [hn])]
    · rw [if_pos (by exact_mod_cast hn), if_pos hn]

end Device.ChannelTable
