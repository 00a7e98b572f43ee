import SuplaCore.Vbt.ActiveHours

/-!
# What the text of the active hours means

`pushHour` adds one hour to one day of a map whose days are in order (`Ordered`), so what is found
after the loop is what some item names. An item names an hour when behind the digit of the day it
begins with a number that has the hour as its low byte: `stoi` reads over blanks and signs in front
of the number and does not see what stands behind it. The hour is that of the local time as long as
`make_time` is given the time since midnight, which it makes positive.
-/

namespace Vbt

open Scan

/-! ## The map -/

/-- The days of the map stand in their order. -/
def Ordered (hours : List (Nat × List Nat)) : Prop := hours.Pairwise fun a b => a.1 < b.1

variable {hours : List (Nat × List Nat)} {day hour d h : Nat}

/-- The hour stands at the first entry of the day. -/
theorem hourFound_cons (e : Nat × List Nat) :
    ActivePeriod.hourFound (e :: hours) d h =
      if e.1 = d then e.2.contains h else ActivePeriod.hourFound hours d h := by
  unfold ActivePeriod.hourFound
  by_cases he : e.1 = d
  · rw [if_pos he, List.find?_cons_of_pos (by simpa using he)]
  · rw [if_neg he, List.find?_cons_of_neg (by simpa using he)]

/-- Nothing is found at a day before all others. -/
theorem hourFound_before (hbefore : ∀ e ∈ hours, d < e.1) :
    ActivePeriod.hourFound hours d h = false := by
  unfold ActivePeriod.hourFound
  have hnone : hours.find? (fun e => decide (e.1 = d)) = none := by
    rw [List.find?_eq_none]
    intro e he heq
    have hlt := hbefore e he
    have : e.1 = d := by simpa using heq
    omega
  rw [hnone]

theorem mem_pushHour {e : Nat × List Nat} (he : e ∈ pushHour day hour hours) :
    e.1 = day ∨ ∃ e' ∈ hours, e'.1 = e.1 := by
  induction hours with
  | nil =>
    rw [pushHour, List.mem_singleton] at he
    exact Or.inl (by rw [he])
  | cons x rest ih =>
    rw [pushHour] at he
    split at he
    · rcases List.mem_cons.mp he with rfl | he
      · exact Or.inl rfl
      · exact Or.inr ⟨e, he, rfl⟩
    · split at he
      · rcases List.mem_cons.mp he with rfl | he
        · exact Or.inr ⟨x, List.mem_cons_self, rfl⟩
        · exact Or.inr ⟨e, List.mem_cons_of_mem _ he, rfl⟩
      · rcases List.mem_cons.mp he with rfl | he
        · exact Or.inr ⟨_, List.mem_cons_self, rfl⟩
        · obtain hday | ⟨e', he', heq⟩ := ih he
          · exact Or.inl hday
          · exact Or.inr ⟨e', List.mem_cons_of_mem _ he', heq⟩

theorem Ordered.pushHour (ho : Ordered hours) : Ordered (pushHour day hour hours) := by
  induction hours with
  | nil => exact List.pairwise_singleton _ _
  | cons x rest ih =>
    obtain ⟨hx, hrest⟩ := List.pairwise_cons.mp ho
    rw [Vbt.pushHour]
    split
    · rename_i hlt
      refine List.pairwise_cons.mpr ⟨?_, ho⟩
      intro e he
      rcases List.mem_cons.mp he with rfl | he
      · exact hlt
      · exact Nat.lt_trans hlt (hx e he)
    · rename_i hge
      split
      · exact List.pairwise_cons.mpr ⟨hx, hrest⟩
      · rename_i hne
        refine List.pairwise_cons.mpr ⟨?_, ih hrest⟩
        intro e he
        show x.1 < e.1
        obtain hday | ⟨e', he', heq⟩ := mem_pushHour he
        · omega
        · exact heq ▸ hx e' he'

/-- What is found after an hour was added. -/
theorem hourFound_pushHour (ho : Ordered hours) :
    ActivePeriod.hourFound (pushHour day hour hours) d h = true ↔
      ActivePeriod.hourFound hours d h = true ∨ d = day ∧ h = hour := by
  induction hours with
  | nil =>
    rw [pushHour, hourFound_cons]
    by_cases hd : day = d
    · simp [ActivePeriod.hourFound, hd]
    · simp [ActivePeriod.hourFound, hd, Ne.symm hd]
  | cons x rest ih =>
    obtain ⟨hx, hrest⟩ := List.pairwise_cons.mp ho
    rw [pushHour]
    split
    · rename_i hlt
      rw [hourFound_cons]
      by_cases hd : day = d
      · subst hd
        have hnone : ActivePeriod.hourFound ((x.1, x.2) :: rest) day h = false := by
          apply hourFound_before
          intro e he
          rcases List.mem_cons.mp he with rfl | he
          · exact hlt
          · exact Nat.lt_trans hlt (hx e he)
        rw [if_pos rfl, hnone]
        simp
      · rw [if_neg hd]
        simp [Ne.symm hd]
    · split
      · rename_i heq
        rw [hourFound_cons, hourFound_cons]
        by_cases hd : x.1 = d
        · have hday : d = day := by omega
          rw [if_pos hd, if_pos hd]
          simp [hday]
        · have hday : d ≠ day := by omega
          rw [if_neg hd, if_neg hd]
          simp [hday]
      · rename_i hne
        rw [hourFound_cons, hourFound_cons]
        by_cases hd : x.1 = d
        · have hday : d ≠ day := by omega
          rw [if_pos hd, if_pos hd]
          simp [hday]
        · rw [if_neg hd, if_neg hd]
          exact ih hrest

/-! ## The items -/

/-- The item is the digit of the day and a text that begins with a number. -/
def Item (item : List Char) (d : Nat) (n : Int) : Prop :=
  ∃ rest, item = Nat.digitChar d :: rest ∧ Begins rest n

/-- A number that is no hour and has one as its low byte. -/
def WrapsToHour (n : Int) : Prop := isInt n ∧ ¬ (0 ≤ n ∧ n ≤ 23) ∧ toUChar n ≤ 23

/-- No item of the text has such a number behind its day. -/
def NoWrappedHour (text : List Char) : Prop :=
  ∀ item ∈ text.splitOn ',', ∀ d n, 1 ≤ d → d ≤ 7 → Item item d n → ¬ WrapsToHour n

/-- What the code makes of an item. -/
def Accepts (item : List Char) (d h : Nat) : Prop :=
  1 ≤ d ∧ d ≤ 7 ∧ h ≤ 23 ∧ ∃ n, Item item d n ∧ isInt n ∧ toUChar n = h

theorem toUChar_of_lt {n : Nat} (hn : n < 256) : toUChar n = n := by
  unfold toUChar
  omega

/-- A character is the digit of a number below ten when it is a digit. -/
theorem digitChar_iff {c : Char} (hd : d < 10) :
    c = Nat.digitChar d ↔ c.isDigit = true ∧ c.toNat - '0'.toNat = d := by
  constructor
  · rintro rfl
    revert hd d
    decide
  · rintro ⟨hc, rfl⟩
    obtain ⟨hge, hle⟩ : 48 ≤ c.toNat ∧ c.toNat ≤ 57 := by
      rw [Char.isDigit, Bool.and_eq_true, decide_eq_true_iff, decide_eq_true_iff] at hc
      exact hc
    have hall : ∀ n < 10, Nat.digitChar n = Char.ofNat (n + 48) := by decide
    rw [hall _ hd, show c.toNat - '0'.toNat + 48 = c.toNat by
      show c.toNat - 48 + 48 = c.toNat
      omega, Char.ofNat_toNat]

/-- The day that an item has, as the code reads it. -/
theorem stoi_day {c : Char} {rest : List Char} (hd : d ≤ 7) :
    (∃ n, stoi ((c :: rest).take 1) = some n ∧ toUChar n = d ∧ 1 ≤ d) ↔
      c = Nat.digitChar d ∧ 1 ≤ d := by
  rw [List.take_succ_cons, List.take_zero, stoi_singleton, digitChar_iff (by omega)]
  by_cases hc : c.isDigit = true
  · rw [if_pos hc]
    have hle : c.toNat ≤ 57 := by
      rw [Char.isDigit, Bool.and_eq_true, decide_eq_true_iff, decide_eq_true_iff] at hc
      exact hc.2
    have hsmall : toUChar ((c.toNat - '0'.toNat : Nat) : Int) = c.toNat - '0'.toNat :=
      toUChar_of_lt (by omega)
    constructor
    · rintro ⟨n, hn, hd', h1⟩
      rw [Option.some.injEq] at hn
      rw [← hn, hsmall] at hd'
      exact ⟨⟨hc, hd'⟩, h1⟩
    · rintro ⟨⟨-, hd'⟩, h1⟩
      exact ⟨_, rfl, by rw [hsmall, hd'], h1⟩
  · rw [if_neg hc]
    constructor
    · rintro ⟨n, hn, -⟩
      exact absurd hn (by simp)
    · rintro ⟨⟨hc', -⟩, -⟩
      exact absurd hc' hc

/-- An item is accepted for what its two numbers are as bytes. -/
theorem accepts_iff (item : List Char) (d h : Nat) : Accepts item d h ↔
    ∃ day n, stoi (item.take 1) = some day ∧ stoi (item.drop 1) = some n ∧
      toUChar day = d ∧ toUChar n = h ∧ 1 ≤ d ∧ d ≤ 7 ∧ h ≤ 23 := by
  constructor
  · rintro ⟨h1, h7, h23, n, ⟨rest, rfl, hn⟩, hint, heq⟩
    obtain ⟨day, hday, hd, -⟩ := (stoi_day h7).mpr ⟨rfl, h1⟩
    exact ⟨day, n, hday, stoi_eq_some.mpr ⟨hn, hint⟩, hd, heq, h1, h7, h23⟩
  · rintro ⟨day, n, hday, hn, hd, heq, h1, h7, h23⟩
    obtain ⟨hbegins, hint⟩ := stoi_eq_some.mp hn
    cases item with
    | nil =>
      have hnil : stoi [] = none := by decide
      rw [List.take_nil, hnil] at hday
      cases hday
    | cons c rest =>
      obtain ⟨rfl, -⟩ := (stoi_day h7).mp ⟨day, hday, hd, h1⟩
      exact ⟨h1, h7, h23, n, ⟨rest, rfl, hbegins⟩, hint, heq⟩

/-- **What one item adds.** -/
theorem hourFound_addItem (ho : Ordered hours) (item : List Char) :
    Ordered (addItem hours item) ∧
      (ActivePeriod.hourFound (addItem hours item) d h = true ↔
        ActivePeriod.hourFound hours d h = true ∨ Accepts item d h) := by
  rw [accepts_iff]
  unfold addItem
  cases hday : stoi (item.take 1) with
  | none => exact ⟨ho, by simp⟩
  | some day =>
    cases hn : stoi (item.drop 1) with
    | none => exact ⟨ho, by simp⟩
    | some n =>
      dsimp only
      by_cases hin : 1 ≤ toUChar day ∧ toUChar day ≤ 7 ∧ 0 ≤ toUChar n ∧ toUChar n ≤ 23
      · rw [if_pos hin]
        refine ⟨ho.pushHour, (hourFound_pushHour ho).trans (or_congr_right ?_)⟩
        constructor
        · rintro ⟨rfl, rfl⟩
          exact ⟨day, n, rfl, rfl, rfl, rfl, hin.1, hin.2.1, hin.2.2.2⟩
        · rintro ⟨_, _, ⟨⟩, ⟨⟩, rfl, rfl, -⟩
          exact ⟨rfl, rfl⟩
      · rw [if_neg hin]
        refine ⟨ho, (or_iff_left ?_).symm⟩
        rintro ⟨_, _, ⟨⟩, ⟨⟩, rfl, rfl, h1, h7, h23⟩
        exact hin ⟨h1, h7, Nat.zero_le _, h23⟩

/-- What all items add. -/
theorem hourFound_items (items : List (List Char)) (ho : Ordered hours) :
    ActivePeriod.hourFound (items.foldl addItem hours) d h = true ↔
      ActivePeriod.hourFound hours d h = true ∨ ∃ item ∈ items, Accepts item d h := by
  induction items generalizing hours with
  | nil => simp
  | cons item items ih =>
    obtain ⟨ho', hfound⟩ := hourFound_addItem (d := d) (h := h) ho item
    rw [List.foldl_cons, ih ho', hfound, or_assoc]
    simp

/-- A text between two commas. -/
theorem comma_cases {s : List Char} (hfront : s.head? = some ',') (hback : s.getLast? = some ',') :
    s = [','] ∨ ∃ body, s = ',' :: (body ++ [',']) := by
  cases s with
  | nil => exact absurd hfront (by simp)
  | cons c rest =>
    rw [List.head?_cons, Option.some.injEq] at hfront
    subst hfront
    rcases List.eq_nil_or_concat rest with rfl | ⟨body, last, rfl⟩
    · exact Or.inl rfl
    · rw [List.concat_eq_append, ← List.cons_append, List.getLast?_concat,
        Option.some.injEq] at hback
      exact Or.inr ⟨body, by rw [hback, List.concat_eq_append]⟩

/-- **The stored hours of a text between commas are those its items are accepted for.** -/
theorem hourFound_setActiveHours (p : ActivePeriod) {s : List Char} (hfront : s.head? = some ',')
    (hback : s.getLast? = some ',') :
    ActivePeriod.hourFound (p.setActiveHours s).activeHours d h = true ↔
      ∃ item ∈ s.splitOn ',', Accepts item d h := by
  have hne : ∀ item, Accepts item d h → item ≠ [] := by
    rintro item ⟨-, -, -, n, ⟨rest, rfl, -⟩, -⟩
    exact List.cons_ne_nil _ _
  have hguard : ¬ (s.head? ≠ some ',' ∨ s.getLast? ≠ some ',') := by simp [hfront, hback]
  unfold ActivePeriod.setActiveHours
  dsimp only
  rw [if_neg hguard, hourFound_items _ List.Pairwise.nil]
  rcases comma_cases hfront hback with rfl | ⟨body, rfl⟩
  · constructor
    · rintro (hnil | ⟨item, hitem, hacc⟩)
      · exact absurd hnil (by simp [ActivePeriod.hourFound])
      · exact absurd hitem (by simp [lines])
    · rintro ⟨item, hitem, hacc⟩
      have hnil : item = [] := by simpa [List.splitOn_cons_eq_if_modifyHead] using hitem
      exact absurd hnil (hne item hacc)
  · have hbody : ((',' :: (body ++ [','])).drop 1).take ((',' :: (body ++ [','])).length - 2) =
        body := by
      simp
    rw [hbody, or_iff_right (by simp [ActivePeriod.hourFound])]
    refine exists_congr fun item => and_congr_left fun hacc => ?_
    exact mem_lines (hne item hacc)

/-- An item whose number is no wrapped hour is accepted for that number alone. -/
theorem accepts_plain {s item : List Char} (hs : NoWrappedHour s) (hitem : item ∈ s.splitOn ',') :
    Accepts item d h ↔ 1 ≤ d ∧ d ≤ 7 ∧ h ≤ 23 ∧ Item item d h := by
  constructor
  · rintro ⟨h1, h7, h23, n, hn, hint, heq⟩
    refine ⟨h1, h7, h23, ?_⟩
    have hplain := hs item hitem d n h1 h7 hn
    have hhour : 0 ≤ n ∧ n ≤ 23 := by
      by_contra hout
      exact hplain ⟨hint, hout, by omega⟩
    have : (h : Int) = n := by
      rw [← heq]
      unfold toUChar
      omega
    rw [this]
    exact hn
  · rintro ⟨h1, h7, h23, hn⟩
    refine ⟨h1, h7, h23, h, hn, ?_, toUChar_of_lt (by omega)⟩
    unfold isInt
    omega

/-! ## The time of day -/

/-- The day of the week, Monday first, that ISO gives a day since the epoch, a Thursday. -/
def isoDay (days : Int) : Nat := ((days + 3) % 7).toNat + 1

theorem isoEncoding_weekday (days : Int) : isoEncoding (weekday days) = isoDay days := by
  unfold isoEncoding weekday isoDay
  split <;> omega

/-- The local time lies in the hour `h` of a day since the epoch. -/
def InHour (time days : Int) (h : Nat) : Prop :=
  h < 24 ∧ ∃ rest, 0 ≤ rest ∧ rest < 3600 * nanosPerSec ∧
    time = (days * 24 + h) * 3600 * nanosPerSec + rest

/-- Midnight and the hour as they are computed. -/
theorem InHour.fields {time days : Int} (ht : InHour time days h) :
    time / (secsPerDay * nanosPerSec) = days ∧
      toUChar ((days * secsPerDay - time / nanosPerSec).natAbs / 3600 : Nat) = h := by
  obtain ⟨hh, rest, h0, hlt, rfl⟩ := ht
  have hday :
      ((days * 24 + h) * 3600 * nanosPerSec + rest) / (secsPerDay * nanosPerSec) = days := by
    unfold nanosPerSec secsPerDay at *
    omega
  have hhour : (days * secsPerDay -
      ((days * 24 + h) * 3600 * nanosPerSec + rest) / nanosPerSec).natAbs / 3600 = h := by
    unfold nanosPerSec secsPerDay at *
    omega
  rw [hday, hhour]
  exact ⟨rfl, toUChar_of_lt (by omega)⟩

/-- No other restriction is set. -/
def ActivePeriod.OnlyHours (p : ActivePeriod) : Prop :=
  p.activeFromUtc = 0 ∧ p.activeToUtc = 0 ∧ p.astroConditions = []

/-- **With no other restriction the hours decide.** -/
theorem isNowActive_iff {p : ActivePeriod} (hp : p.OnlyHours) {place : Place} {now days : Int}
    (ht : InHour (now + place.offset now) days h) :
    p.isNowActive place now = true ↔
      p.activeHours = [] ∨ ActivePeriod.hourFound p.activeHours (isoDay days) h = true := by
  obtain ⟨hfrom, hto, hastro⟩ := hp
  obtain ⟨hday, hhour⟩ := ht.fields
  unfold ActivePeriod.isNowActive
  rw [if_neg (by simp [hfrom]), if_neg (by simp [hto])]
  dsimp only
  rw [hday, hhour, isoEncoding_weekday]
  by_cases hempty : p.activeHours = []
  · simp [hempty, hastro]
  · simp [hempty, hastro]

/-! ## The active hours -/

/-- The text as it is meant to be read: the digit of a day and an hour in decimal, nothing else. -/
def ReadExactly (p : ActivePeriod) (s : List Char) : Prop :=
  ∀ d h, ActivePeriod.hourFound (p.setActiveHours s).activeHours d h = true ↔
    1 ≤ d ∧ d ≤ 7 ∧ h ≤ 23 ∧ Nat.digitChar d :: Nat.toDigits 10 h ∈ s.splitOn ','

/-- **Active hours.** The hours stored of a text between commas are those that stand behind the
digit of a day in one of its items, as `stoi` reads them, and with no other restriction the period
is active in the stored hours, at any time where none is stored. -/
theorem activeHours_stored (p : ActivePeriod) {s : List Char} (hfront : s.head? = some ',')
    (hback : s.getLast? = some ',') :
    (NoWrappedHour s → ∀ d h,
      ActivePeriod.hourFound (p.setActiveHours s).activeHours d h = true ↔
        1 ≤ d ∧ d ≤ 7 ∧ h ≤ 23 ∧ ∃ item ∈ s.splitOn ',', Item item d h) ∧
    (p.OnlyHours → ∀ place now days h, InHour (now + place.offset now) days h →
      ((p.setActiveHours s).isNowActive place now = true ↔
        (p.setActiveHours s).activeHours = [] ∨
          ActivePeriod.hourFound (p.setActiveHours s).activeHours (isoDay days) h = true)) := by
  refine ⟨fun hplain d h => ?_, fun hp place now days h ht => ?_⟩
  · rw [hourFound_setActiveHours p hfront hback]
    constructor
    · rintro ⟨item, hitem, hacc⟩
      obtain ⟨h1, h7, h23, hn⟩ := (accepts_plain hplain hitem).mp hacc
      exact ⟨h1, h7, h23, item, hitem, hn⟩
    · rintro ⟨h1, h7, h23, item, hitem, hn⟩
      exact ⟨item, hitem, (accepts_plain hplain hitem).mpr ⟨h1, h7, h23, hn⟩⟩
  · exact isNowActive_iff (p := p.setActiveHours s) hp ht

def ActivePeriod.always : ActivePeriod := ⟨0, 0, [], []⟩

/-- Fridays from five to six in the afternoon. -/
def fridayAtFive : List Char := [',', '5', '1', '7', ',']

theorem fridayAtFive_plain : NoWrappedHour fridayAtFive := by
  rintro item hitem d n h1 h7 ⟨rest, rfl, hn⟩ ⟨-, hout, -⟩
  have hrest : Nat.digitChar d :: rest = ['5', '1', '7'] := by
    have hsplit : fridayAtFive.splitOn ',' = [[], ['5', '1', '7'], []] := by decide
    simpa [hsplit] using hitem
  rw [List.cons.injEq] at hrest
  have hscan := scan_eq_some.mpr hn
  rw [hrest.2, show scan ['1', '7'] = some 17 by decide, Option.some.injEq] at hscan
  omega

theorem activeHours_friday :
    ActivePeriod.hourFound (ActivePeriod.always.setActiveHours fridayAtFive).activeHours 5 17 =
      true ∧
    (ActivePeriod.always.setActiveHours fridayAtFive).isNowActive
      ⟨fun _ => 0, fun m _ => m, fun m _ => m⟩ 147600000000000 = true := by
  have h := activeHours_stored ActivePeriod.always (s := fridayAtFive) (by decide) (by decide)
  have hstored := (h.1 fridayAtFive_plain 5 17).mpr
    ⟨by decide, by decide, by decide, ['5', '1', '7'], by decide,
      ['1', '7'], rfl, scan_eq_some.mp (by decide)⟩
  exact ⟨hstored, (h.2 ⟨rfl, rfl, rfl⟩ _ _ 1 17
    ⟨by decide, 0, by decide, by decide, by decide⟩).mpr (Or.inr hstored)⟩

/-- What stands behind the hour is not seen. -/
theorem activeHours_not_exact :
    ¬ ∀ (p : ActivePeriod) (s : List Char), s.head? = some ',' → s.getLast? = some ',' →
      ReadExactly p s := by
  intro hall
  have h := (hall ActivePeriod.always [',', '1', '5', 'x', ','] (by decide) (by decide) 1 5).mp
    (by decide)
  exact absurd h.2.2.2 (by decide)

end Vbt
