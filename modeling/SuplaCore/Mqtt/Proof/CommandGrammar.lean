import SuplaCore.Mqtt.CommandGrammar

/-!
# The commands that are accepted

`str2int` reads a number as what it says, if it has digits and fits (`str2int_sound`), the parsers
do what the argument of a command means (`parsers_sound`), and `set_value` takes a topic apart in
the only way there is (`setValue_iff`, `TopicParts.text_inj`). So a command is accepted exactly
where topic and message mean it (`commands_accepted`).
-/

namespace Mqtt

/-! ## Numbers -/

theorem not_digit_iff (c : Char) : c < '0' ∨ '9' < c ↔ c.isDigit = false := by
  have hlow : c < '0' ↔ ¬ c.val ≥ '0'.val := UInt32.not_le.symm
  have hhigh : '9' < c ↔ ¬ c.val ≤ '9'.val := UInt32.not_le.symm
  rw [Char.isDigit, Bool.and_eq_false_iff, decide_eq_false_iff_not, decide_eq_false_iff_not, hlow,
    hhigh]

theorem wholePart_cons {c : Char} {cs : List Char} {a len : Nat} {dot : Bool} (ha : 0 < a) :
    wholePart (c :: cs) a dot len =
      if dot = false ∧ c = '.' then wholePart cs (a + 1) true a
      else if c.isDigit then wholePart cs (a + 1) dot len else none := by
  rw [wholePart, if_neg fun h => Nat.ne_of_gt ha h.1]
  by_cases hdot : dot = false ∧ c = '.'
  · rw [if_pos ⟨ha, hdot⟩, if_pos hdot]
  · rw [if_neg fun h => hdot h.2, if_neg hdot]
    cases hc : c.isDigit with
    | true =>
      rw [if_neg (by rw [not_digit_iff, hc]; nofun)]
      rfl
    | false =>
      rw [if_pos ((not_digit_iff c).mpr hc)]
      rfl

/-- After the dot. -/
theorem wholePart_dot (cs : List Char) {a : Nat} (ha : 0 < a) (len : Nat) :
    wholePart cs a true len = if cs.all Char.isDigit then some len else none := by
  induction cs generalizing a with
  | nil => rfl
  | cons c cs ih =>
    rw [wholePart_cons ha, if_neg fun h => Bool.noConfusion h.1, ih (Nat.succ_pos a),
      List.all_cons]
    cases c.isDigit <;> rfl

/-- Before the dot, after the first character. -/
theorem wholePart_digits (cs : List Char) {a : Nat} (ha : 0 < a) :
    wholePart cs a false (a + cs.length) =
      if isFraction (cs.dropWhile Char.isDigit) then
        some (a + (cs.takeWhile Char.isDigit).length)
      else none := by
  induction cs generalizing a with
  | nil => rfl
  | cons c cs ih =>
    rw [wholePart_cons ha, List.length_cons]
    by_cases hdot : c = '.'
    · subst hdot
      rw [if_pos ⟨rfl, rfl⟩, wholePart_dot cs (Nat.succ_pos a)]
      rfl
    · rw [if_neg fun h => hdot h.2]
      cases hc : c.isDigit with
      | false =>
        have hno : isFraction (c :: cs) = false := by
          unfold isFraction
          split
          · contradiction
          · rename_i heq
            cases heq
            exact absurd rfl hdot
          · rfl
        rw [List.dropWhile_cons_of_neg (by rw [hc]; nofun), hno]
        rfl
      | true =>
        have hih := @ih (a + 1) (Nat.succ_pos a)
        rw [Nat.add_right_comm, Nat.add_assoc a] at hih
        rw [if_pos rfl, hih, List.dropWhile_cons_of_pos hc, List.takeWhile_cons_of_pos hc,
          List.length_cons, Nat.add_right_comm, Nat.add_assoc a]

theorem take_takeWhile (p : Char → Bool) (l : List Char) :
    l.take (l.takeWhile p).length = l.takeWhile p :=
  (List.prefix_iff_eq_take.mp (List.takeWhile_prefix p)).symm

/-- `str2int` of a text with a minus. -/
theorem str2int_minus (b : List Char) : str2int ('-' :: b) =
    if isFraction (b.dropWhile Char.isDigit) then
      some (toInt (-sumDigits (b.takeWhile Char.isDigit) 0))
    else none := by
  have hwhole := @wholePart_digits b 1 Nat.one_pos
  rw [str2int, List.length_cons, wholePart, if_pos ⟨rfl, rfl⟩, Nat.zero_add, Nat.add_comm b.length,
    hwhole]
  cases isFraction (b.dropWhile Char.isDigit) with
  | false => rfl
  | true =>
    simp only [if_true, Option.map_some, List.head?_cons, Nat.add_comm 1, List.take_succ_cons,
      List.drop_one, List.tail_cons, take_takeWhile]

/-- `str2int` of another text. -/
theorem str2int_plain {c : Char} (hc : c ≠ '-') (b : List Char) : str2int (c :: b) =
    if c.isDigit ∧ isFraction (b.dropWhile Char.isDigit) then
      some (sumDigits ((c :: b).takeWhile Char.isDigit) 0)
    else none := by
  have hwhole := @wholePart_digits b 1 Nat.one_pos
  have hhead : (c :: b).head? ≠ some '-' := fun h => hc (Option.some.inj h)
  rw [str2int, List.length_cons, wholePart, if_neg fun h => hc h.2,
    if_neg fun h => Nat.lt_irrefl 0 h.1, Nat.zero_add, Nat.add_comm b.length, hwhole]
  cases hdigit : c.isDigit with
  | false =>
    rw [if_pos ((not_digit_iff c).mpr hdigit), if_neg fun h => Bool.noConfusion h.1]
    rfl
  | true =>
    rw [if_neg fun h => Bool.noConfusion (hdigit.symm.trans ((not_digit_iff c).mp h))]
    cases isFraction (b.dropWhile Char.isDigit) with
    | false => rfl
    | true =>
      simp only [if_true, and_self, Option.map_some, if_neg hhead, Nat.add_comm 1,
        List.take_succ_cons, List.takeWhile_cons_of_pos hdigit, take_takeWhile]

/-! ### The values -/

theorem value_cons (c : Char) (cs : List Char) :
    Scan.value (c :: cs) = (c.toNat - 48) * 10 ^ cs.length + Scan.value cs := by
  have hfold (l : List Char) (v : Nat) :
      l.foldl (fun v c => v * 10 + (c.toNat - '0'.toNat)) v =
        v * 10 ^ l.length + Scan.value l := by
    induction l generalizing v with
    | nil => exact (Nat.mul_one v).symm
    | cons d l ih =>
      have hvalue : Scan.value (d :: l) =
          l.foldl (fun v c => v * 10 + (c.toNat - '0'.toNat)) (0 * 10 + (d.toNat - '0'.toNat)) :=
        rfl
      rw [List.foldl_cons, hvalue, ih, ih, List.length_cons, Nat.pow_succ]
      ring
  show cs.foldl _ (0 * 10 + (c.toNat - 48)) = _
  rw [hfold, Nat.zero_mul, Nat.zero_add]

theorem digit_range {c : Char} (hc : c.isDigit = true) : 48 ≤ c.toNat ∧ c.toNat ≤ 57 := by
  rw [Char.isDigit, Bool.and_eq_true, decide_eq_true_eq, decide_eq_true_eq] at hc
  exact hc

/-- **The digits are summed up** to their value where an `int` can hold it. -/
theorem sumDigits_eq {w : List Char} (hw : ∀ c ∈ w, c.isDigit = true) (hlength : w.length ≤ 309)
    {r : Int} (hr : 0 ≤ r) (hfits : r + Scan.value w < 2 ^ 31) :
    sumDigits w r = r + Scan.value w := by
  induction w generalizing r with
  | nil => exact (Int.add_zero r).symm
  | cons c cs ih =>
    obtain ⟨hdigit, hcs⟩ := List.forall_mem_cons.mp hw
    obtain ⟨hlow, -⟩ := digit_range hdigit
    rw [List.length_cons] at hlength
    have hcast : ((c.toNat : Int) - 48) * 10 ^ cs.length =
        (((c.toNat - 48) * 10 ^ cs.length : Nat) : Int) := by
      rw [Nat.cast_mul, Nat.cast_sub hlow, Nat.cast_pow]
      rfl
    rw [value_cons, Nat.cast_add] at hfits ⊢
    have hadd : addDigit r (c.toNat - 48) cs.length =
        r + (((c.toNat - 48) * 10 ^ cs.length : Nat) : Int) := by
      rw [addDigit, if_neg (by omega), hcast, toInt, intMin, if_pos (by omega)]
    rw [sumDigits, hadd, ih hcs (by omega) (by omega) (by omega), Int.add_assoc]

/-- A text that `str2int` takes for a number is one, and fits. -/
def Sound (t : List Char) : Prop :=
  isFraction (afterDigits t) = true → (wholeDigits t ≠ [] ∨ t.head? = some '.') ∧
    (wholeDigits t).length ≤ 309 ∧ Scan.value (wholeDigits t) < 2 ^ 31

instance (t : List Char) : Decidable (Sound t) := inferInstanceAs (Decidable (_ → _))

theorem wholeDigits_isDigit (t : List Char) : ∀ c ∈ wholeDigits t, c.isDigit = true :=
  fun c h => List.all_eq_true.mp List.all_takeWhile c h

/-- **A number is read as what it says.** -/
theorem str2int_sound {t : List Char} (h : Sound t) : str2int t = number t := by
  have hdigits := wholeDigits_isDigit t
  rw [Sound] at h
  rw [number]
  cases t with
  | nil => exact absurd (h rfl).1 (by decide)
  | cons c b =>
    by_cases hc : c = '-'
    · subst hc
      rw [str2int_minus]
      show (if isFraction (afterDigits ('-' :: b)) = true then
        some (toInt (-sumDigits (wholeDigits ('-' :: b)) 0)) else none) = _
      cases hfraction : isFraction (afterDigits ('-' :: b)) with
      | false => rw [if_neg nofun, if_neg fun h => Bool.noConfusion h.2]
      | true =>
        obtain ⟨hne, hlength, hfits⟩ := h hfraction
        have hne := hne.resolve_right (by rw [List.head?_cons]; decide)
        rw [if_pos rfl, if_pos ⟨hne, rfl⟩, List.head?_cons, if_pos rfl,
          sumDigits_eq hdigits hlength (Int.le_refl 0) (by omega), Int.zero_add, toInt, intMin,
          if_pos (by omega)]
    · have hmagnitude : magnitude (c :: b) = c :: b := by
        unfold magnitude
        split
        · rename_i heq
          cases heq
          exact absurd rfl hc
        · rfl
      have hhead : (c :: b).head? ≠ some '-' := fun h => hc (Option.some.inj h)
      rw [str2int_plain hc, if_neg hhead]
      have hwhole : wholeDigits (c :: b) = (c :: b).takeWhile Char.isDigit := by
        rw [wholeDigits, hmagnitude]
      have hafter : afterDigits (c :: b) = (c :: b).dropWhile Char.isDigit := by
        rw [afterDigits, hmagnitude]
      rw [← hwhole]
      cases hdigit : c.isDigit with
      | false =>
        have hnone : wholeDigits (c :: b) = [] := by
          rw [hwhole, List.takeWhile_cons_of_neg (by rw [hdigit]; nofun)]
        rw [if_neg fun h => Bool.noConfusion h.1, if_neg fun h => h.1 hnone]
      | true =>
        have hsome : wholeDigits (c :: b) ≠ [] := by
          rw [hwhole, List.takeWhile_cons_of_pos hdigit]
          exact List.cons_ne_nil _ _
        have hrest : afterDigits (c :: b) = b.dropWhile Char.isDigit := by
          rw [hafter, List.dropWhile_cons_of_pos hdigit]
        rw [← hrest]
        cases hfraction : isFraction (afterDigits (c :: b)) with
        | false => rw [if_neg fun h => Bool.noConfusion h.2, if_neg fun h => Bool.noConfusion h.2]
        | true =>
          obtain ⟨-, hlength, hfits⟩ := h hfraction
          rw [if_pos ⟨rfl, rfl⟩, if_pos ⟨hsome, rfl⟩,
            sumDigits_eq hdigits hlength (Int.le_refl 0) (by omega), Int.zero_add]

/-! ## Words -/

theorem lcEqual_iff (m : List Char) (str : String) : lcEqual m str = true ↔
    ∀ c a, m[a]? = some c → (str.toList.getD a '\x00').toLower = c.toLower := by
  rw [lcEqual, List.all_eq_true]
  constructor
  · intro h c a hca
    exact of_decide_eq_true (h (c, a) (List.mem_zipIdx_iff_getElem?.mpr hca))
  · rintro h ⟨c, a⟩ hca
    exact decide_eq_true (h c a (List.mem_zipIdx_iff_getElem?.mp hca))

/-- A word is recognised in letters of either case. -/
theorem isWord_iff (m : List Char) (str : String) :
    isWord m str = true ↔ m.map Char.toLower = str.toList.map Char.toLower := by
  rw [isWord, Bool.and_eq_true, decide_eq_true_eq, lcEqual_iff]
  constructor
  · rintro ⟨hlength, hequal⟩
    apply List.ext_getElem?
    intro a
    rw [List.getElem?_map, List.getElem?_map]
    cases hm : m[a]? with
    | none =>
      rw [List.getElem?_eq_none_iff] at hm
      rw [List.getElem?_eq_none_iff.mpr (hlength ▸ hm)]
    | some c =>
      obtain ⟨ha, -⟩ := List.getElem?_eq_some_iff.mp hm
      have hc := hequal c a hm
      rw [List.getD_eq_getElem?_getD, List.getElem?_eq_getElem (hlength ▸ ha), Option.getD_some]
        at hc
      rw [List.getElem?_eq_getElem (hlength ▸ ha), Option.map_some, Option.map_some, hc]
  · intro hequal
    have hlength : m.length = str.toList.length := by
      have h := congrArg List.length hequal
      rw [List.length_map, List.length_map] at h
      exact h
    refine ⟨hlength, fun c a hm => ?_⟩
    obtain ⟨ha, -⟩ := List.getElem?_eq_some_iff.mp hm
    have h : (m.map Char.toLower)[a]? = (str.toList.map Char.toLower)[a]? := by rw [hequal]
    rw [List.getElem?_map, List.getElem?_map, hm, List.getElem?_eq_getElem (hlength ▸ ha),
      Option.map_some, Option.map_some, Option.some.injEq] at h
    rw [List.getD_eq_getElem?_getD, List.getElem?_eq_getElem (hlength ▸ ha), Option.getD_some, h]

/-- A table of words in small letters. -/
def LowerCase {α : Type} (words : List (String × α)) : Prop :=
  ∀ w ∈ words, w.1.toList.map Char.toLower = w.1.toList

theorem lowerCase_actionWords : LowerCase actionWords := by
  unfold LowerCase
  decide

theorem find?_isWord {α : Type} {words : List (String × α)} (hlower : LowerCase words)
    (m : List Char) : ((words.find? fun w => isWord m w.1).map (·.2)) = lookup words m := by
  induction words with
  | nil => rfl
  | cons w words ih =>
    obtain ⟨hw, hlower⟩ := List.forall_mem_cons.mp hlower
    have hword := isWord_iff m w.1
    rw [hw] at hword
    rw [lookup, List.find?_cons, List.find?_cons]
    by_cases hequal : m.map Char.toLower = w.1.toList
    · rw [hword.mpr hequal, decide_eq_true hequal]
    · rw [Bool.eq_false_iff.mpr fun h => hequal (hword.mp h), decide_eq_false hequal]
      exact ih hlower

theorem lookup_cons {α : Type} (w : String) (a : α) (words : List (String × α)) (m : List Char) :
    lookup ((w, a) :: words) m =
      if m.map Char.toLower = w.toList then some a else lookup words m := by
  rw [lookup, List.find?_cons]
  split
  · rename_i h
    rw [if_pos (of_decide_eq_true h)]
    rfl
  · rename_i h
    rw [if_neg (of_decide_eq_false h)]
    rfl

/-- A capital letter becomes a letter. -/
theorem toLower_cases (c : Char) : c.toLower = c ∨ 97 ≤ c.toLower.toNat := by
  delta Char.toLower
  split
  · rename_i h
    obtain ⟨hlow, hhigh⟩ := h
    refine .inr ?_
    have hlow : 65 ≤ c.val.toNat := hlow
    have hhigh : c.val.toNat ≤ 90 := hhigh
    show 97 ≤ (c.val + 32).toNat
    rw [UInt32.toNat_add, Nat.mod_eq_of_lt (by show c.val.toNat + 32 < 2 ^ 32; omega)]
    show 97 ≤ c.val.toNat + 32
    omega
  · exact .inl rfl

theorem toLower_digit {c d : Char} (hd : d.isDigit = true) : c.toLower = d ↔ c = d := by
  have hrange (e : Char) (he : e.isDigit = true) : e.toLower = e := by
    delta Char.toLower
    rw [dif_neg]
    rintro ⟨hlow, -⟩
    have hlow : 65 ≤ e.toNat := hlow
    have hdigit := (digit_range he).2
    omega
  constructor
  · intro h
    obtain hsame | hletter := toLower_cases c
    · exact hsame.symm.trans h
    · have hdigit := (digit_range hd).2
      rw [h] at hletter
      omega
  · rintro rfl
    exact hrange c hd

theorem singleton_digit {d : Char} (hd : d.isDigit = true) (m : List Char) :
    m.map Char.toLower = [d] ↔ m = [d] := by
  constructor
  · intro h
    obtain ⟨c, rfl, hc⟩ := List.map_eq_singleton_iff.mp h
    rw [(toLower_digit hd).mp hc]
  · rintro rfl
    rw [List.map_singleton, (toLower_digit hd).mpr rfl]

/-- The words of `parse_on`. -/
theorem parseOn_eq (m : List Char) :
    (if m = ['1'] ∨ isWord m "yes" ∨ isWord m "true" then some (ValueCallback.setOn true)
      else if m = ['0'] ∨ isWord m "no" ∨ isWord m "false" then some (.setOn false)
      else none) = (lookup boolWords m).map .setOn := by
  have hone := singleton_digit (d := '1') (by decide) m
  have hzero := singleton_digit (d := '0') (by decide) m
  simp only [isWord_iff, ← hone, ← hzero]
  rw [boolWords, lookup_cons, lookup_cons, lookup_cons, lookup_cons, lookup_cons, lookup_cons]
  simp only [show "yes".toList.map Char.toLower = "yes".toList by decide,
    show "true".toList.map Char.toLower = "true".toList by decide,
    show "no".toList.map Char.toLower = "no".toList by decide,
    show "false".toList.map Char.toLower = "false".toList by decide,
    show "1".toList = ['1'] by decide, show "0".toList = ['0'] by decide]
  split
  · rename_i h
    obtain h | h | h := h
    · rw [if_pos h]
      rfl
    · rw [h]
      rfl
    · rw [h]
      rfl
  · rename_i hno
    simp only [not_or] at hno
    obtain ⟨h₁, h₂, h₃⟩ := hno
    rw [if_neg h₁, if_neg h₂, if_neg h₃]
    split
    · rename_i h
      obtain h | h | h := h
      · rw [if_pos h]
        rfl
      · rw [h]
        rfl
      · rw [h]
        rfl
    · rename_i hno
      simp only [not_or] at hno
      obtain ⟨h₁, h₂, h₃⟩ := hno
      rw [if_neg h₁, if_neg h₂, if_neg h₃]
      rfl

/-! ## Colors -/

/-- `#` and `0x` with six digits. -/
theorem hexColor_eq (m : List Char) :
    (if colorOffset m ≠ 0 ∧ m.length - colorOffset m = 6 then hex2int (m.drop (colorOffset m))
      else none) = hexColor m := by
  have hdigits (digits : List Char) (hne : digits ≠ []) :
      (if digits.length = 6 then hex2int digits else none) = sixHexDigits digits := by
    rw [sixHexDigits]
    split
    · rename_i hsix
      rw [hex2int, if_neg (by omega)]
    · rfl
  have hoffset (n : Nat) (front digits : List Char) (hfront : front.length = n + 1)
      (hne : digits ≠ []) :
      (if n + 1 ≠ 0 ∧ (front ++ digits).length - (n + 1) = 6 then
        hex2int ((front ++ digits).drop (n + 1)) else none) = sixHexDigits digits := by
    rw [← hdigits digits hne, List.drop_left' hfront, List.length_append, hfront,
      Nat.add_sub_cancel_left]
    simp only [ne_eq, Nat.succ_ne_zero, not_false_eq_true, true_and]
  unfold colorOffset
  split
  · exact hoffset 0 ['#'] _ rfl (List.cons_ne_nil _ _)
  · exact hoffset 1 ['0', 'x'] _ rfl (List.cons_ne_nil _ _)
  · exact hoffset 1 ['0', 'X'] _ rfl (List.cons_ne_nil _ _)
  · rename_i hhash hx hX
    rw [if_neg fun h => h.1 rfl]
    unfold hexColor
    split
    · rename_i digits
      cases digits with
      | nil => rfl
      | cons c rest => exact absurd rfl (hhash c rest)
    · rename_i digits
      cases digits with
      | nil => rfl
      | cons c rest => exact absurd rfl (hx c rest)
    · rename_i digits
      cases digits with
      | nil => rfl
      | cons c rest => exact absurd rfl (hX c rest)
    · rfl

/-- The first separator of a text. -/
theorem findIdx_cut {sep : Char} {x : List Char} (hx : sep ∉ x) (y : List Char) :
    (x ++ sep :: y).findIdx (· = sep) = x.length := by
  induction x with
  | nil => rw [List.nil_append, List.findIdx_cons, decide_eq_true rfl, cond_true, List.length_nil]
  | cons c x ih =>
    rw [List.mem_cons, not_or] at hx
    rw [List.cons_append, List.findIdx_cons, decide_eq_false (Ne.symm hx.1), cond_false, ih hx.2,
      List.length_cons]

/-- Three texts between two commas. -/
theorem components_eq (m : List Char) : components m =
    if m.count ',' = 2 then
      let rest := m.drop (m.findIdx (· = ',') + 1)
      some (m.take (m.findIdx (· = ',')), rest.take (rest.findIdx (· = ',')),
        rest.drop (rest.findIdx (· = ',') + 1))
    else none := by
  by_cases hm : ',' ∈ m
  · obtain ⟨a, r, rfl, ha⟩ := List.eq_append_cons_of_mem hm
    have hcount : (a ++ ',' :: r).count ',' = r.count ',' + 1 := by
      rw [List.count_append, List.count_cons_self, List.count_eq_zero.mpr ha, Nat.zero_add]
    have hdrop : (a ++ ',' :: r).drop (a.length + 1) = r := by
      rw [List.drop_length_add_append, List.drop_one, List.tail_cons]
    rw [components, List.splitOn_append_cons_self_of_not_mem ha, hcount, findIdx_cut ha, hdrop,
      List.take_left' rfl]
    dsimp only
    by_cases hr : ',' ∈ r
    · obtain ⟨b, c, rfl, hb⟩ := List.eq_append_cons_of_mem hr
      have hcount : (b ++ ',' :: c).count ',' = c.count ',' + 1 := by
        rw [List.count_append, List.count_cons_self, List.count_eq_zero.mpr hb, Nat.zero_add]
      have hdrop : (b ++ ',' :: c).drop (b.length + 1) = c := by
        rw [List.drop_length_add_append, List.drop_one, List.tail_cons]
      rw [List.splitOn_append_cons_self_of_not_mem hb, hcount, findIdx_cut hb, hdrop,
        List.take_left' rfl]
      by_cases hc : ',' ∈ c
      · obtain ⟨d, e, rfl, hd⟩ := List.eq_append_cons_of_mem hc
        have hpos : 0 < (d ++ ',' :: e).count ',' := List.count_pos_iff.mpr hc
        rw [List.splitOn_append_cons_self_of_not_mem hd, if_neg (by omega)]
        cases hsplit : e.splitOn ',' with
        | nil => exact absurd hsplit (List.splitOn_ne_nil ',' e)
        | cons f rest => rfl
      · rw [List.splitOn_eq_singleton hc, List.count_eq_zero.mpr hc, if_pos rfl]
    · rw [List.splitOn_eq_singleton hr, List.count_eq_zero.mpr hr, if_neg (by decide)]
  · rw [components, List.splitOn_eq_singleton hm, List.count_eq_zero.mpr hm, if_neg (by decide)]

/-- The components of a color are numbers that fit, and where all three are, they are in 0..255. -/
def RgbSound (m : List Char) : Prop :=
  m.length ≤ 11 → ∀ a b c, components m = some (a, b, c) → (Sound a ∧ Sound b ∧ Sound c) ∧
    ∀ x y z, number a = some x → number b = some y → number c = some z →
      (0 ≤ x ∧ x ≤ 255) ∧ (0 ≤ y ∧ y ≤ 255) ∧ 0 ≤ z ∧ z ≤ 255

theorem colorByte_eq {n : Int} (h : 0 ≤ n ∧ n ≤ 255) : colorByte n = n.toNat := by
  rw [colorByte, Int.emod_eq_of_lt h.1 (by omega)]

/-- **A color** is read as what it says. -/
theorem parseRgb_sound {m : List Char} (h : RgbSound m) : parseRgb m = Reading.ofCode.rgb m := by
  have hcomponents := components_eq m
  show parseRgb m = if m.length ≤ 11 then rgb number m else none
  rw [parseRgb]
  by_cases hlength : m.length ≤ 11
  · rw [if_pos hlength]
    by_cases hcount : m.count ',' = 2
    · rw [if_pos hcount] at hcomponents
      rw [if_pos ⟨hlength, hcount⟩]
      obtain ⟨⟨ha, hb, hc⟩, hrange⟩ := h hlength _ _ _ hcomponents
      rw [rgb, hcomponents]
      simp only [str2int_sound ha, str2int_sound hb, str2int_sound hc, Option.bind_eq_bind,
        Option.bind_some]
      generalize number (m.take _) = x at hrange ⊢
      generalize number ((m.drop _).take _) = y at hrange ⊢
      generalize number ((m.drop _).drop _) = z at hrange ⊢
      cases x with
      | none => rfl
      | some x =>
        cases y with
        | none => simp only [Option.filter_none, Option.bind_none, Option.bind_fun_none]
        | some y =>
          cases z with
          | none =>
            simp only [Option.filter_none, Option.bind_none, Option.bind_fun_none]
          | some z =>
            obtain ⟨hx, hy, hz⟩ := hrange x y z rfl rfl rfl
            rw [Option.filter_some, if_pos (decide_eq_true hx), Option.filter_some,
              if_pos (decide_eq_true hy), Option.filter_some, if_pos (decide_eq_true hz)]
            show some (colorByte x * 65536 + colorByte y * 256 + colorByte z) = _
            rw [colorByte_eq hx, colorByte_eq hy, colorByte_eq hz]
            rfl
    · rw [if_neg hcount] at hcomponents
      rw [if_neg fun h => hcount h.2, rgb, hcomponents]
      rfl
  · rw [if_neg hlength, if_neg fun h => hlength h.1]

/-! ## Arguments -/

/-- The commands with a percentage. -/
def percentageCommands : List (List Char) :=
  ["set/tilt".toList, "set/closing_percentage".toList, "set/opening_percentage".toList,
    "set/color_brightness".toList, "set/brightness".toList]

/-- The numbers of an argument fit. -/
structure ArgSound (command m : List Char) : Prop where
  percentage : command ∈ percentageCommands → Sound m
  color : command = "set/color".toList → RgbSound m

/-- The parsers, in the order in which they are tried. -/
def parsers (setpoint : List Char → Option Int) (command m : List Char) : Parsed :=
  (parseOn command m).or <| (parsePercentage command m).or <| (parseAction command m).or <|
    (parseBrightness command m).or <| (parseColor command m).or <|
    parseTemperature setpoint command m

theorem percent_sound {m : List Char} (h : Sound m) : percent m = Reading.ofCode.percentage m := by
  rw [percent, str2int_sound h]
  rfl

theorem parseColor_sound {m : List Char} (h : RgbSound m) :
    parseColor "set/color".toList m =
      some (((hexColor m).or (Reading.ofCode.rgb m)).map .setColor) := by
  rw [parseColor, if_pos rfl, ← parseRgb_sound h, ← hexColor_eq m]
  dsimp only
  cases (if colorOffset m ≠ 0 ∧ m.length - colorOffset m = 6 then
    hex2int (m.drop (colorOffset m)) else none) with
  | none => rfl
  | some color => rfl

/-- **The parsers** do what the argument means, or the command is one with a temperature, or
none. -/
theorem parsers_sound (setpoint : List Char → Option Int) {command m : List Char}
    (h : ArgSound command m) :
    parsers setpoint command m = some (Reading.ofCode.argument command m) ∨
      parsers setpoint command m = parseTemperature setpoint command m ∧
        Reading.ofCode.argument command m = none := by
  have hpercent (hmem : command ∈ percentageCommands) := percent_sound (h.percentage hmem)
  rw [parsers, parseOn, parsePercentage, parseAction, parseBrightness, Reading.argument]
  by_cases hon : command = "set/on".toList
  · rw [if_pos hon, if_pos hon, parseOn_eq]
    exact .inl rfl
  rw [if_neg hon, if_neg hon, Option.none_or]
  by_cases htilt : command = "set/tilt".toList
  · rw [if_pos htilt, if_pos htilt, hpercent (by rw [htilt]; decide)]
    exact .inl rfl
  rw [if_neg htilt, if_neg htilt]
  by_cases hclosing : command = "set/closing_percentage".toList
  · rw [if_pos hclosing, if_pos hclosing, hpercent (by rw [hclosing]; decide)]
    exact .inl rfl
  rw [if_neg hclosing, if_neg hclosing]
  by_cases hopening : command = "set/opening_percentage".toList
  · rw [if_pos hopening, if_pos hopening, hpercent (by rw [hopening]; decide)]
    exact .inl rfl
  rw [if_neg hopening, if_neg hopening, Option.none_or]
  by_cases haction : command = "execute_action".toList
  · rw [if_pos haction, if_pos haction, find?_isWord lowerCase_actionWords]
    exact .inl rfl
  rw [if_neg haction, if_neg haction, Option.none_or]
  by_cases hcolorBrightness : command = "set/color_brightness".toList
  · rw [if_pos hcolorBrightness, if_pos hcolorBrightness,
      hpercent (by rw [hcolorBrightness]; decide)]
    exact .inl rfl
  rw [if_neg hcolorBrightness, if_neg hcolorBrightness]
  by_cases hbrightness : command = "set/brightness".toList
  · rw [if_pos hbrightness, if_pos hbrightness, hpercent (by rw [hbrightness]; decide)]
    exact .inl rfl
  rw [if_neg hbrightness, if_neg hbrightness, Option.none_or]
  by_cases hcolor : command = "set/color".toList
  · rw [if_pos hcolor, hcolor, parseColor_sound (h.color hcolor)]
    exact .inl rfl
  · rw [if_neg hcolor, parseColor, if_neg hcolor, Option.none_or]
    exact .inr ⟨rfl, rfl⟩

/-- A request to refresh, or a temperature. -/
def ValueCallback.IsOther : ValueCallback → Prop
  | refreshAllExisting | actionHvacSetTemperature _ | actionHvacSetTemperatures _ _ => True
  | _ => False

theorem parseTemperature_other {setpoint : List Char → Option Int} {command m : List Char}
    {callback : ValueCallback} (h : parseTemperature setpoint command m = some (some callback)) :
    callback.IsOther := by
  rw [parseTemperature] at h
  split at h
  · obtain ⟨t, -, heq⟩ := Option.map_eq_some_iff.mp h
    cases heq
    trivial
  · split at h
    · obtain ⟨t, -, heq⟩ := Option.map_eq_some_iff.mp h
      cases heq
      trivial
    · split at h
      · obtain ⟨t, -, heq⟩ := Option.map_eq_some_iff.mp h
        cases heq
        trivial
      · cases h

theorem parsers_iff {setpoint : List Char → Option Int} {command m : List Char}
    (h : ArgSound command m) {callback : ValueCallback} (hother : ¬ callback.IsOther) :
    parsers setpoint command m = some (some callback) ↔
      Reading.ofCode.argument command m = some callback := by
  obtain heq | ⟨heq, hnone⟩ := parsers_sound setpoint h
  · rw [heq, Option.some.injEq]
  · rw [heq, hnone]
    exact iff_of_false (fun htemperature => hother (parseTemperature_other htemperature)) nofun

/-! ## Topics -/

theorem findIdx?_cut {sep : Char} {x : List Char} (hx : sep ∉ x) (y : List Char) :
    (x ++ sep :: y).findIdx? (· = sep) = some x.length := by
  rw [List.findIdx?_eq_some_of_exists ⟨sep, List.mem_append_right _ List.mem_cons_self,
    decide_eq_true rfl⟩, findIdx_cut hx]

theorem findIdx?_some {sep : Char} {l : List Char} {a : Nat}
    (h : l.findIdx? (· = sep) = some a) :
    ∃ x y, l = x ++ sep :: y ∧ sep ∉ x ∧ a = x.length := by
  by_cases hmem : sep ∈ l
  · obtain ⟨x, y, rfl, hx⟩ := List.eq_append_cons_of_mem hmem
    rw [findIdx?_cut hx] at h
    exact ⟨x, y, rfl, hx, (Option.some.inj h).symm⟩
  · have hnone : ∀ c ∈ l, decide (c = sep) = false :=
      fun c hc => decide_eq_false fun heq : c = sep => hmem (heq ▸ hc)
    rw [List.findIdx?_eq_none_iff.mpr hnone] at h
    cases h

open TopicParts in
theorem suidEnd_iff {t : List Char} {a : Nat} : suidEnd t = some a ↔
    ∃ suid rest, t = suid ++ '/' :: rest ∧ IsPart suid ∧ rest ≠ [] ∧ a = suid.length := by
  rw [suidEnd]
  constructor
  · intro h
    split at h
    · cases h
    · rename_i b hb
      obtain ⟨x, y, rfl, hx, rfl⟩ := findIdx?_some hb
      split at h
      · cases h
      · rename_i hno
        simp only [not_or] at hno
        cases h
        refine ⟨x, y, rfl, ⟨fun hnil => hno.1 (by rw [hnil]; rfl), hx⟩, ?_, rfl⟩
        rintro rfl
        exact hno.2 (by rw [List.length_append, List.length_singleton])
  · rintro ⟨x, y, rfl, ⟨hne, hx⟩, hy, rfl⟩
    rw [findIdx?_cut hx]
    dsimp only
    have hpos := List.length_pos_iff.mpr hne
    have hpos' := List.length_pos_iff.mpr hy
    rw [if_neg]
    rw [List.length_append, List.length_cons]
    omega

theorem take_prefix_iff (front t : List Char) :
    t.take front.length = front ↔ ∃ rest, t = front ++ rest := by
  constructor
  · intro h
    have hsplit := List.take_append_drop front.length t
    rw [h] at hsplit
    exact ⟨t.drop front.length, hsplit.symm⟩
  · rintro ⟨rest, rfl⟩
    exact List.take_left' rfl

open TopicParts in
theorem parseIntWithPrefix_iff {str : String} {t rest : List Char} {n : Int} :
    parseIntWithPrefix str t = some (n, rest) ↔
      ∃ d, IsPart d ∧ t = str.toList ++ (d ++ '/' :: rest) ∧ str2int d = some n := by
  rw [parseIntWithPrefix]
  constructor
  · intro h
    split at h
    · rename_i htake
      obtain ⟨u, rfl⟩ := (take_prefix_iff _ _).mp htake
      rw [List.drop_left' rfl] at h
      obtain ⟨a, ha, h⟩ := Option.bind_eq_some_iff.mp h
      obtain ⟨x, y, rfl, hx, rfl⟩ := findIdx?_some ha
      split at h
      · cases h
      · rename_i hne
        obtain ⟨v, hv, h⟩ := Option.bind_eq_some_iff.mp h
        rw [List.take_left' rfl] at hv
        rw [List.drop_length_add_append, List.drop_one, List.tail_cons] at h
        cases h
        exact ⟨x, ⟨fun hnil => hne (by rw [hnil]; rfl), hx⟩, rfl, hv⟩
    · cases h
  · rintro ⟨d, ⟨hne, hd⟩, rfl, hn⟩
    rw [if_pos (List.take_left' rfl), List.drop_left' rfl]
    simp only [findIdx?_cut hd, Option.bind_eq_bind, Option.bind_some]
    rw [if_neg (List.length_pos_iff.mpr hne).ne', List.take_left' rfl, hn,
      List.drop_length_add_append, List.drop_one, List.tail_cons]
    rfl

theorem afterPrefix_iff {topicPrefix topic t : List Char} :
    afterPrefix topicPrefix topic = some t ↔ topic = prefixed (topicPrefix.take 512) t := by
  rw [afterPrefix, prefixed]
  by_cases hnil : topicPrefix.take 512 = []
  · rw [if_pos hnil, if_pos hnil, Option.some.injEq]
  · rw [if_neg hnil, if_neg hnil]
    generalize topicPrefix.take 512 = front
    constructor
    · intro h
      split at h
      · cases h
      · split at h
        · cases h
        · rename_i htake
          obtain ⟨u, rfl⟩ := (take_prefix_iff _ _).mp (not_not.mp htake)
          rw [List.drop_left' rfl] at h
          split at h
          · cases h
            rfl
          · cases h
    · rintro rfl
      rw [if_neg (by rw [List.length_append, List.length_cons]; omega),
        if_neg (not_not.mpr (List.take_left' rfl)), List.drop_left' rfl]
      rfl

theorem prefixed_ne_nil {topicPrefix t : List Char} (ht : t ≠ []) :
    prefixed topicPrefix t ≠ [] := by
  rw [prefixed]
  split
  · exact ht
  · exact List.append_ne_nil_of_right_ne_nil _ (List.cons_ne_nil _ _)

theorem afterSupla_iff {topic t : List Char} :
    afterSupla topic = some t ↔ topic = "supla/".toList ++ t := by
  rw [afterSupla]
  constructor
  · intro h
    split at h
    · rename_i htake
      obtain ⟨u, rfl⟩ := (take_prefix_iff "supla/".toList topic).mp htake
      cases h
      rfl
    · cases h
  · rintro rfl
    have hlength : "supla/".toList.length = 6 := by decide
    rw [if_pos (List.take_left' hlength), List.drop_left' hlength]

/-! ## Commands -/

namespace ValueSetter

variable {topicPrefix topic message : List Char} {setpoint : List Char → Option Int}

/-- The callback of the parsers. -/
theorem parse_iff (s : ValueSetter) (cmd : Command) : (s.parse setpoint).2 = some cmd ↔
    parsers setpoint s.topicName s.message = some (some cmd.callback) ∧ cmd.suid = s.getSuid ∧
      s.deviceId = cmd.deviceId ∧ s.channelId = cmd.channelId := by
  show (match parsers setpoint s.topicName s.message with
    | some (some callback) => s.call callback
    | some none => (s, none)
    | none => (s.suidFree, none)).2 = some cmd ↔ _
  cases parsers setpoint s.topicName s.message with
  | none => exact iff_of_false nofun nofun
  | some callback =>
    cases callback with
    | none => exact iff_of_false nofun nofun
    | some callback =>
      obtain ⟨callback', suid, deviceId, channelId⟩ := cmd
      show some (Command.mk callback s.getSuid s.deviceId s.channelId) = some _ ↔ _
      rw [Option.some.injEq, Option.some.injEq, Option.some.injEq, Command.mk.injEq]
      exact and_congr_right fun _ => and_congr_left' eq_comm

open TopicParts in
/-- The rest of a topic, from the device on. -/
theorem parseChannel_iff (s : ValueSetter) (t : List Char) (cmd : Command) :
    (s.parseChannel setpoint t message).2 = some cmd ↔
      ∃ device channel command, IsPart device ∧ IsPart channel ∧
        t = "devices/".toList ++ (device ++ '/' :: ("channels/".toList ++
          (channel ++ '/' :: command))) ∧
        cmd.suid = s.getSuid ∧ (str2int device = some cmd.deviceId ∧ cmd.deviceId ≠ 0) ∧
        (str2int channel = some cmd.channelId ∧ cmd.channelId ≠ 0) ∧
        parsers setpoint command message = some (some cmd.callback) := by
  rw [parseChannel]
  constructor
  · intro h
    split at h
    · cases h
    · rename_i deviceId t₁ hparsed
      obtain ⟨device, hpart, rfl, hdevice⟩ := parseIntWithPrefix_iff.mp hparsed
      split at h
      · cases h
      · rename_i hdeviceId
        dsimp only at h
        split at h
        · cases h
        · rename_i channelId command hparsed'
          obtain ⟨channel, hpart', rfl, hchannel⟩ := parseIntWithPrefix_iff.mp hparsed'
          split at h
          · cases h
          · rename_i hchannelId
            obtain ⟨hparsers, hsuid, hd, hc⟩ := (parse_iff _ cmd).mp h
            have hd : deviceId = cmd.deviceId := hd
            have hc : channelId = cmd.channelId := hc
            subst hd hc
            exact ⟨device, channel, command, hpart, hpart', rfl, hsuid, ⟨hdevice, hdeviceId⟩,
              ⟨hchannel, hchannelId⟩, hparsers⟩
  · rintro ⟨device, channel, command, hpart, hpart', rfl, hsuid, ⟨hdevice, hdeviceId⟩,
      ⟨hchannel, hchannelId⟩, hparsers⟩
    rw [parseIntWithPrefix_iff.mpr ⟨device, hpart, rfl, hdevice⟩]
    dsimp only
    rw [if_neg hdeviceId, parseIntWithPrefix_iff.mpr ⟨channel, hpart', rfl, hchannel⟩]
    dsimp only
    rw [if_neg hchannelId, parse_iff]
    exact ⟨hparsers, hsuid, rfl, rfl⟩

/-- **A call** takes its topic apart. -/
theorem setValue_iff (hmessage : message ≠ []) (s : ValueSetter) {cmd : Command}
    (hother : ¬ cmd.callback.IsOther) :
    (s.setValue topicPrefix setpoint topic message).2 = some cmd ↔
      ∃ p : TopicParts, p.Valid ∧ topic = prefixed (topicPrefix.take 512) p.text ∧
        cmd.suid = some p.suid ∧ (str2int p.device = some cmd.deviceId ∧ cmd.deviceId ≠ 0) ∧
        (str2int p.channel = some cmd.channelId ∧ cmd.channelId ≠ 0) ∧
        parsers setpoint p.command message = some (some cmd.callback) := by
  have hsuid (suid rest : List Char) (s : ValueSetter) (hne : suid ≠ []) :
      getSuid { s.suidFree with
        suidLen := suid.length, suidPtr := some (suid ++ '/' :: rest), deviceId := 0,
        channelId := 0 } = some suid := by
    show (if suid.length = 0 then none else
      (some (suid ++ '/' :: rest)).map (·.take suid.length)) = _
    rw [if_neg (List.length_pos_iff.mpr hne).ne', Option.map_some, List.take_left' rfl]
  rw [setValue]
  constructor
  · intro h
    dsimp only at h
    split at h
    · cases h
    · split at h
      · cases h
      · rename_i t ht
        obtain ⟨u, hprefix, hsupla⟩ := Option.bind_eq_some_iff.mp ht
        rw [afterSupla_iff] at hsupla
        rw [afterPrefix_iff, hsupla] at hprefix
        split at h
        · cases h
        · rename_i a ha
          obtain ⟨suid, rest, rfl, hpart, -, rfl⟩ := suidEnd_iff.mp ha
          split at h
          · exfalso
            split at h
            · cases h
              exact hother trivial
            · cases h
          · rw [List.drop_length_add_append, List.drop_one, List.tail_cons] at h
            obtain ⟨device, channel, command, hdevice, hchannel, rfl, hsuid', hrest⟩ :=
              (parseChannel_iff _ _ cmd).mp h
            rw [hsuid suid _ s hpart.1] at hsuid'
            exact ⟨⟨suid, device, channel, command⟩, ⟨hpart, hdevice, hchannel⟩, hprefix, hsuid',
              hrest⟩
  · rintro ⟨⟨suid, device, channel, command⟩, ⟨hpart, hdevice, hchannel⟩, rfl, hsuid', hrest⟩
    have htext : afterSupla (TopicParts.text ⟨suid, device, channel, command⟩) =
        some (suid ++ '/' :: ("devices/".toList ++ (device ++ '/' :: ("channels/".toList ++
          (channel ++ '/' :: command))))) := afterSupla_iff.mpr rfl
    have hend : suidEnd (suid ++ '/' :: ("devices/".toList ++ (device ++ '/' ::
        ("channels/".toList ++ (channel ++ '/' :: command))))) = some suid.length :=
      suidEnd_iff.mpr ⟨suid, _, rfl, hpart, nofun, rfl⟩
    have hrefresh : "devices/".toList ++ (device ++ '/' :: ("channels/".toList ++
        (channel ++ '/' :: command))) ≠ "refresh_request".toList := by
      intro heq
      have hhead := congrArg List.head? heq
      rw [List.head?_append_of_ne_nil _ (by decide)] at hhead
      exact absurd hhead (by decide)
    dsimp only
    rw [if_neg fun h => h.elim (prefixed_ne_nil nofun) hmessage,
      afterPrefix_iff.mpr rfl, Option.bind_some, htext]
    dsimp only
    rw [hend]
    dsimp only
    rw [List.drop_length_add_append, List.drop_one, List.tail_cons, if_neg hrefresh,
      parseChannel_iff]
    refine ⟨device, channel, command, hdevice, hchannel, rfl, ?_, hrest⟩
    rw [hsuid suid _ s hpart.1]
    exact hsuid'

end ValueSetter

/-! ### One meaning -/

theorem cut_unique {sep : Char} {x x' y y' : List Char} (hx : sep ∉ x) (hx' : sep ∉ x')
    (h : x ++ sep :: y = x' ++ sep :: y') : x = x' ∧ y = y' := by
  have hlength : x.length = x'.length := by rw [← findIdx_cut hx y, h, findIdx_cut hx']
  obtain ⟨rfl, hrest⟩ := List.append_inj h hlength
  exact ⟨rfl, (List.cons.inj hrest).2⟩

/-- A topic has one meaning. -/
theorem TopicParts.text_inj {p q : TopicParts} (hp : p.Valid) (hq : q.Valid)
    (h : p.text = q.text) : p = q := by
  obtain ⟨suid, device, channel, command⟩ := p
  obtain ⟨suid', device', channel', command'⟩ := q
  obtain ⟨rfl, h⟩ := cut_unique hp.suid.2 hq.suid.2 (List.append_cancel_left h)
  obtain ⟨rfl, h⟩ := cut_unique hp.device.2 hq.device.2 (List.append_cancel_left h)
  obtain ⟨rfl, h⟩ := cut_unique hp.channel.2 hq.channel.2 (List.append_cancel_left h)
  exact congrArg (TopicParts.mk suid device channel) h

/-- The numbers of a command fit. -/
def Ordinary (topicPrefix topic message : List Char) : Prop :=
  ∀ p : TopicParts, p.Valid → topic = prefixed (topicPrefix.take 512) p.text →
    Sound p.device ∧ Sound p.channel ∧ ArgSound p.command message

theorem ofCode_id {t : List Char} (h : Sound t) (n : Int) :
    Reading.ofCode.id t = some n ↔ str2int t = some n ∧ n ≠ 0 := by
  show (number t).filter _ = some n ↔ _
  rw [Option.filter_eq_some_iff, str2int_sound h, decide_eq_true_eq]

/-- **A command is accepted** exactly where its topic and its message mean it, and its callback is
given what they mean; for all commands whose numbers fit. -/
theorem commands_accepted (topicPrefix topic message : List Char)
    (setpoint : List Char → Option Int) (s : ValueSetter) (hmessage : message ≠ [])
    (hordinary : Ordinary topicPrefix topic message) (cmd : Command)
    (hother : ¬ cmd.callback.IsOther) :
    (s.setValue topicPrefix setpoint topic message).2 = some cmd ↔
      Denotes .ofCode topicPrefix topic message cmd := by
  rw [ValueSetter.setValue_iff hmessage s hother, Denotes]
  refine exists_congr fun p => and_congr_right fun hvalid => and_congr_right fun htopic => ?_
  obtain ⟨hdevice, hchannel, hargument⟩ := hordinary p hvalid htopic
  rw [ofCode_id hdevice, ofCode_id hchannel, parsers_iff hargument hother]

/-- The parts of a topic. -/
def exampleParts : TopicParts := ⟨['u'], ['5'], ['9'], "set/brightness".toList⟩

theorem exampleParts_valid : exampleParts.Valid :=
  ⟨by unfold TopicParts.IsPart; decide, by unfold TopicParts.IsPart; decide,
    by unfold TopicParts.IsPart; decide⟩

theorem example_ordinary : Ordinary [] exampleParts.text "33.5".toList := by
  intro p hvalid htopic
  rw [List.take_nil, prefixed, if_pos rfl] at htopic
  rw [← TopicParts.text_inj exampleParts_valid hvalid htopic]
  exact ⟨by decide, by decide, fun _ => by decide, fun h => absurd h (by decide)⟩

theorem commands_accepted_brightness :
    (ValueSetter.init.setValue [] (fun _ => none) exampleParts.text "33.5".toList).2 =
        some ⟨.setBrightness 33, some ['u'], 5, 9⟩ ↔
      Denotes .ofCode [] exampleParts.text "33.5".toList ⟨.setBrightness 33, some ['u'], 5, 9⟩ :=
  commands_accepted [] exampleParts.text "33.5".toList (fun _ => none) .init (by decide)
    example_ordinary ⟨.setBrightness 33, some ['u'], 5, 9⟩ id

/-- **A negative id is taken**, which is no numeral. -/
theorem negative_channel_accepted :
    ¬ ((ValueSetter.init.setValue [] (fun _ => none)
          "supla/u/devices/560/channels/-1/set/on".toList ['1']).2 =
        some ⟨.setOn true, some ['u'], 560, -1⟩ ↔
      Denotes .plain [] "supla/u/devices/560/channels/-1/set/on".toList ['1']
        ⟨.setOn true, some ['u'], 560, -1⟩) := by
  intro h
  obtain ⟨p, -, -, -, -, hchannel, -⟩ := h.mp (by decide)
  obtain ⟨-, hpositive⟩ := Option.filter_eq_some_iff.mp hchannel
  exact absurd (of_decide_eq_true hpositive) (by decide)

end Mqtt
