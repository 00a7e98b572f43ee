import SuplaCore.Device.Proof.JsonModbus
import Mathlib.Data.Rat.Lemmas
import Mathlib.Algebra.Order.Field.Rat
import Mathlib.Tactic.GCongr
import Mathlib.Tactic.NormNum

/-!
# The transfer of a device configuration

All fields together fit one chunk, so the loop of a request ends after one pass (`pack_spec`), and
what it sends is the structures of the readable fields one behind the other, except that a getter
that answers "not read" may have left something where the next structure goes. Applied to an empty
configuration the chunk is taken apart at the same offsets (`apply_spec`) and reads back as it was
sent, unless the firmware update structure stands on the baud rate of a Modbus structure that was
not sent (`transfer_complete`).
-/

namespace Device.JsonConfig

open Json Bytes

variable {N : Doubles}

/-! ## Every getter stays inside its structure -/

theorem fits_readText {parent : Option (Node N.D)} {key : String} {off n : Nat}
    {value : String → Nat} (h : off + 1 ≤ n) : Fits n (readText parent key off value).2 := by
  unfold readText
  split
  · exact .cons (by simpa using h) (.nil n)
  · exact .nil n

theorem fits_readNumber {parent : Option (Node N.D)} {key : String} {off w n : Nat}
    {signed : Bool} (h : off + w ≤ n) : Fits n (readNumber parent key off w signed).2 := by
  unfold readNumber
  split
  · exact .cons (by simpa using h) (.nil n)
  · exact .nil n

theorem fits_readAvailable {json : Node N.D} {key : String} {size n : Nat} {flag : Node N.D → Nat}
    (h1 : 1 ≤ n) (hsize : size ≤ n) : Fits n (readAvailable json key size flag).2 := by
  unfold readAvailable
  split
  · exact .cons (by simpa using hsize) (.nil n)
  · exact .cons (by simpa using hsize) (.cons (by simpa using h1) (.nil n))

theorem fits_modbus (c : Config N) : Fits 102 (getModbusConfig c).2 := by
  have hserial : ∀ json : Option (Node N.D),
      Fits 102 ((modbusJsonToSerialConfig json).shift 6).2 := fun json =>
    Fits.shift (n := 96) (((fits_readText (by decide)).append (fits_readNumber (by decide))).append
      (fits_readText (by decide)))
  have hnetwork : ∀ json : Option (Node N.D),
      Fits 102 ((modbusJsonToNetworkConfig json).shift 32).2 := fun json =>
    Fits.shift (n := 70) ((fits_readText (by decide)).append (fits_readNumber (by decide)))
  unfold getModbusConfig
  split
  · exact .nil _
  · rename_i user _
    have huser : Fits 102 (((((readText (some user) "role" 0 stringToModbusRole).also
        (readNumber (some user) "modbusAddress" 1 1 false)).also
        (readNumber (some user) "slaveTimeoutMs" 2 4 false)).also
        ((modbusJsonToSerialConfig (user.get "serialConfig")).shift 6)).also
        ((modbusJsonToNetworkConfig (user.get "networkConfig")).shift 32)).2 :=
      ((((fits_readText (by decide)).append (fits_readNumber (by decide))).append
        (fits_readNumber (by decide))).append (hserial _)).append (hnetwork _)
    split
    · exact huser
    · exact ((huser.append
        (Fits.shift (n := 45) (fits_readAvailable (by decide) (by decide)))).append
        (Fits.shift (n := 43) (fits_readAvailable (by decide) (by decide)))).append
        (Fits.shift (n := 41) (fits_readAvailable (by decide) (by decide)))

theorem getField_fits (c : Config N) (f : Field) : Fits f.size (getField c f).2 := by
  cases f
  case modbus => exact fits_modbus c
  case statusLed => exact fits_readText (by decide)
  case powerStatusLed => exact fits_readText (by decide)
  case homeScreenOffDelayType => exact fits_readText (by decide)
  case firmwareUpdate => exact fits_readText (by decide)
  case homeScreenOffDelay => exact fits_readNumber (by decide)
  case screenBrightness =>
    simp only [getField, getScreenBrightness]
    split
    · exact .nil _
    · split
      · exact .cons (by decide) (.cons (by simp [Field.size]) (.nil _))
      · split
        · exact Fits.append (.cons (by decide) (.cons (by decide) (.nil _)))
            (fits_readNumber (by decide))
        · exact .nil _
  case buttonVolume =>
    simp only [getField, getButtonVolume]
    split
    · exact .cons (by simp [Field.size]) (.nil _)
    · exact .nil _
  case disableUserInterface =>
    have hcleared : Fits 5 [⟨1, toLE 2 0⟩, ⟨3, toLE 2 0⟩] :=
      .cons (by decide) (.cons (by decide) (.nil _))
    simp only [getField, getUserInterfaceDisabled]
    split
    · exact hcleared.append (.cons (by simp) (.nil _))
    · split
      · split
        · exact hcleared.append (.cons (by decide) (.cons (by simp) (.cons (by simp) (.nil _))))
        · exact hcleared
      · exact hcleared
  case automaticTimeSync =>
    simp only [getField, getAutomaticTimeSync]
    split
    · exact .cons (by simp [Field.size]) (.nil _)
    · exact .nil _
  case homeScreenContent =>
    simp only [getField, getHomeScreenContent]
    apply Fits.append
    · split
      · exact .cons (by simp [Field.size]) (.nil _)
      · exact .nil _
    · split
      · split
        · exact .cons (by decide) (.cons (by simp [Field.size]) (.nil _))
        · exact .cons (by decide) (.nil _)
      · exact .cons (by decide) (.nil _)

/-! ## What a getter leaves that read nothing -/

/-- Zeroed memory. -/
abbrev zeros (n : Nat) : List UInt8 := List.replicate n 0

theorem readText_false {parent : Option (Node N.D)} {key : String} {off : Nat}
    {value : String → Nat} (h : (readText parent key off value).1 = false) :
    (readText parent key off value).2 = [] := by
  unfold readText at h ⊢
  split at h
  · cases h
  · rfl

theorem readNumber_false {parent : Option (Node N.D)} {key : String} {off w : Nat} {signed : Bool}
    (h : (readNumber parent key off w signed).1 = false) :
    (readNumber parent key off w signed).2 = [] := by
  unfold readNumber at h ⊢
  split at h
  · cases h
  · rfl

/-- Every getter but that of Modbus leaves zeroed memory zeroed. -/
theorem image_unread {c : Config N} {f : Field} (hf : f ≠ .modbus)
    (h : (getField c f).1 = false) : image f (getField c f).2 = zeros f.size := by
  cases f
  case modbus => exact absurd rfl hf
  case statusLed => exact congrArg (image _) (readText_false h)
  case powerStatusLed => exact congrArg (image _) (readText_false h)
  case homeScreenOffDelayType => exact congrArg (image _) (readText_false h)
  case firmwareUpdate => exact congrArg (image _) (readText_false h)
  case homeScreenOffDelay => exact congrArg (image _) (readNumber_false h)
  case screenBrightness =>
    simp only [getField, getScreenBrightness] at h ⊢
    split at h
    · rfl
    · split at h
      · cases h
      · split at h
        · cases h
        · rename_i hauto
          rw [if_neg hauto]
          rfl
  case buttonVolume =>
    simp only [getField, getButtonVolume] at h ⊢
    split at h
    · cases h
    · rfl
  case disableUserInterface =>
    simp only [getField, getUserInterfaceDisabled] at h ⊢
    split at h
    · cases h
    · split at h
      · rename_i hpartial
        rw [if_pos hpartial]
        split at h
        · cases h
        · rfl
      · rename_i hpartial
        rw [if_neg hpartial]
        rfl
  case automaticTimeSync =>
    simp only [getField, getAutomaticTimeSync] at h ⊢
    split at h
    · cases h
    · rfl
  case homeScreenContent =>
    simp only [getField, getHomeScreenContent, Got.also, Bool.or_eq_false_iff] at h ⊢
    obtain ⟨hcontent, havailable⟩ := h
    split at hcontent
    · cases hcontent
    · split at havailable
      · split at havailable
        · cases havailable
        · rename_i hkind
          rw [if_neg hkind]
          rfl
      · rfl

/-- A field that is absent is not read and leaves nothing. -/
theorem image_absent {c : Config N} {f : Field} (h : Absent c f) :
    (getField c f).1 = false ∧ image f (getField c f).2 = zeros f.size := by
  have heq : getField c f = getField (Config.empty : Config N) f :=
    getField_congr (h.1.trans (absent_empty f).1.symm) (h.2.trans (absent_empty f).2.symm)
  rw [heq]
  cases f <;> exact ⟨rfl, rfl⟩

/-- **A field is read back** from a configuration that it was set in. -/
theorem setField_roundtrip {c d : Config N} {f : Field} {ws : List Write} {b : List UInt8}
    (h : getField c f = (true, ws)) (hd : Absent d f) (hb : Starts f ws b) :
    ReadsAs (setField d b f) f ws := by
  cases f
  case modbus => exact modbus_readsAs h hd hb
  case homeScreenContent => exact content_readsAs h hd hb
  case screenBrightness => exact brightness_readsAs h hd hb
  case buttonVolume => exact volume_readsAs h hd hb
  case disableUserInterface => exact userInterface_readsAs h hd hb
  case automaticTimeSync => exact timeSync_readsAs h hd hb
  case homeScreenOffDelay => exact offDelay_readsAs h hd hb
  case statusLed =>
    refine text_readsAs statusLed_code (fun _ => rfl) (fun d b hle => ?_) h hd hb
    rw [setField, setStatusLed, if_pos hle]
  case powerStatusLed =>
    refine text_readsAs powerStatusLed_code (fun _ => rfl) (fun d b hle => ?_) h hd hb
    rw [setField, setPowerStatusLed, if_pos hle]
  case homeScreenOffDelayType =>
    exact text_readsAs offDelayType_code (fun _ => rfl) (fun _ _ _ => rfl) h hd hb
  case firmwareUpdate =>
    exact text_readsAs fwUpdatePolicy_code (fun _ => rfl) (fun _ _ _ => rfl) h hd hb

/-! ## Packing -/

/-- A field that a request for `fields` sends. -/
def sent (c : Config N) (fields : BitVec 64) (f : Field) : Bool := has fields f && (getField c f).1

/-- One field of the loop: what is packed so far, and the memory behind it. -/
def packStep (c : Config N) (fields : BitVec 64) (s : List UInt8 × List UInt8) (f : Field) :
    List UInt8 × List UInt8 :=
  if has fields f then
    let tail := poke s.2 0 (getField c f).2
    if (getField c f).1 then (s.1 ++ tail.take f.size, tail.drop f.size) else (s.1, tail)
  else s

/-- A field that was looked at is no longer left. -/
def clearField (fields left : BitVec 64) (f : Field) : BitVec 64 :=
  if has fields f then left &&& ~~~ mask f else left

theorem length_poke {m : List UInt8} {ws : List Write} (h : Fits m.length ws) :
    (poke m 0 ws).length = m.length := (poke_before ws [] m h).2

/-- **The loop of `get_config` comes to its end** as long as all its fields fit: no exit is taken
and every requested field is looked at. -/
theorem packFields_eq (c : Config N) (fields : BitVec 64) : ∀ (fs : List Field) (ch : Chunk)
    (left : BitVec 64) (done tail : List UInt8), ch.config = done ++ tail →
    ch.configSize = done.length → done.length + tail.length = deviceConfigMaxsize →
    done.length + (fs.map Field.size).sum < deviceConfigMaxsize →
    packFields c fields fs ch left =
      (⟨(fs.filter (sent c fields)).foldl (fun m f => m ||| mask f) ch.fields,
        (fs.foldl (packStep c fields) (done, tail)).1.length,
        (fs.foldl (packStep c fields) (done, tail)).1 ++
          (fs.foldl (packStep c fields) (done, tail)).2⟩,
        fs.foldl (clearField fields) left) := by
  intro fs
  induction fs with
  | nil =>
    intro ch left done tail hconfig hsize _ _
    simp only [packFields, List.filter_nil, List.foldl_nil, ← hconfig, ← hsize]
  | cons f fs ih =>
    intro ch left done tail hconfig hsize hlen hroom
    rw [List.map_cons, List.sum_cons] at hroom
    by_cases hhas : has fields f = true
    · have hfit : f.size ≤ deviceConfigMaxsize - ch.configSize := by omega
      have hpoke : poke ch.config ch.configSize (getField c f).2 =
          done ++ poke tail 0 (getField c f).2 := by rw [hconfig, hsize, poke_behind]
      have htail : (poke tail 0 (getField c f).2).length = tail.length :=
        length_poke ((getField_fits c f).mono (by omega))
      by_cases hread : (getField c f).1 = true
      · have hstep : packStep c fields (done, tail) f =
            (done ++ (poke tail 0 (getField c f).2).take f.size,
              (poke tail 0 (getField c f).2).drop f.size) := by
          simp only [packStep, hhas, hread, if_true]
        have hnext : (done ++ (poke tail 0 (getField c f).2).take f.size).length =
            done.length + f.size := by
          rw [List.length_append, List.length_take]
          omega
        rw [List.foldl_cons, List.foldl_cons, hstep,
          List.filter_cons_of_pos (by simp [sent, hhas, hread]), List.foldl_cons,
          show clearField fields left f = left &&& ~~~ mask f by simp [clearField, hhas]]
        simp only [packFields, hhas, if_true, if_pos hfit, hread, not_true_eq_false, false_and,
          if_false]
        rw [if_neg (by omega)]
        refine ih _ _ _ _ ?_ ?_ ?_ ?_
        · simp only [hpoke, List.append_assoc, List.take_append_drop]
        · simp only [hnext, hsize]
        · rw [hnext, List.length_drop, htail]
          omega
        · rw [hnext]
          omega
      · have hstep : packStep c fields (done, tail) f = (done, poke tail 0 (getField c f).2) := by
          simp only [packStep, hhas, if_true, if_neg hread]
        rw [List.foldl_cons, List.foldl_cons, hstep,
          List.filter_cons_of_neg (by simp [sent, hread]),
          show clearField fields left f = left &&& ~~~ mask f by simp [clearField, hhas]]
        simp only [packFields, hhas, if_true, if_pos hfit, hread, Bool.false_eq_true, if_false,
          not_false_eq_true, true_and]
        rw [if_neg (by omega), if_neg (by omega)]
        exact ih _ _ _ _ hpoke hsize (by omega) (by omega)
    · have hstep : packStep c fields (done, tail) f = (done, tail) := by
        simp only [packStep, if_neg hhas]
      rw [List.foldl_cons, List.foldl_cons, hstep,
        List.filter_cons_of_neg (by simp [sent, hhas]),
        show clearField fields left f = left by simp [clearField, hhas]]
      simp only [packFields, if_neg hhas]
      exact ih _ _ _ _ hconfig hsize hlen (by omega)

theorem poke_zeros {f : Field} {ws : List Write} {n : Nat} (hf : Fits f.size ws) (hn : f.size ≤ n) :
    poke (zeros n) 0 ws = image f ws ++ zeros (n - f.size) := by
  have hsplit : zeros n = zeros f.size ++ zeros (n - f.size) := by
    rw [List.replicate_append_replicate]
    congr 1
    omega
  rw [hsplit, (poke_before ws _ _ (by simpa using hf)).1]
  rfl

/-- Packing fields whose getters leave zeroed memory zeroed when they read nothing. -/
theorem pack_clean (c : Config N) (fields : BitVec 64) : ∀ (fs : List Field) (done : List UInt8)
    (n : Nat), (∀ f ∈ fs, (getField c f).1 = false → image f (getField c f).2 = zeros f.size) →
    (fs.map Field.size).sum ≤ n →
    ∃ m, m + (fs.map Field.size).sum ≥ n ∧ fs.foldl (packStep c fields) (done, zeros n) =
      (done ++ (fs.filter (sent c fields)).flatMap fun f => image f (getField c f).2, zeros m) := by
  intro fs
  induction fs with
  | nil =>
    intro done n _ _
    exact ⟨n, by simp, by simp⟩
  | cons f fs ih =>
    intro done n hclean hroom
    rw [List.map_cons, List.sum_cons] at hroom
    have hclean' := fun g hg => hclean g (List.mem_cons_of_mem f hg)
    rw [List.foldl_cons, List.map_cons, List.sum_cons]
    have hpoke := poke_zeros (getField_fits c f) (Nat.le_trans (Nat.le_add_right _ _) hroom)
    have hlen := length_image (getField_fits c f)
    by_cases hhas : has fields f = true
    · by_cases hread : (getField c f).1 = true
      · have hstep : packStep c fields (done, zeros n) f =
            (done ++ image f (getField c f).2, zeros (n - f.size)) := by
          simp only [packStep, hhas, hread, if_true, hpoke]
          rw [List.take_left' hlen, List.drop_left' hlen]
        obtain ⟨m, hm, hrun⟩ := ih (done ++ image f (getField c f).2) (n - f.size) hclean'
          (by omega)
        refine ⟨m, by omega, ?_⟩
        rw [hstep, hrun, List.filter_cons_of_pos (by simp [sent, hhas, hread]), List.flatMap_cons,
          List.append_assoc]
      · have hread' : (getField c f).1 = false := by simpa using hread
        have hstep : packStep c fields (done, zeros n) f = (done, zeros n) := by
          simp only [packStep, hhas, if_true, if_neg hread, hpoke,
            hclean f List.mem_cons_self hread', List.replicate_append_replicate]
          congr 2
          omega
        obtain ⟨m, hm, hrun⟩ := ih done n hclean' (by omega)
        refine ⟨m, by omega, ?_⟩
        rw [hstep, hrun, List.filter_cons_of_neg (by simp [sent, hread])]
    · have hstep : packStep c fields (done, zeros n) f = (done, zeros n) := by
        simp only [packStep, if_neg hhas]
      obtain ⟨m, hm, hrun⟩ := ih done n hclean' (by omega)
      refine ⟨m, by omega, ?_⟩
      rw [hstep, hrun, List.filter_cons_of_neg (by simp [sent, hhas])]

/-! ## What a chunk holds -/

/-- The bytes that stand where the reserved part of the firmware update structure goes. -/
def spill (c : Config N) (fields : BitVec 64) : List UInt8 :=
  if has fields .modbus && !(getField c .modbus).1
  then ((image .modbus (getField c .modbus).2).drop 1).take 20 else zeros 20

/-- The structure of a field as it stands in the chunk. -/
def piece (c : Config N) (fields : BitVec 64) (f : Field) : List UInt8 :=
  if f = .firmwareUpdate then (image f (getField c f).2).take 1 ++ spill c fields
  else image f (getField c f).2

theorem length_spill (c : Config N) (fields : BitVec 64) : (spill c fields).length = 20 := by
  unfold spill
  split
  · rw [List.length_take, List.length_drop, length_image (getField_fits c .modbus)]
    rfl
  · rfl

theorem length_piece (c : Config N) (fields : BitVec 64) (f : Field) :
    (piece c fields f).length = f.size := by
  unfold piece
  split
  · rename_i hf
    subst hf
    rw [List.length_append, List.length_take, length_image (getField_fits c _), length_spill]
    rfl
  · exact length_image (getField_fits c f)

/-- The fields before Modbus. -/
def early : List Field :=
  [.statusLed, .screenBrightness, .buttonVolume, .disableUserInterface, .automaticTimeSync,
    .homeScreenOffDelay, .homeScreenContent, .homeScreenOffDelayType, .powerStatusLed]

/-- The Modbus field: read, it is packed; not read, it may leave something behind. -/
theorem packStep_modbus (c : Config N) (fields : BitVec 64) (done : List UInt8) {n : Nat}
    (hn : 123 ≤ n) : ∃ tail, 21 ≤ tail.length ∧ (tail.drop 1).take 20 = spill c fields ∧
      packStep c fields (done, zeros n) .modbus =
        (done ++ (if sent c fields .modbus then image .modbus (getField c .modbus).2 else []),
          tail) := by
  have hpoke : poke (zeros n) 0 (getField c .modbus).2 =
      image .modbus (getField c .modbus).2 ++ zeros (n - 102) :=
    poke_zeros (getField_fits c .modbus) (Nat.le_trans (by decide) hn)
  have hlen : (image .modbus (getField c .modbus).2).length = 102 :=
    length_image (getField_fits c .modbus)
  have hclean : ∀ k, 21 ≤ k → 21 ≤ (zeros k).length ∧ ((zeros k).drop 1).take 20 = zeros 20 := by
    intro k hk
    refine ⟨by simpa using hk, ?_⟩
    rw [List.drop_replicate, List.take_replicate]
    congr 1
    omega
  unfold packStep sent spill
  by_cases hhas : has fields .modbus = true
  · cases hread : (getField c .modbus).1 with
    | true =>
      refine ⟨zeros (n - 102), (hclean _ (by omega)).1, ?_, ?_⟩
      · simpa [hhas] using (hclean _ (by omega)).2
      · simp only [hhas, hpoke, if_true, Bool.and_self, Field.size]
        rw [List.take_left' hlen, List.drop_left' hlen]
    | false =>
      refine ⟨image .modbus (getField c .modbus).2 ++ zeros (n - 102), ?_, ?_, ?_⟩
      · rw [List.length_append, hlen]
        omega
      · simp only [hhas, Bool.not_false, Bool.and_self, if_true]
        rw [List.drop_append_of_le_length (by omega),
          List.take_append_of_le_length (by rw [List.length_drop]; omega)]
      · simp [hhas, hpoke]
  · refine ⟨zeros n, (hclean n (by omega)).1, ?_, ?_⟩
    · simpa [hhas] using (hclean n (by omega)).2
    · simp [hhas]

/-- The firmware update field overwrites one byte of what stands there. -/
theorem packStep_firmware (c : Config N) (fields : BitVec 64) (done tail : List UInt8)
    (hlen : 21 ≤ tail.length) (htail : (tail.drop 1).take 20 = spill c fields) :
    (packStep c fields (done, tail) .firmwareUpdate).1 =
      done ++ if sent c fields .firmwareUpdate then piece c fields .firmwareUpdate else [] := by
  unfold packStep sent
  by_cases hhas : has fields .firmwareUpdate = true
  · cases hread : (getField c .firmwareUpdate).1 with
    | true =>
      obtain ⟨s, hs⟩ := readText_true (Prod.ext (y := (true, _)) hread rfl)
      have hs' : (getField c .firmwareUpdate).2 =
          [⟨0, toLE 1 (stringToFwUpdatePolicy s)⟩] := hs
      simp only [hhas, if_true, Bool.and_self, piece, hs', image_first]
      congr 1
      cases tail with
      | nil => simp at hlen
      | cons x tail =>
        rw [List.drop_succ_cons, List.drop_zero] at htail
        rw [← htail]
        rfl
    | false => simp [hhas]
  · simp [hhas]

/-- **What a chunk holds**: the structures of the readable fields one behind the other. -/
theorem pack_content (c : Config N) (fields : BitVec 64) :
    (Field.all.foldl (packStep c fields) ([], zeros deviceConfigMaxsize)).1 =
      (Field.all.filter (sent c fields)).flatMap (piece c fields) := by
  have hall : Field.all = early ++ [.modbus, .firmwareUpdate] := rfl
  have hclean : ∀ f ∈ early, (getField c f).1 = false →
      image f (getField c f).2 = zeros f.size := by
    intro f hf hno
    apply image_unread _ hno
    rintro rfl
    exact absurd hf (by decide)
  obtain ⟨n, hn, hearly⟩ := pack_clean c fields early [] deviceConfigMaxsize hclean (by decide)
  have hsum : (early.map Field.size).sum = 31 := by decide
  obtain ⟨tail, hlen, htail, hmodbus⟩ := packStep_modbus c fields
    ([] ++ (early.filter (sent c fields)).flatMap fun f => image f (getField c f).2)
    (n := n) (by simp only [hsum, deviceConfigMaxsize] at hn; omega)
  have hpieces : (early.filter (sent c fields)).flatMap (fun f => image f (getField c f).2) =
      (early.filter (sent c fields)).flatMap (piece c fields) := by
    refine List.flatMap_congr fun f hf => ?_
    have hne : f ≠ .firmwareUpdate := by
      rintro rfl
      exact absurd (List.mem_filter.mp hf).1 (by decide)
    rw [piece, if_neg hne]
  rw [hall, List.foldl_append, hearly, List.foldl_cons, List.foldl_cons, List.foldl_nil, hmodbus,
    packStep_firmware c fields _ tail hlen htail, List.filter_append, List.flatMap_append, hpieces,
    List.nil_append, List.append_assoc]
  congr 1
  have hpm : piece c fields .modbus = image .modbus (getField c .modbus).2 :=
    if_neg (by decide)
  cases hm : sent c fields .modbus <;> cases hf : sent c fields .firmwareUpdate <;>
    simp [hm, hf, hpm]

/-! ## Field masks -/

theorem Field.bit_lt (f : Field) : f.bit < 64 := by cases f <;> decide

theorem Field.bit_inj {f g : Field} (h : f.bit = g.bit) : f = g := by
  have table : ∀ f ∈ Field.all, ∀ g ∈ Field.all, f.bit = g.bit → f = g := by decide
  exact table f f.mem_all g g.mem_all h

theorem getLsbD_mask (f : Field) (i : Nat) : (mask f).getLsbD i = (f.bit == i) := by
  simp [mask, BitVec.getLsbD_twoPow, f.bit_lt, Bool.beq_eq_decide_eq]

/-- The mask of a list of fields. -/
def fieldsOf (fs : List Field) : BitVec 64 := fs.foldl (fun m f => m ||| mask f) 0

theorem getLsbD_fieldsOf (fs : List Field) (i : Nat) :
    (fieldsOf fs).getLsbD i = fs.any fun f => f.bit == i := by
  have run : ∀ (fs : List Field) (m : BitVec 64),
      (fs.foldl (fun m f => m ||| mask f) m).getLsbD i =
        (m.getLsbD i || fs.any fun f => f.bit == i) := by
    intro fs
    induction fs with
    | nil => intro m; simp
    | cons f fs ih =>
      intro m
      rw [List.foldl_cons, ih, BitVec.getLsbD_or, getLsbD_mask, List.any_cons, Bool.or_assoc]
  rw [fieldsOf, run]
  simp

theorem has_fieldsOf (fs : List Field) (f : Field) : has (fieldsOf fs) f = true ↔ f ∈ fs := by
  rw [has, getLsbD_fieldsOf, List.any_eq_true]
  constructor
  · rintro ⟨g, hg, hbit⟩
    rwa [← Field.bit_inj (eq_of_beq hbit)]
  · intro hf
    exact ⟨f, hf, beq_self_eq_true _⟩

theorem getLsbD_known (fields : BitVec 64) (i : Nat) :
    (knownFields fields).getLsbD i = Field.all.any fun f => has fields f && f.bit == i := by
  have run : ∀ (fs : List Field) (m : BitVec 64),
      (fs.foldl (fun left f => if has fields f then left ||| mask f else left) m).getLsbD i =
        (m.getLsbD i || fs.any fun f => has fields f && f.bit == i) := by
    intro fs
    induction fs with
    | nil => intro m; simp
    | cons f fs ih =>
      intro m
      rw [List.foldl_cons, ih, List.any_cons]
      split
      · rename_i hhas
        rw [BitVec.getLsbD_or, getLsbD_mask, hhas, Bool.true_and, Bool.or_assoc]
      · rename_i hhas
        simp [hhas]
  rw [knownFields, run]
  simp

theorem getLsbD_clear (fields : BitVec 64) (i : Nat) : ∀ (fs : List Field) (left : BitVec 64),
    (fs.foldl (clearField fields) left).getLsbD i =
      (left.getLsbD i && !fs.any fun f => has fields f && f.bit == i) := by
  intro fs
  induction fs with
  | nil => intro left; simp
  | cons f fs ih =>
    intro left
    rw [List.foldl_cons, ih, List.any_cons, clearField]
    split
    · rename_i hhas
      have hbit : (~~~ mask f).getLsbD i = (decide (i < 64) && !(f.bit == i)) := by
        rw [BitVec.getLsbD_not, getLsbD_mask]
      rw [BitVec.getLsbD_and, hbit, hhas, Bool.true_and, Bool.not_or]
      by_cases hi : i < 64
      · simp [hi, Bool.and_assoc]
      · simp [BitVec.getLsbD_of_ge left i (by omega)]
    · rename_i hhas
      simp [hhas]

/-- After one pass no field is left. -/
theorem clear_known (fields : BitVec 64) :
    Field.all.foldl (clearField fields) (knownFields fields) = 0 := by
  apply BitVec.eq_of_getLsbD_eq
  intro i _
  rw [getLsbD_clear, getLsbD_known, Bool.and_not_self]
  simp

/-! ## One pass -/

/-- What a request sends. -/
def contentOf (c : Config N) (fields : BitVec 64) : List UInt8 :=
  (Field.all.filter (sent c fields)).flatMap (piece c fields)

theorem length_contentOf (c : Config N) (fields : BitVec 64) :
    (contentOf c fields).length = ((Field.all.filter (sent c fields)).map Field.size).sum := by
  simp [contentOf, List.length_flatMap, length_piece]

theorem sum_size_le {p : Field → Bool} : ∀ fs : List Field,
    ((fs.filter p).map Field.size).sum ≤ (fs.map Field.size).sum
  | [] => by simp
  | f :: fs => by
    have ih := sum_size_le (p := p) fs
    rw [List.filter_cons]
    split <;> simp <;> omega

theorem length_contentOf_lt (c : Config N) (fields : BitVec 64) :
    (contentOf c fields).length < deviceConfigMaxsize := by
  rw [length_contentOf]
  exact Nat.lt_of_le_of_lt (sum_size_le Field.all) (by decide)

/-- **One call of `get_config` answers the whole request.** -/
theorem getConfig_eq (c : Config N) (fields : BitVec 64) : ∃ tail,
    getConfig c .zero fields =
      (⟨fieldsOf (Field.all.filter (sent c fields)), (contentOf c fields).length,
        contentOf c fields ++ tail⟩, 0) := by
  refine ⟨(Field.all.foldl (packStep c fields) ([], zeros deviceConfigMaxsize)).2, ?_⟩
  rw [getConfig, packFields_eq c fields Field.all _ _ [] (zeros deviceConfigMaxsize) rfl rfl
    (by simp) (by decide), clear_known, pack_content]
  rfl

theorem requestConfig_eq (c : Config N) {fields : BitVec 64} (h : fields ≠ 0) (fuel : Nat) :
    requestConfig c (fuel + 1) fields = some [(getConfig c .zero fields).1] := by
  obtain ⟨tail, hget⟩ := getConfig_eq c fields
  unfold requestConfig
  rw [if_neg h]
  simp only [hget]
  unfold requestConfig
  simp

theorem requestConfig_zero (c : Config N) (fuel : Nat) : requestConfig c fuel 0 = some [] := by
  unfold requestConfig
  rw [if_pos rfl]

/-! ## Taking a chunk apart -/

/-- **`set_config` finds every field where `get_config` put it**: fields of the chunk are set, the
others stay absent. -/
theorem apply_spec (c : Config N) (fields : BitVec 64) (ch : Chunk)
    (hset : ∀ f, sent c fields f = true → ∀ (d : Config N) (b : List UInt8), Absent d f →
      b.take f.size = piece c fields f → ReadsAs (setField d b f) f (getField c f).2)
    (hfields : ∀ f, has ch.fields f = sent c fields f)
    (hmax : ch.configSize ≤ deviceConfigMaxsize) :
    ∀ (fs : List Field) (done tail : List UInt8) (d : Config N), fs.Nodup →
      ch.config = done ++ ((fs.filter (sent c fields)).flatMap (piece c fields) ++ tail) →
      ch.configSize = (done ++ (fs.filter (sent c fields)).flatMap (piece c fields)).length →
      (∀ f ∈ fs, Absent d f) →
      (∀ f ∈ fs, sent c fields f = true →
        ReadsAs (applyFields ch fs done.length d) f (getField c f).2) ∧
      (∀ f ∈ fs, sent c fields f = false → Absent (applyFields ch fs done.length d) f) ∧
      (∀ g, g ∉ fs → item (applyFields ch fs done.length d) g = item d g ∧
        props (applyFields ch fs done.length d) g = props d g) := by
  intro fs
  induction fs with
  | nil =>
    intro done tail d _ _ _ _
    exact ⟨fun _ h => (nomatch h), fun _ h => (nomatch h), fun _ _ => ⟨rfl, rfl⟩⟩
  | cons f fs ih =>
    intro done tail d hnodup hconfig hsize habsent
    obtain ⟨hnot, hnodup'⟩ := List.nodup_cons.mp hnodup
    have habsent' := fun g hg => habsent g (List.mem_cons_of_mem f hg)
    cases hsent : sent c fields f with
    | false =>
      rw [List.filter_cons_of_neg (by simp [hsent])] at hconfig hsize
      have hrun : applyFields ch (f :: fs) done.length d = applyFields ch fs done.length d := by
        rw [applyFields, hfields, hsent]
        simp
      obtain ⟨hread, hno, hother⟩ := ih done tail d hnodup' hconfig hsize habsent'
      rw [hrun]
      refine ⟨?_, ?_, ?_⟩
      · intro g hg hgsent
        rcases List.mem_cons.mp hg with rfl | hg
        · rw [hsent] at hgsent
          cases hgsent
        · exact hread g hg hgsent
      · intro g hg hgsent
        rcases List.mem_cons.mp hg with rfl | hg
        · obtain ⟨hi, hp⟩ := hother g hnot
          obtain ⟨ha, hb⟩ := habsent g List.mem_cons_self
          exact ⟨hi.trans ha, hp.trans hb⟩
        · exact hno g hg hgsent
      · intro g hg
        exact hother g fun h => hg (List.mem_cons_of_mem f h)
    | true =>
      rw [List.filter_cons_of_pos hsent, List.flatMap_cons] at hconfig hsize
      have hlen := length_piece c fields f
      have hpos := one_le_size f
      have hleft : min ch.configSize deviceConfigMaxsize = ch.configSize := Nat.min_eq_left hmax
      rw [List.length_append, List.length_append] at hsize
      have hdrop : ch.config.drop done.length = piece c fields f ++
          ((fs.filter (sent c fields)).flatMap (piece c fields) ++ tail) := by
        rw [hconfig, List.drop_left, List.append_assoc]
      have hrun : applyFields ch (f :: fs) done.length d =
          applyFields ch fs (done ++ piece c fields f).length
            (setField d (ch.config.drop done.length) f) := by
        rw [applyFields, hfields, hsent, List.length_append, hlen]
        simp only [if_true, hleft]
        rw [if_pos (by omega), if_pos (by omega)]
      have hframe := setField_other d (ch.config.drop done.length) f
      have hsetf := hset f hsent d (ch.config.drop done.length) (habsent f List.mem_cons_self)
        (by rw [hdrop, List.take_left' hlen])
      obtain ⟨hread, hno, hother⟩ := ih (done ++ piece c fields f) tail
        (setField d (ch.config.drop done.length) f) hnodup'
        (by rw [hconfig]; simp only [List.append_assoc])
        (by rw [hsize]; simp only [List.length_append]; omega)
        (fun g hg => by
          have hne : g ≠ f := fun h => hnot (h ▸ hg)
          obtain ⟨hi, hp⟩ := hframe g hne
          exact ⟨hi.trans (habsent' g hg).1, hp.trans (habsent' g hg).2⟩)
      rw [hrun]
      refine ⟨?_, ?_, ?_⟩
      · intro g hg hgsent
        rcases List.mem_cons.mp hg with rfl | hg
        · obtain ⟨hi, hp⟩ := hother g hnot
          obtain ⟨ws, hws, himage⟩ := hsetf
          exact ⟨ws, (getField_congr hi hp).trans hws, himage⟩
        · exact hread g hg hgsent
      · intro g hg hgsent
        rcases List.mem_cons.mp hg with rfl | hg
        · rw [hsent] at hgsent
          cases hgsent
        · exact hno g hg hgsent
      · intro g hg
        have hgf : g ≠ f := fun h => hg (h ▸ List.mem_cons_self)
        obtain ⟨hi, hp⟩ := hother g fun h => hg (List.mem_cons_of_mem f h)
        obtain ⟨hi', hp'⟩ := hframe g hgf
        exact ⟨hi.trans hi', hp.trans hp'⟩

/-- A field of a chunk is set, whatever the reserved bytes of the firmware update hold. -/
theorem set_piece {c d : Config N} {fields : BitVec 64} {f : Field}
    (hsent : sent c fields f = true) {b : List UInt8} (hd : Absent d f)
    (hb : b.take f.size = piece c fields f) : ReadsAs (setField d b f) f (getField c f).2 := by
  have hread : getField c f = (true, (getField c f).2) :=
    Prod.ext (Bool.and_eq_true_iff.mp hsent).2 rfl
  by_cases hf : f = .firmwareUpdate
  · subst hf
    have hlen := length_image (getField_fits c .firmwareUpdate)
    have hfirst : readLE b 0 1 =
        readLE (image .firmwareUpdate (getField c .firmwareUpdate).2) 0 1 := by
      rw [← readLE_take (n := 21) (by decide),
        show b.take 21 = piece c fields .firmwareUpdate from hb,
        piece, if_pos rfl, readLE_append (by rw [List.length_take, hlen]; decide),
        readLE_take (by decide)]
    have hsame : setField d b .firmwareUpdate =
        setField d (image .firmwareUpdate (getField c .firmwareUpdate).2) .firmwareUpdate := by
      simp only [setField, setFirmwareUpdateConfig, hfirst]
    rw [hsame]
    exact setField_roundtrip hread hd ⟨List.take_of_length_le (by omega)⟩
  · exact setField_roundtrip hread hd ⟨by rw [hb, piece, if_neg hf]⟩

/-! ## The round trip -/

/-- The configuration that the chunk of a request gives. -/
theorem setConfig_spec (c : Config N) (fields : BitVec 64) :
    (∀ f, sent c fields f = true →
      ReadsAs (setConfig .empty (getConfig c .zero fields).1 : Config N) f (getField c f).2) ∧
    (∀ f, sent c fields f = false →
      Absent (setConfig .empty (getConfig c .zero fields).1 : Config N) f) := by
  obtain ⟨tail, hget⟩ := getConfig_eq c fields
  rw [hget]
  have hfields : ∀ f, has (fieldsOf (Field.all.filter (sent c fields))) f = sent c fields f := by
    intro f
    rw [Bool.eq_iff_iff, has_fieldsOf, List.mem_filter]
    exact ⟨And.right, fun h => ⟨f.mem_all, h⟩⟩
  obtain ⟨hread, hno, -⟩ := apply_spec c fields
    (⟨fieldsOf (Field.all.filter (sent c fields)), (contentOf c fields).length,
      contentOf c fields ++ tail⟩)
    (fun f hsent d b hd hb => set_piece hsent hd hb) hfields
    (Nat.le_of_lt (length_contentOf_lt c fields)) Field.all [] tail .empty (by decide) rfl rfl
    fun f _ => absent_empty f
  exact ⟨fun f => hread f f.mem_all, fun f => hno f f.mem_all⟩

/-- What is read back: the structures as they were read, with nothing left behind. -/
theorem contentOf_back (c : Config N) {fields request : BitVec 64}
    (hmask : ∀ f, sent c fields f = true → has request f = true) :
    (∀ f, sent (setConfig .empty (getConfig c .zero fields).1 : Config N) request f =
      sent c fields f) ∧
    contentOf (setConfig .empty (getConfig c .zero fields).1 : Config N) request =
      (Field.all.filter (sent c fields)).flatMap fun f => image f (getField c f).2 := by
  obtain ⟨hread, hno⟩ := setConfig_spec c fields
  generalize setConfig Config.empty (getConfig c .zero fields).1 = d at hread hno
  have hsent : ∀ f, sent d request f = sent c fields f := by
    intro f
    cases hf : sent c fields f with
    | true =>
      obtain ⟨ws, hws, -⟩ := hread f hf
      rw [sent, hmask f hf, hws]
      rfl
    | false => rw [sent, (image_absent (hno f hf)).1, Bool.and_false]
  have himage : ∀ f, sent c fields f = true →
      image f (getField d f).2 = image f (getField c f).2 := by
    intro f hf
    obtain ⟨ws, hws, himage⟩ := hread f hf
    rw [hws, himage]
  have hspill : spill d request = zeros 20 := by
    unfold spill
    cases hm : sent c fields .modbus with
    | true =>
      obtain ⟨ws, hws, -⟩ := hread .modbus hm
      simp [hws]
    | false =>
      rw [(image_absent (hno .modbus hm)).2]
      split <;> rfl
  refine ⟨hsent, ?_⟩
  unfold contentOf
  rw [show Field.all.filter (sent d request) = Field.all.filter (sent c fields) from
    List.filter_congr fun f _ => hsent f]
  refine List.flatMap_congr fun f hf => ?_
  have hfs := (List.mem_filter.mp hf).2
  unfold piece
  split
  · rename_i hfw
    subst hfw
    rw [himage _ hfs, hspill]
    obtain ⟨s, hs⟩ := readText_true (Prod.ext (y := (true, _)) (Bool.and_eq_true_iff.mp hfs).2 rfl)
    have hs' : (getField c .firmwareUpdate).2 = [⟨0, toLE 1 (stringToFwUpdatePolicy s)⟩] := hs
    rw [hs', image_first]
    rfl
  · exact himage f hfs

/-- The Modbus structure cannot be read, but the baud rate in it is a number that is not zero, and
the firmware update field is sent behind it. -/
structure StrayBaudrate (c : Config N) (fields : BitVec 64) : Prop where
  modbus : has fields .modbus = true
  firmware : has fields .firmwareUpdate = true
  policy : (getString (some c.user) (Field.name .firmwareUpdate)).isSome = true
  baudrate : ∃ user, c.user.get (Field.name .modbus) = some user ∧ UserUnread user ∧
    (∀ properties, c.properties.get (Field.name .modbus) = some properties →
      PropertiesUnread properties) ∧
    ∃ d, getDouble (user.get "serialConfig") "baudRate" = some d ∧
      N.convert 4 true d % 256 ^ 4 ≠ 0

/-- The part of the Modbus structure under the reserved bytes of the firmware update. -/
theorem Modbus.under_firmware (m : Modbus) : (m.bytes.drop 1).take 20 = toLE 1 m.address ++
    (toLE 4 m.timeout ++ (toLE 1 m.serialMode ++ (toLE 4 m.baudrate ++
      (toLE 1 m.stopBits ++ zeros 9)))) := rfl

/-- What is left behind is the baud rate. -/
theorem spill_zero_iff (c : Config N) (fields : BitVec 64) : spill c fields = zeros 20 ↔
    ¬ (has fields .modbus = true ∧ ∃ user, c.user.get (Field.name .modbus) = some user ∧
      UserUnread user ∧ (∀ properties, c.properties.get (Field.name .modbus) = some properties →
        PropertiesUnread properties) ∧
      ∃ d, getDouble (user.get "serialConfig") "baudRate" = some d ∧
        N.convert 4 true d % 256 ^ 4 ≠ 0) := by
  have hmod : ∀ x, toLE 4 x = zeros 4 ↔ x % 256 ^ 4 = 0 := by
    intro x
    constructor
    · intro h
      rw [← ofLE_toLE, h]
      rfl
    · intro h
      rw [← toLE_mod, h]
      rfl
  unfold spill
  cases hhas : has fields .modbus with
  | false => simp
  | true =>
    cases huser : c.user.get (Field.name .modbus) with
    | none =>
      have hgot : getField c .modbus = (false, []) := by
        simp only [getField, getModbusConfig, huser]
      rw [hgot]
      simp only [reduceCtorEq, false_and, exists_false, and_false, not_false_eq_true, iff_true]
      rfl
    | some user =>
      cases hread : (getField c .modbus).1 with
      | true =>
        simp only [Bool.not_true, Bool.and_false, Bool.false_eq_true, if_false, true_and, true_iff]
        rintro ⟨_, ⟨⟩, hu, hp, -⟩
        have hno := (getModbus_unread huser).mpr ⟨hu, hp⟩
        rw [show (getModbusConfig c).1 = true from hread] at hno
        cases hno
      | false =>
        have hbytes := modbus_unread huser hread
        obtain ⟨hu, hp⟩ := (getModbus_unread huser).mp hread
        have hunder : ((image .modbus (getField c .modbus).2).drop 1).take 20 =
            toLE 1 0 ++ (toLE 4 0 ++ (toLE 1 0 ++
              (toLE 4 (numberAt (user.get "serialConfig") "baudRate" 4 true) ++
                (toLE 1 0 ++ zeros 9)))) :=
          (congrArg (fun m => (m.drop 1).take 20) hbytes).trans (Modbus.under_firmware _)
        have hzero : ∀ x, toLE 1 0 ++ (toLE 4 0 ++ (toLE 1 0 ++ (toLE 4 x ++
            (toLE 1 0 ++ zeros 9)))) = zeros 20 ↔ toLE 4 x = zeros 4 := by
          intro x
          constructor
          · intro h
            exact congrArg (fun l => (l.drop 6).take 4) h
          · intro h
            rw [h]
            rfl
        simp only [Bool.not_false, Bool.and_self, if_true, true_and, hunder, hzero, hmod]
        constructor
        · rintro hbaud ⟨_, ⟨⟩, -, -, d, hd, hne⟩
          rw [numberAt, hd] at hbaud
          exact hne hbaud
        · intro hno
          unfold numberAt
          cases hd : getDouble (user.get "serialConfig") "baudRate" with
          | none => rfl
          | some d =>
            by_contra hne
            exact hno ⟨user, rfl, hu, hp, d, hd, hne⟩

/-- **A transfer that is complete**: every chunk has the size of its fields and is not too large,
every requested field that can be read is sent once and nothing else is, and an empty configuration
that the chunks are applied to reads back as they were sent. -/
structure Complete (c : Config N) (fields : BitVec 64) (chunks : List Chunk) : Prop where
  size : ∀ ch ∈ chunks, ch.configSize ≤ deviceConfigMaxsize ∧
    ch.configSize = ((Field.all.filter (has ch.fields)).map Field.size).sum
  once : ∀ f, (chunks.filter fun ch => has ch.fields f).length =
    if has fields f = true ∧ (getField c f).1 = true then 1 else 0
  known : ∀ ch ∈ chunks, ∀ i, ch.fields.getLsbD i = true → ∃ f : Field, f.bit = i
  back : ∀ ch ∈ chunks, ∀ request : BitVec 64,
    (∀ f, has ch.fields f = true → has request f = true) →
    (getConfig (chunks.foldl setConfig (Config.empty : Config N)) .zero request).1.fields =
      ch.fields ∧
    (getConfig (chunks.foldl setConfig (Config.empty : Config N)) .zero request).1.content =
      ch.content

/-- The chunk reads back as it was sent, if what it holds are the structures as they were read. -/
theorem getConfig_back (c : Config N) {fields request : BitVec 64}
    (hmask : ∀ f, sent c fields f = true → has request f = true) :
    (getConfig (setConfig (Config.empty : Config N) (getConfig c .zero fields).1) .zero
      request).1.fields = (getConfig c .zero fields).1.fields ∧
    (getConfig (setConfig (Config.empty : Config N) (getConfig c .zero fields).1) .zero
      request).1.content =
      (Field.all.filter (sent c fields)).flatMap fun f => image f (getField c f).2 := by
  obtain ⟨hsent, hcontent⟩ := contentOf_back c hmask
  obtain ⟨tail, hget⟩ := getConfig_eq c fields
  generalize setConfig (Config.empty : Config N) (getConfig c .zero fields).1 = d at hsent hcontent
  obtain ⟨tail', hget'⟩ := getConfig_eq d request
  rw [hget, hget']
  constructor
  · exact congrArg fieldsOf (List.filter_congr fun f _ => hsent f)
  · rw [← hcontent]
    exact List.take_left' rfl

/-- The structures as they were read are what the chunk holds, unless a firmware update stands on
something. -/
theorem content_eq_iff (c : Config N) (fields : BitVec 64) :
    ((Field.all.filter (sent c fields)).flatMap fun f => image f (getField c f).2) =
      contentOf c fields ↔
    ¬ (sent c fields .firmwareUpdate = true ∧ spill c fields ≠ zeros 20) := by
  have hall : Field.all = (early ++ [Field.modbus]) ++ [Field.firmwareUpdate] := rfl
  have hpieces : ((early ++ [Field.modbus]).filter (sent c fields)).flatMap (piece c fields) =
      ((early ++ [Field.modbus]).filter (sent c fields)).flatMap
        fun f => image f (getField c f).2 := by
    refine List.flatMap_congr fun f hf => ?_
    have hne : f ≠ .firmwareUpdate := by
      rintro rfl
      exact absurd (List.mem_filter.mp hf).1 (by decide)
    rw [piece, if_neg hne]
  unfold contentOf
  rw [hall, List.filter_append, List.flatMap_append, List.flatMap_append, hpieces,
    List.append_cancel_left_eq]
  cases hfw : sent c fields .firmwareUpdate with
  | false => simp [hfw]
  | true =>
    obtain ⟨s, hs⟩ := readText_true (Prod.ext (y := (true, _)) (Bool.and_eq_true_iff.mp hfw).2 rfl)
    have hs' : (getField c .firmwareUpdate).2 = [⟨0, toLE 1 (stringToFwUpdatePolicy s)⟩] := hs
    rw [List.filter_cons_of_pos hfw, List.filter_nil, List.flatMap_singleton,
      List.flatMap_singleton, piece, if_pos rfl, hs', image_first]
    have hsplit : ∀ x : UInt8, (x :: List.replicate (Field.size .firmwareUpdate - 1) 0 =
        (x :: List.replicate (Field.size .firmwareUpdate - 1) 0).take 1 ++ spill c fields) ↔
        spill c fields = zeros 20 := by
      intro x
      show x :: zeros 20 = x :: spill c fields ↔ _
      rw [List.cons.injEq]
      exact ⟨fun h => h.2.symm, fun h => ⟨rfl, h.symm⟩⟩
    rw [hsplit]
    simp

theorem stray_iff (c : Config N) (fields : BitVec 64) : StrayBaudrate c fields ↔
    sent c fields .firmwareUpdate = true ∧ spill c fields ≠ zeros 20 := by
  have hread : (getField c .firmwareUpdate).1 =
      (getString (some c.user) (Field.name .firmwareUpdate)).isSome :=
    readText_answer _ _ _ _
  rw [sent, Bool.and_eq_true_iff, hread, ne_eq, spill_zero_iff, Classical.not_not]
  constructor
  · rintro ⟨hm, hf, hp, hb⟩
    exact ⟨⟨hf, hp⟩, hm, hb⟩
  · rintro ⟨⟨hf, hp⟩, hm, hb⟩
    exact ⟨hm, hf, hp, hb⟩

/-- The one chunk of a request, all but its round trip. -/
theorem chunk_spec (c : Config N) (fields : BitVec 64) :
    (getConfig c .zero fields).1.content = contentOf c fields ∧
    (getConfig c .zero fields).1.configSize = (contentOf c fields).length ∧
    (∀ f, has (getConfig c .zero fields).1.fields f = sent c fields f) ∧
    ∀ i, (getConfig c .zero fields).1.fields.getLsbD i = true → ∃ f : Field, f.bit = i := by
  obtain ⟨tail, hget⟩ := getConfig_eq c fields
  rw [hget]
  refine ⟨List.take_left' rfl, rfl, ?_, ?_⟩
  · intro f
    rw [Bool.eq_iff_iff, has_fieldsOf, List.mem_filter]
    exact ⟨And.right, fun h => ⟨f.mem_all, h⟩⟩
  · intro i hi
    rw [getLsbD_fieldsOf, List.any_eq_true] at hi
    obtain ⟨f, -, hf⟩ := hi
    exact ⟨f, eq_of_beq hf⟩

/-- The one chunk of a request is complete when it holds the structures as they were read. -/
theorem complete_chunk (c : Config N) {fields : BitVec 64}
    (h : ((Field.all.filter (sent c fields)).flatMap fun f => image f (getField c f).2) =
      contentOf c fields) : Complete c fields [(getConfig c .zero fields).1] := by
  obtain ⟨hcontent, hsize, hhas, hknown⟩ := chunk_spec c fields
  constructor
  · intro ch hch
    rw [List.mem_singleton] at hch
    subst hch
    rw [hsize]
    refine ⟨Nat.le_of_lt (length_contentOf_lt c fields), ?_⟩
    rw [length_contentOf, List.filter_congr fun f _ => hhas f]
  · intro f
    cases hf : sent c fields f with
    | false =>
      rw [if_neg fun h => by simp [sent, h.1, h.2] at hf]
      simp [hhas, hf]
    | true =>
      rw [if_pos (Bool.and_eq_true_iff.mp hf)]
      simp [hhas, hf]
  · intro ch hch
    rw [List.mem_singleton] at hch
    subst hch
    exact hknown
  · intro ch hch request hmask
    rw [List.mem_singleton] at hch
    subst hch
    obtain ⟨hf, hc⟩ := getConfig_back c fun f hf => hmask f ((hhas f).trans hf)
    rw [List.foldl_cons, List.foldl_nil]
    exact ⟨hf, by rw [hc, h, hcontent]⟩

/-- A complete transfer sent the structures as they were read. -/
theorem content_of_complete {c : Config N} {fields : BitVec 64} {chunks : List Chunk} {n : Nat}
    (hz : fields ≠ 0) (hrun : ∀ fuel, n ≤ fuel → requestConfig c fuel fields = some chunks)
    (h : Complete c fields chunks) :
    ((Field.all.filter (sent c fields)).flatMap fun f => image f (getField c f).2) =
      contentOf c fields := by
  obtain rfl : chunks = [(getConfig c .zero fields).1] := by
    have := (hrun (n + 1) (Nat.le_succ n)).symm.trans (requestConfig_eq c hz n)
    exact Option.some.inj this
  obtain ⟨hcontent, -, hhas, -⟩ := chunk_spec c fields
  have hmask : ∀ f, sent c fields f = true → has fields f = true :=
    fun f hf => (Bool.and_eq_true_iff.mp hf).1
  obtain ⟨-, hback⟩ := h.back _ (List.mem_singleton_self _) fields
    fun f hf => hmask f ((hhas f).symm.trans hf)
  rw [List.foldl_cons, List.foldl_nil, hcontent] at hback
  rw [← hback]
  exact (getConfig_back c hmask).2.symm

/-- **A device configuration is transferred completely** in a loop that ends, exactly unless a baud
rate that does not count as read is left under the firmware update structure. -/
theorem transfer_complete (c : Config N) (fields : BitVec 64) :
    (∃ chunks, (∃ n, ∀ fuel, n ≤ fuel → requestConfig c fuel fields = some chunks) ∧
      Complete c fields chunks) ↔ ¬ StrayBaudrate c fields := by
  rw [stray_iff, ← content_eq_iff]
  by_cases hz : fields = 0
  · subst hz
    have hnone : ∀ f, has 0 f = false := fun f => by simp [has]
    have hsent : ∀ f, ¬ sent c 0 f = true := by
      intro f hf
      have := (Bool.and_eq_true_iff.mp hf).1
      rw [hnone f] at this
      cases this
    constructor
    · intro _
      rw [contentOf, List.filter_eq_nil_iff.mpr fun f _ => hsent f]
      rfl
    · intro _
      refine ⟨[], ⟨0, fun fuel _ => requestConfig_zero c fuel⟩, ?_, ?_, ?_, ?_⟩
      · exact fun _ h => nomatch h
      · intro f
        rw [hnone f]
        rfl
      · exact fun _ h => nomatch h
      · exact fun _ h => nomatch h
  · constructor
    · rintro ⟨chunks, ⟨n, hrun⟩, hcomplete⟩
      exact content_of_complete hz hrun hcomplete
    · intro h
      refine ⟨_, ⟨1, ?_⟩, complete_chunk c h⟩
      intro fuel hfuel
      obtain ⟨k, rfl⟩ := Nat.exists_eq_add_of_le' hfuel
      exact requestConfig_eq c hz k

/-! ## A stray baud rate -/

/-- A rational without its fraction. -/
def truncate (q : ℚ) : Int := q.num.tdiv q.den

theorem truncate_le {q : ℚ} (h0 : 0 ≤ q) (h : q ≤ 100) : 0 ≤ truncate q ∧ truncate q ≤ 100 := by
  have hnum : 0 ≤ q.num := Rat.num_nonneg.mpr h0
  have hle : q.num ≤ 100 * q.den := by
    have hmul : q * q.den ≤ 100 * q.den := by
      gcongr
    rw [Rat.mul_den_eq_num] at hmul
    exact_mod_cast hmul
  constructor
  · exact Int.tdiv_nonneg hnum (Int.natCast_nonneg _)
  · rw [truncate, Int.tdiv_eq_ediv_of_nonneg hnum]
    exact Int.ediv_le_of_le_mul (by exact_mod_cast q.den_pos) hle

/-- Numbers as rationals: a conversion drops the fraction and wraps around. -/
def rationals : Doubles where
  D := ℚ
  ofInt n := n
  convert w _ q := (truncate q % 256 ^ w).toNat
  percent q := decide (0 ≤ q ∧ q ≤ 100)
  convert_ofInt := by
    intro w signed n _ _
    simp [truncate]
  percent_ofInt n h := by
    have : (n : ℚ) ≤ 100 := by exact_mod_cast h
    simp [this]
  convert_percent q h := by
    obtain ⟨h0, h100⟩ := of_decide_eq_true h
    obtain ⟨hlow, hhigh⟩ := truncate_le h0 h100
    omega

/-- `{"modbus":{"serialConfig":{"baudRate":19200}},"firmwareUpdatePolicy":"DISABLED"}`. -/
def strayConfig : Config rationals where
  user := .mk .object
    [(some "modbus", .mk .object
      [(some "serialConfig", .mk .object
        [(some "baudRate", .leaf (.number (rationals.ofInt 19200)))])]),
    (some "firmwareUpdatePolicy", .leaf (.string "DISABLED"))]
  properties := .emptyObject

/-- The firmware update of this configuration is sent with the baud rate in its reserved bytes. -/
theorem stray_baudrate_sent : ¬ ∃ chunks,
    (∃ n, ∀ fuel, n ≤ fuel → requestConfig strayConfig fuel (BitVec.allOnes 64) = some chunks) ∧
      Complete strayConfig (BitVec.allOnes 64) chunks := by
  rintro ⟨chunks, ⟨n, hrun⟩, hcomplete⟩
  have hstray : StrayBaudrate strayConfig (BitVec.allOnes 64) := by
    refine ⟨by decide, by decide, rfl, _, rfl, ⟨rfl, rfl, rfl, rfl, rfl, rfl⟩, ?_, _, rfl, ?_⟩
    · exact fun _ h => nomatch h
    · decide +kernel
  exact (content_eq_iff _ _).mp (content_of_complete (by decide) hrun hcomplete)
    ((stray_iff _ _).mp hstray)

end Device.JsonConfig
