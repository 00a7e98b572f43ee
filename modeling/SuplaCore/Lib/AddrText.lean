import Mathlib.Data.List.Basic

/-!
# Addresses as text

What the C library makes of the address of a host and of a device: `inet_ntop` and `inet_pton` for
`AF_INET`, the format `%02X` of `snprintf` and the conversion `%x` of `sscanf`, each field but the
first behind a colon. What is written is read back.
-/

namespace AddrText

/-! ## Addresses of hosts -/

/-- The value of a decimal digit. -/
def decimal? (c : Char) : Option Nat := if c.isDigit then some (c.toNat - '0'.toNat) else none

/-- `inet_ntop`: the bytes of the address in their order in memory. -/
def inetNtop (a b c d : Nat) : List Char :=
  Nat.toDigits 10 a ++ '.' :: (Nat.toDigits 10 b ++ '.' :: (Nat.toDigits 10 c ++ '.' ::
    Nat.toDigits 10 d))

/-- A digit of an octet: nothing may follow a zero, and the octet is a byte. -/
def octetDigit (octet : Option Nat) (digit : Nat) : Option Nat :=
  if octet = some 0 then none
  else
    let new := octet.getD 0 * 10 + digit
    if new > 255 then none else some new

/-- `inet_pton` behind some octets, and the digits of one so far. -/
def inetPtonFrom : List Char → (octets : List Nat) → (octet : Option Nat) → Option (List Nat)
  | [], octets, octet =>
    match octet with
    | some new => if octets.length + 1 < 4 then none else some (octets ++ [new])
    | none => none
  | ch :: rest, octets, octet =>
    match decimal? ch, octet with
    | some digit, _ =>
      match octetDigit octet digit with
      | some new => if octets.length + 1 > 4 then none else inetPtonFrom rest octets (some new)
      | none => none
    | none, some new =>
      if ch = '.' then
        if octets.length + 1 = 4 then none else inetPtonFrom rest (octets ++ [new]) none
      else none
    | none, none => none

/-- `inet_pton`. -/
def inetPton (src : List Char) : Option (List Nat) := inetPtonFrom src [] none

/-! ## Hexadecimal numbers -/

/-- `isspace` in the C locale. -/
def isSpace (c : Char) : Bool := decide (c = ' ' ∨ 9 ≤ c.toNat ∧ c.toNat ≤ 13)

/-- The value of a hexadecimal digit. -/
def hex? (c : Char) : Option Nat :=
  if c.isDigit then some (c.toNat - '0'.toNat)
  else if 'A' ≤ c ∧ c ≤ 'F' then some (c.toNat - 'A'.toNat + 10)
  else if 'a' ≤ c ∧ c ≤ 'f' then some (c.toNat - 'a'.toNat + 10)
  else none

def isHex (c : Char) : Bool := (hex? c).isSome

def hexValue (digits : List Char) : Nat := digits.foldl (fun v c => v * 16 + (hex? c).getD 0) 0

/-- `%02X` of a byte. -/
def hexByte (b : Nat) : List Char := [(b / 16).digitChar.toUpper, (b % 16).digitChar.toUpper]

/-- `%x`: white space, a sign, a prefix, and at least one digit. -/
def scanHex (s : List Char) : Option (Int × List Char) :=
  let s := s.dropWhile isSpace
  let neg := decide (s.head? = some '-')
  let s := if s.head? = some '-' ∨ s.head? = some '+' then s.tail else s
  let s := if s.take 2 = ['0', 'x'] ∨ s.take 2 = ['0', 'X'] then s.drop 2 else s
  let digits := s.takeWhile isHex
  if digits = [] then none
  else some (if neg then -(hexValue digits : Int) else hexValue digits, s.dropWhile isHex)

/-- As many conversions, if all succeed. -/
def scanHexs : Nat → List Char → Option (List Int)
  | 0, _ => some []
  | n + 1, s =>
    match scanHex s with
    | some (v, rest) =>
      match n, rest with
      | 0, _ => some [v]
      | n + 1, ':' :: rest => (scanHexs (n + 1) rest).map (v :: ·)
      | _ + 1, _ => none
    | none => none

/-- Bytes with colons in between. -/
def hexBytes : List Nat → List Char
  | [] => []
  | [b] => hexByte b
  | b :: bs => hexByte b ++ ':' :: hexBytes bs

/-! ## Reading what was written -/

theorem inetPtonFrom_digits (digits rest : List Char) (octets : List Nat)
    (hroom : octets.length < 4) : ∀ {octet octet' : Option Nat},
    digits.foldlM (fun octet c => ((decimal? c).bind (octetDigit octet)).map some) octet =
      some octet' →
    inetPtonFrom (digits ++ rest) octets octet = inetPtonFrom rest octets octet' := by
  induction digits with
  | nil =>
    intro octet octet' h
    cases h
    rfl
  | cons c digits ih =>
    intro octet octet' h
    simp only [List.foldlM_cons, Option.bind_eq_bind, Option.bind_eq_some_iff,
      Option.map_eq_some_iff] at h
    obtain ⟨_, ⟨new, ⟨digit, hdigit, hoctet⟩, rfl⟩, hrest⟩ := h
    have hnot : ¬ octets.length + 1 > 4 := by omega
    simp only [List.cons_append, inetPtonFrom, hdigit, hoctet, if_neg hnot]
    exact ih hrest

/-- The digits of a byte. -/
theorem octet_digits : ∀ n < 256, (Nat.toDigits 10 n).foldlM
    (fun octet c => ((decimal? c).bind (octetDigit octet)).map some) none = some (some n) := by
  decide +kernel

theorem inetPton_inetNtop {a b c d : Nat} (ha : a < 256) (hb : b < 256) (hc : c < 256)
    (hd : d < 256) : inetPton (inetNtop a b c d) = some [a, b, c, d] := by
  have hdot : ∀ (rest : List Char) (octets : List Nat) (n : Nat), octets.length + 1 ≠ 4 →
      inetPtonFrom ('.' :: rest) octets (some n) = inetPtonFrom rest (octets ++ [n]) none := by
    intro rest octets n hlength
    simp [inetPtonFrom, decimal?, hlength]
  have hlast := inetPtonFrom_digits (Nat.toDigits 10 d) [] [a, b, c] (by simp) (octet_digits d hd)
  rw [List.append_nil] at hlast
  rw [inetPton, inetNtop, inetPtonFrom_digits _ _ _ (by simp) (octet_digits a ha),
    hdot _ _ _ (by simp), inetPtonFrom_digits _ _ _ (by simp) (octet_digits b hb),
    hdot _ _ _ (by simp), inetPtonFrom_digits _ _ _ (by simp) (octet_digits c hc),
    hdot _ _ _ (by simp)]
  exact hlast

/-- The digits that are written. -/
theorem hex_digit : ∀ d < 16, isSpace d.digitChar.toUpper = false ∧ d.digitChar.toUpper ≠ '-' ∧
    d.digitChar.toUpper ≠ '+' ∧ d.digitChar.toUpper ≠ 'x' ∧ d.digitChar.toUpper ≠ 'X' ∧
    hex? d.digitChar.toUpper = some d := by
  decide

theorem scanHex_hexByte {b : Nat} (hb : b < 256) {rest : List Char}
    (hrest : ∀ c ∈ rest.head?, isHex c = false) :
    scanHex (hexByte b ++ rest) = some ((b : Int), rest) := by
  obtain ⟨hspace, hminus, hplus, -, -, hhigh⟩ := hex_digit (b / 16) (by omega)
  obtain ⟨-, -, -, hx, hX, hlow⟩ := hex_digit (b % 16) (by omega)
  have hdigit : isHex (b / 16).digitChar.toUpper = true ∧
      isHex (b % 16).digitChar.toUpper = true := by
    simp [isHex, hhigh, hlow]
  have hstop : rest.takeWhile isHex = [] ∧ rest.dropWhile isHex = rest := by
    cases rest with
    | nil => exact ⟨rfl, rfl⟩
    | cons c rest =>
      have hc : isHex c = false := hrest c rfl
      simp [hc]
  have hvalue : hexValue [(b / 16).digitChar.toUpper, (b % 16).digitChar.toUpper] = b := by
    simp only [hexValue, List.foldl_cons, List.foldl_nil, hhigh, hlow, Option.getD_some]
    omega
  simp [scanHex, hexByte, hspace, hminus, hplus, hx, hX, hdigit, hstop, hvalue]

theorem scanHexs_hexBytes : ∀ {bs : List Nat}, (∀ b ∈ bs, b < 256) →
    scanHexs bs.length (hexBytes bs) = some (bs.map Int.ofNat) := by
  intro bs
  induction bs with
  | nil => exact fun _ => rfl
  | cons b rest ih =>
    intro hbytes
    have hb : b < 256 := hbytes b List.mem_cons_self
    cases rest with
    | nil =>
      have hscan : scanHex (hexByte b ++ []) = some ((b : Int), []) :=
        scanHex_hexByte hb (by simp)
      rw [List.append_nil] at hscan
      simp [scanHexs, hexBytes, hscan]
    | cons b' rest =>
      have hscan : scanHex (hexByte b ++ ':' :: hexBytes (b' :: rest)) =
          some ((b : Int), ':' :: hexBytes (b' :: rest)) := by
        apply scanHex_hexByte hb
        intro c hc
        cases hc
        rfl
      have hrest := ih fun b hb => hbytes b (List.mem_cons_of_mem _ hb)
      rw [List.length_cons] at hrest
      simp only [List.length_cons, scanHexs, hexBytes, hscan, hrest]
      rfl

theorem length_hexBytes (b : Nat) (bs : List Nat) :
    (hexBytes (b :: bs)).length = 3 * bs.length + 2 := by
  induction bs generalizing b with
  | nil => rfl
  | cons b' bs ih =>
    rw [hexBytes, List.length_append, List.length_cons, ih, List.length_cons]
    · show 2 + _ = _
      omega
    · simp

/-! ## Sizes -/

theorem utf8ByteSize_ofList {text : List Char} (h : ∀ c ∈ text, c.utf8Size = 1) :
    (String.ofList text).utf8ByteSize = text.length := by
  induction text with
  | nil => rfl
  | cons c text ih =>
    rw [String.ofList_cons, String.utf8ByteSize_append, String.utf8ByteSize_singleton,
      h c List.mem_cons_self, ih fun c hc => h c (List.mem_cons_of_mem _ hc), List.length_cons,
      Nat.add_comm]

theorem utf8Size_hexByte {b : Nat} (hb : b < 256) : ∀ c ∈ hexByte b, c.utf8Size = 1 := by
  have hdigit : ∀ d < 16, d.digitChar.toUpper.utf8Size = 1 := by decide
  intro c hc
  simp only [hexByte, List.mem_cons, List.not_mem_nil, or_false] at hc
  obtain rfl | rfl := hc
  · exact hdigit _ (by omega)
  · exact hdigit _ (by omega)

theorem utf8Size_hexBytes {bs : List Nat} (hbytes : ∀ b ∈ bs, b < 256) :
    ∀ c ∈ hexBytes bs, c.utf8Size = 1 := by
  induction bs with
  | nil => exact fun c hc => absurd hc List.not_mem_nil
  | cons b rest ih =>
    have hb := utf8Size_hexByte (hbytes b List.mem_cons_self)
    have hrest := ih fun b hb => hbytes b (List.mem_cons_of_mem _ hb)
    cases rest with
    | nil => exact hb
    | cons b' rest =>
      intro c hc
      rw [hexBytes, List.mem_append, List.mem_cons] at hc
      · obtain hfirst | rfl | hmem := hc
        · exact hb c hfirst
        · rfl
        · exact hrest c hmem
      · simp

/-- The size of the text of some bytes. -/
theorem utf8ByteSize_hexBytes {b : Nat} {bs : List Nat} (hbytes : ∀ b' ∈ b :: bs, b' < 256) :
    (String.ofList (hexBytes (b :: bs))).utf8ByteSize = 3 * bs.length + 2 := by
  rw [utf8ByteSize_ofList (utf8Size_hexBytes hbytes), length_hexBytes]

end AddrText
