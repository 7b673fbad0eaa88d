import Mathlib.Data.List.Basic
import Mathlib.Data.Nat.Digits.Defs
import ServiceScript.LogLevel

/-!
# ServiceScript — numbers in decimal

A number is written with digits from zero to nine, one or more, and has the value
of each digit at its place. A plus sign in front and zeros in front of the other
digits add nothing to it.

Main definition:

* `Text.InDecimal` — a text is a number in decimal.

Main results:

* `Text.number?_eq_some_iff` — the numbers that are read are those in decimal;
* `Text.inDecimal_zeros_iff` — zeros in front of the digits.
-/

namespace ServiceScript.Text

/-- A text is the number in decimal: digits, one or more, behind a plus sign or
none. The digits are taken from the last one, which counts once. -/
def InDecimal (t : Text) (n : Nat) : Prop :=
  ∃ (sign : Text) (digits : List Nat), (sign = [] ∨ sign = ['+']) ∧ digits ≠ [] ∧
    (∀ d ∈ digits, d < 10) ∧ t = sign ++ digits.map Nat.digitChar ∧
    n = Nat.ofDigits 10 digits.reverse

-- ---------------------------------------------------------------------------
-- The sign
-- ---------------------------------------------------------------------------

/-- What stands behind a plus sign, or all of the text where there is none. -/
def behindPlus : Text → Text
  | '+' :: rest => rest
  | t => t

/-- A number is read off the digits behind the sign, if there are any and no more than
digits. -/
theorem number?_eq (t : Text) :
    t.number? = if behindPlus t ≠ [] ∧ (behindPlus t).all Char.isDigit then
      some ((behindPlus t).foldl (fun n c => 10 * n + (c.toNat - '0'.toNat)) 0) else none := by
  unfold number?
  split
  · rfl
  · next hno =>
    have hwhole : behindPlus t = t := by
      unfold behindPlus
      split
      · next rest => exact absurd rfl (hno rest)
      · rfl
    rw [hwhole]

theorem exists_sign (t : Text) :
    ∃ sign : Text, (sign = [] ∨ sign = ['+']) ∧ t = sign ++ behindPlus t := by
  unfold behindPlus
  split
  · exact ⟨['+'], .inr rfl, rfl⟩
  · exact ⟨[], .inl rfl, rfl⟩

theorem behindPlus_digits {sign : Text} (hsign : sign = [] ∨ sign = ['+']) (digits : List Nat) :
    behindPlus (sign ++ digits.map Nat.digitChar) = digits.map Nat.digitChar := by
  rcases hsign with rfl | rfl
  · rw [List.nil_append]
    unfold behindPlus
    split
    · next rest h =>
      -- no digit is a plus sign
      obtain ⟨d, -, -, hd, -⟩ := List.map_eq_cons_iff.1 h
      exact absurd hd (by simp)
    · rfl
  · rfl

-- ---------------------------------------------------------------------------
-- The digits
-- ---------------------------------------------------------------------------

/-- A digit is the one of its value, which is less than ten. -/
theorem digitChar_sub {c : Char} (h : c.isDigit = true) :
    c.toNat - '0'.toNat < 10 ∧ Nat.digitChar (c.toNat - '0'.toNat) = c := by
  rw [Char.isDigit_iff_toNat] at h
  have hzero : '0'.toNat = 48 := rfl
  have hnine : '9'.toNat = 57 := rfl
  have hlt : c.toNat - '0'.toNat < 10 := by omega
  refine ⟨hlt, Char.toNat_inj.1 ?_⟩
  rw [Nat.toNat_digitChar_of_lt_ten hlt]
  omega

/-- The texts of digits are those that are written of values less than ten. -/
theorem all_isDigit_iff (t : Text) :
    t.all Char.isDigit = true ↔ ∃ digits : List Nat, (∀ d ∈ digits, d < 10) ∧
      t = digits.map Nat.digitChar := by
  rw [List.all_eq_true]
  constructor
  · intro h
    refine ⟨t.map fun c => c.toNat - '0'.toNat, ?_, ?_⟩
    · intro d hd
      obtain ⟨c, hc, rfl⟩ := List.mem_map.1 hd
      exact (digitChar_sub (h c hc)).1
    · have hsame : ∀ c ∈ t, (Nat.digitChar ∘ fun c => c.toNat - '0'.toNat) c = id c :=
        fun c hc => (digitChar_sub (h c hc)).2
      rw [List.map_map, List.map_congr_left hsame, List.map_id]
  · rintro ⟨digits, hlt, rfl⟩ c hc
    obtain ⟨d, hd, rfl⟩ := List.mem_map.1 hc
    rw [Nat.isDigit_digitChar]
    exact decide_eq_true (hlt d hd)

/-- Digits that are read one behind the other have the value of each at its place. -/
theorem foldl_digitChar {digits : List Nat} (h : ∀ d ∈ digits, d < 10) :
    (digits.map Nat.digitChar).foldl (fun n c => 10 * n + (c.toNat - '0'.toNat)) 0 =
      Nat.ofDigits 10 digits.reverse := by
  rw [Nat.ofDigits_eq_foldr, List.foldr_reverse, List.foldl_map]
  apply List.foldl_ext
  intro n d hd
  show 10 * n + (d.digitChar.toNat - 48) = d + 10 * n
  rw [Nat.toNat_digitChar_sub_48_of_lt_ten (h d hd), Nat.add_comm]

-- ---------------------------------------------------------------------------
-- Numbers
-- ---------------------------------------------------------------------------

/-- A text is read as a number exactly if it is that number in decimal. -/
theorem number?_eq_some_iff {t : Text} {n : Nat} : t.number? = some n ↔ InDecimal t n := by
  rw [number?_eq]
  constructor
  · intro h
    split at h
    · next hdigits =>
      obtain ⟨hne, hall⟩ := hdigits
      obtain ⟨sign, hsign, hwhole⟩ := exists_sign t
      obtain ⟨digits, hlt, hbehind⟩ := (all_isDigit_iff _).1 hall
      rw [hbehind] at hne h hwhole
      rw [foldl_digitChar hlt] at h
      exact ⟨sign, digits, hsign, by simpa using hne, hlt, hwhole, (Option.some.inj h).symm⟩
    · cases h
  · rintro ⟨sign, digits, hsign, hne, hlt, rfl, rfl⟩
    rw [behindPlus_digits hsign, foldl_digitChar hlt]
    exact if_pos ⟨by simpa using hne, (all_isDigit_iff _).2 ⟨digits, hlt, rfl⟩⟩

/-- Digits behind a sign are the number with those digits to base ten. -/
theorem inDecimal_digits_iff {sign : Text} {digits : List Nat} (hsign : sign = [] ∨ sign = ['+'])
    (hne : digits ≠ []) (hlt : ∀ d ∈ digits, d < 10) (n : Nat) :
    InDecimal (sign ++ digits.map Nat.digitChar) n ↔ n = Nat.ofDigits 10 digits.reverse := by
  have hvalue : InDecimal (sign ++ digits.map Nat.digitChar) (Nat.ofDigits 10 digits.reverse) :=
    ⟨sign, digits, hsign, hne, hlt, rfl, rfl⟩
  constructor
  · intro h
    -- there is one number that is read
    rw [← number?_eq_some_iff] at h hvalue
    exact Option.some.inj (h.symm.trans hvalue)
  · rintro rfl
    exact hvalue

/-- Zeros in front of the digits do not count. -/
theorem inDecimal_zeros_iff {sign digits : Text} (hsign : sign = [] ∨ sign = ['+'])
    (hne : digits ≠ []) (hdigits : digits.all Char.isDigit = true) (zeros n : Nat) :
    InDecimal (sign ++ (List.replicate zeros '0' ++ digits)) n ↔ InDecimal (sign ++ digits) n := by
  obtain ⟨ds, hlt, rfl⟩ := (all_isDigit_iff digits).1 hdigits
  have hsome : ds ≠ [] := by simpa using hne
  have hzeros : List.replicate zeros '0' ++ ds.map Nat.digitChar =
      (List.replicate zeros 0 ++ ds).map Nat.digitChar := by
    rw [List.map_append, List.map_replicate]
    rfl
  have hall : ∀ d ∈ List.replicate zeros 0 ++ ds, d < 10 := by
    intro d hd
    rcases List.mem_append.1 hd with hzero | hd
    · rw [List.eq_of_mem_replicate hzero]
      omega
    · exact hlt d hd
  rw [hzeros, inDecimal_digits_iff hsign (by simp [hsome]) hall,
    inDecimal_digits_iff hsign hsome hlt, List.reverse_append, List.reverse_replicate,
    Nat.ofDigits_append_replicate_zero]

theorem InDecimal.ne_nil {t : Text} {n : Nat} (h : InDecimal t n) : t ≠ [] := by
  obtain ⟨sign, digits, -, hne, -, rfl, -⟩ := h
  simp [hne]

/-- A plus sign and the digits come before all letters. -/
theorem InDecimal.lt_of_mem {t : Text} {n : Nat} (h : InDecimal t n) {c : Char} (hc : c ∈ t) :
    c.toNat < 65 := by
  obtain ⟨sign, digits, hsign, -, hlt, rfl, -⟩ := h
  rcases List.mem_append.1 hc with hc | hc
  · rcases hsign with rfl | rfl
    · cases hc
    · rw [List.mem_singleton.1 hc]
      decide
  · obtain ⟨d, hd, rfl⟩ := List.mem_map.1 hc
    have hd := hlt d hd
    rw [Nat.toNat_digitChar_of_lt_ten hd]
    omega

end ServiceScript.Text
