import Mathlib.Algebra.Group.Nat.Defs
import ServiceScript.Proofs.Text.Delimited

/-!
# ServiceScript — reading bytes as text

The reader of bytes takes one byte at a time, and between two bytes all it has is
the beginning of a character. What such a beginning can still become is said here
by the codes that it **begins**: those whose high bits have been read. From there,
both directions are one induction on the bytes. The bytes of a text are read as
the text; and whatever the bytes are, the pieces that are found stand for all of
them, a character for its own bytes and a stray stretch for itself.

Main definitions:

* `Utf8.continuation` — the last bytes of a character;
* `Utf8.Opened.Begins`, `Utf8.Opened.Sound` — what an open character can become.

Main results:

* `Utf8.pieces_encode`, `Utf8.decodeLossy_encode`, `Utf8.decode?_encode` — the bytes of a
  text are read back;
* `Utf8.flatMap_bytes_pieces` — reading loses nothing and makes nothing up;
* `Utf8.decodeLossy_eq_iff` — a text without U+FFFD is read from its own bytes only.
-/

namespace ServiceScript.Utf8

-- ---------------------------------------------------------------------------
-- The bytes of a character
-- ---------------------------------------------------------------------------

/-- The last `n` bytes of the character with a code. Each has six bits of it. -/
def continuation (code : Nat) : Nat → Bytes
  | 0 => []
  | n + 1 => UInt8.ofNat (code / 64 ^ n % 64 + 0x80) :: continuation code n

/-- No code of a character is a surrogate. -/
theorem valid_toNat (c : Char) :
    c.toNat < 0xD800 ∨ 0xDFFF < c.toNat ∧ c.toNat < 0x110000 := c.valid

theorem toNat_ofNat {n : Nat} (h : n < 256) : (UInt8.ofNat n).toNat = n :=
  UInt8.toNat_ofNat_of_lt' h

/-- A character of ASCII is one byte, its code. -/
theorem encodeChar_one {c : Char} (h : c.toNat < 0x80) :
    String.utf8EncodeChar c = [UInt8.ofNat c.toNat] :=
  if_pos (show c.toNat ≤ 127 by omega)

/-- The two bytes of a character below U+0800. -/
theorem encodeChar_two {c : Char} (hlow : 0x80 ≤ c.toNat) (hhigh : c.toNat < 0x800) :
    String.utf8EncodeChar c =
      UInt8.ofNat (c.toNat / 64 + 0xC0) :: continuation c.toNat 1 := by
  have hlead : c.toNat / 64 % 32 = c.toNat / 64 := by omega
  show (if c.toNat ≤ 127 then _ else if c.toNat ≤ 2047 then _ else _) = _
  rw [if_neg (by omega), if_pos (by omega), ← hlead]
  simp [continuation, hlead]

theorem encodeChar_three {c : Char} (hlow : 0x800 ≤ c.toNat) (hhigh : c.toNat < 0x10000) :
    String.utf8EncodeChar c =
      UInt8.ofNat (c.toNat / 64 ^ 2 + 0xE0) :: continuation c.toNat 2 := by
  have hlead : c.toNat / 4096 % 16 = c.toNat / 4096 := by omega
  show (if c.toNat ≤ 127 then _ else if c.toNat ≤ 2047 then _ else
    if c.toNat ≤ 65535 then _ else _) = _
  rw [if_neg (by omega), if_neg (by omega), if_pos (by omega)]
  simp [continuation, hlead]

theorem encodeChar_four {c : Char} (hlow : 0x10000 ≤ c.toNat) :
    String.utf8EncodeChar c =
      UInt8.ofNat (c.toNat / 64 ^ 3 + 0xF0) :: continuation c.toNat 3 := by
  have hvalid := valid_toNat c
  have hlead : c.toNat / 262144 % 8 = c.toNat / 262144 := by omega
  show (if c.toNat ≤ 127 then _ else if c.toNat ≤ 2047 then _ else
    if c.toNat ≤ 65535 then _ else _) = _
  rw [if_neg (by omega), if_neg (by omega), if_neg (by omega)]
  simp [continuation, hlead]

/-- The bytes behind the first one are not in ASCII. -/
theorem le_of_mem_continuation {code n : Nat} {b : UInt8} (h : b ∈ continuation code n) :
    0x80 ≤ b.toNat := by
  induction n with
  | zero => cases h
  | succ n ih =>
    rcases List.mem_cons.1 h with rfl | hrest
    · rw [toNat_ofNat (by omega)]
      exact Nat.le_add_left _ _
    · exact ih hrest

-- ---------------------------------------------------------------------------
-- The first byte
-- ---------------------------------------------------------------------------

theorem begin_one {b : UInt8} (h : b.toNat < 0x80) :
    begin b = ([.char (Char.ofNat b.toNat)], none) :=
  if_pos (UInt8.lt_iff_toNat_lt.2 h)

/-- A first byte that announces one more. -/
theorem begin_two {b : UInt8} (hlow : 0xC2 ≤ b.toNat) (hhigh : b.toNat < 0xE0) :
    begin b = ([], some ⟨[b], b.toNat - 0xC0, 1, 0x80, 0xBF⟩) := by
  have h : ¬ b < 0x80 ∧ ¬ b < 0xC2 ∧ b < 0xE0 := by
    simp [UInt8.lt_iff_toNat_lt]
    omega
  rw [begin, if_neg h.1, if_neg h.2.1, if_pos h.2.2]

/-- A first byte that announces two more. The second one has narrower bounds behind 0xE0
and 0xED, which rule out longer forms than needed and surrogates. -/
theorem begin_three {b : UInt8} (hlow : 0xE0 ≤ b.toNat) (hhigh : b.toNat < 0xF0) :
    begin b = ([], some ⟨[b], b.toNat - 0xE0, 2, if b = 0xE0 then 0xA0 else 0x80,
      if b = 0xED then 0x9F else 0xBF⟩) := by
  have h : ¬ b < 0x80 ∧ ¬ b < 0xC2 ∧ ¬ b < 0xE0 ∧ b < 0xF0 := by
    simp [UInt8.lt_iff_toNat_lt]
    omega
  rw [begin, if_neg h.1, if_neg h.2.1, if_neg h.2.2.1, if_pos h.2.2.2]

/-- A first byte that announces three more. The second one has narrower bounds behind
0xF0 and 0xF4, which rule out longer forms than needed and codes past the last. -/
theorem begin_four {b : UInt8} (hlow : 0xF0 ≤ b.toNat) (hhigh : b.toNat < 0xF5) :
    begin b = ([], some ⟨[b], b.toNat - 0xF0, 3, if b = 0xF0 then 0x90 else 0x80,
      if b = 0xF4 then 0x8F else 0xBF⟩) := by
  have h : ¬ b < 0x80 ∧ ¬ b < 0xC2 ∧ ¬ b < 0xE0 ∧ ¬ b < 0xF0 ∧ b < 0xF5 := by
    simp [UInt8.lt_iff_toNat_lt]
    omega
  rw [begin, if_neg h.1, if_neg h.2.1, if_neg h.2.2.1, if_neg h.2.2.2.1, if_pos h.2.2.2.2]

/-- Any other byte begins no character. -/
theorem begin_stray {b : UInt8} (hlow : 0x80 ≤ b.toNat) (h : b.toNat < 0xC2 ∨ 0xF5 ≤ b.toNat) :
    begin b = ([.stray [b]], none) := by
  have hne : ¬ b < 0x80 := by
    simp [UInt8.lt_iff_toNat_lt]
    omega
  rcases h with hlt | hle
  · have hc : b < 0xC2 := by
      simp [UInt8.lt_iff_toNat_lt]
      omega
    rw [begin, if_neg hne, if_pos hc]
  · have hc : ¬ b < 0xC2 ∧ ¬ b < 0xE0 ∧ ¬ b < 0xF0 ∧ ¬ b < 0xF5 := by
      simp [UInt8.lt_iff_toNat_lt]
      omega
    rw [begin, if_neg hne, if_neg hc.1, if_neg hc.2.1, if_neg hc.2.2.1, if_neg hc.2.2.2]

-- ---------------------------------------------------------------------------
-- Open characters
-- ---------------------------------------------------------------------------

/-- An open character is the beginning of the one with that code: its bits are the
high bits of the code, and the bounds let the next bits pass. -/
structure Opened.Begins (o : Opened) (code : Nat) : Prop where
  bits : o.code = code / 64 ^ o.missing
  low : o.low.toNat ≤ code / 64 ^ (o.missing - 1) % 64 + 0x80
  high : code / 64 ^ (o.missing - 1) % 64 + 0x80 ≤ o.high.toNat

/-- The open character with one byte more, if there is more than one to come. -/
def Opened.next (o : Opened) (b : UInt8) : Opened :=
  ⟨o.bytes ++ [b], o.code * 64 + (b.toNat - 0x80), o.missing - 1, 0x80, 0xBF⟩

/-- The last byte that an open character waits for closes it. -/
theorem step_of_last {o : Opened} {b : UInt8} (hb : o.low ≤ b ∧ b ≤ o.high)
    (h : o.missing = 1) :
    step (some o) b = ([.char (Char.ofNat (o.code * 64 + (b.toNat - 0x80)))], none) := by
  simp only [step, if_pos hb, if_pos h]

theorem step_of_more {o : Opened} {b : UInt8} (hb : o.low ≤ b ∧ b ≤ o.high)
    (h : o.missing ≠ 1) : step (some o) b = ([], some (o.next b)) := by
  simp only [step, if_pos hb, if_neg h, Opened.next]

/-- A byte out of bounds leaves the open character stray, and is read anew. -/
theorem step_of_break {o : Opened} {b : UInt8} (hb : ¬ (o.low ≤ b ∧ b ≤ o.high)) :
    step (some o) b = (.stray o.bytes :: (begin b).1, (begin b).2) := by
  simp only [step, if_neg hb]

theorem scan_cons (state : Option Opened) (b : UInt8) (rest : Bytes) :
    scan state (b :: rest) = (step state b).1 ++ scan (step state b).2 rest := by
  cases state <;> rfl

theorem div_pow_succ (code n : Nat) :
    code / 64 ^ (n + 1) * 64 + code / 64 ^ n % 64 = code / 64 ^ n := by
  rw [Nat.pow_succ, ← Nat.div_div_eq_div_mul]
  omega

/-- The next byte of a code that an open character begins. -/
theorem Opened.Begins.step {o : Opened} {code n : Nat} (h : o.Begins code)
    (hmissing : o.missing = n + 1) :
    let b := UInt8.ofNat (code / 64 ^ n % 64 + 0x80)
    (o.low ≤ b ∧ b ≤ o.high) ∧ o.code * 64 + (b.toNat - 0x80) = code / 64 ^ n := by
  intro b
  obtain ⟨hbits, hlow, hhigh⟩ := h
  rw [hmissing] at hbits hlow hhigh
  rw [Nat.add_sub_cancel] at hlow hhigh
  have hb : b.toNat = code / 64 ^ n % 64 + 0x80 := toNat_ofNat (by omega)
  rw [UInt8.le_iff_toNat_le, UInt8.le_iff_toNat_le, hb, Nat.add_sub_cancel, hbits]
  exact ⟨⟨hlow, hhigh⟩, div_pow_succ code n⟩

/-- An open character is completed by the bytes that are missing of a code that it
begins. -/
theorem scan_continuation {o : Opened} {code n : Nat} (hmissing : o.missing = n + 1)
    (h : o.Begins code) (rest : Bytes) :
    scan (some o) (continuation code (n + 1) ++ rest) =
      .char (Char.ofNat code) :: scan none rest := by
  -- each byte takes six bits of the code, highest first
  induction n generalizing o with
  | zero =>
    obtain ⟨hb, hcode⟩ := h.step hmissing
    rw [continuation, List.cons_append, scan_cons, step_of_last hb hmissing, hcode]
    simp [continuation]
  | succ n ih =>
    obtain ⟨hb, hcode⟩ := h.step hmissing
    have hmore : o.missing ≠ 1 := by omega
    rw [continuation, List.cons_append, scan_cons, step_of_more hb hmore, List.nil_append]
    have hnext : (o.next (UInt8.ofNat (code / 64 ^ (n + 1) % 64 + 0x80))).missing = n + 1 := by
      show o.missing - 1 = n + 1
      omega
    refine ih hnext ⟨?_, ?_, ?_⟩
    · rw [hnext]
      exact hcode
    · show 0x80 ≤ _
      exact Nat.le_add_left _ _
    · show _ ≤ 0xBF
      omega

/-- The first of two bytes opens the character that they are of. -/
theorem begins_two {code : Nat} (hlow : 0x80 ≤ code) (hhigh : code < 0x800) :
    ∃ o, begin (UInt8.ofNat (code / 64 + 0xC0)) = ([], some o) ∧ o.missing = 1 ∧
      o.Begins code := by
  have hb : (UInt8.ofNat (code / 64 + 0xC0)).toNat = code / 64 + 0xC0 := toNat_ofNat (by omega)
  have hbits : (UInt8.ofNat (code / 64 + 0xC0)).toNat - 0xC0 = code / 64 := by omega
  have hlast : code / 64 ^ 0 % 64 + 0x80 ≤ 0xBF := by omega
  exact ⟨_, begin_two (by omega) (by omega), rfl, hbits, Nat.le_add_left _ _, hlast⟩

/-- A bound on the second byte that depends on the first one. -/
theorem toNat_ite_le (b k x y : UInt8) (n : Nat) :
    (if b = k then x else y).toNat ≤ n ↔
      (b.toNat = k.toNat → x.toNat ≤ n) ∧ (b.toNat ≠ k.toNat → y.toNat ≤ n) := by
  rw [Ne, UInt8.toNat_inj]
  split
  · next h => simp [h]
  · next h => simp [h]

theorem le_toNat_ite (b k x y : UInt8) (n : Nat) :
    n ≤ (if b = k then x else y).toNat ↔
      (b.toNat = k.toNat → n ≤ x.toNat) ∧ (b.toNat ≠ k.toNat → n ≤ y.toNat) := by
  rw [Ne, UInt8.toNat_inj]
  split
  · next h => simp [h]
  · next h => simp [h]

/-- Three bytes are for codes that do not fit into two, but for those of
surrogates. -/
theorem second_three (b : UInt8) (n : Nat) :
    ((if b = 0xE0 then 0xA0 else 0x80 : UInt8).toNat ≤ n + 0x80 ∧
        n + 0x80 ≤ (if b = 0xED then 0x9F else 0xBF : UInt8).toNat) ↔
      (b.toNat = 0xE0 → 0x20 ≤ n) ∧ (b.toNat = 0xED → n ≤ 0x1F) ∧ n ≤ 0x3F := by
  rw [toNat_ite_le, le_toNat_ite]
  simp
  omega

theorem second_four (b : UInt8) (n : Nat) :
    ((if b = 0xF0 then 0x90 else 0x80 : UInt8).toNat ≤ n + 0x80 ∧
        n + 0x80 ≤ (if b = 0xF4 then 0x8F else 0xBF : UInt8).toNat) ↔
      (b.toNat = 0xF0 → 0x10 ≤ n) ∧ (b.toNat = 0xF4 → n ≤ 0x0F) ∧ n ≤ 0x3F := by
  rw [toNat_ite_le, le_toNat_ite]
  simp
  omega

theorem begins_three {code : Nat} (hlow : 0x800 ≤ code) (hhigh : code < 0x10000)
    (hvalid : code < 0xD800 ∨ 0xDFFF < code) :
    ∃ o, begin (UInt8.ofNat (code / 64 ^ 2 + 0xE0)) = ([], some o) ∧ o.missing = 2 ∧
      o.Begins code := by
  generalize hlead : UInt8.ofNat (code / 64 ^ 2 + 0xE0) = b
  have hb : b.toNat = code / 64 ^ 2 + 0xE0 := by
    rw [← hlead, toNat_ofNat (by omega)]
  have hbits : b.toNat - 0xE0 = code / 64 ^ 2 := by omega
  obtain ⟨hfirst, hlast⟩ := (second_three b (code / 64 % 64)).2 (by omega)
  exact ⟨_, begin_three (by omega) (by omega), rfl, hbits, hfirst, hlast⟩

theorem begins_four {code : Nat} (hlow : 0x10000 ≤ code) (hhigh : code < 0x110000) :
    ∃ o, begin (UInt8.ofNat (code / 64 ^ 3 + 0xF0)) = ([], some o) ∧ o.missing = 3 ∧
      o.Begins code := by
  generalize hlead : UInt8.ofNat (code / 64 ^ 3 + 0xF0) = b
  have hb : b.toNat = code / 64 ^ 3 + 0xF0 := by
    rw [← hlead, toNat_ofNat (by omega)]
  have hbits : b.toNat - 0xF0 = code / 64 ^ 3 := by omega
  obtain ⟨hfirst, hlast⟩ := (second_four b (code / 64 ^ 2 % 64)).2 (by omega)
  exact ⟨_, begin_four (by omega) (by omega), rfl, hbits, hfirst, hlast⟩

/-- A character that is not a single byte, by its first byte. -/
theorem exists_opened_of_le {c : Char} (h : 0x80 ≤ c.toNat) :
    ∃ b n o, String.utf8EncodeChar c = b :: continuation c.toNat (n + 1) ∧
      begin b = ([], some o) ∧ o.missing = n + 1 ∧ o.Begins c.toNat := by
  have hvalid := valid_toNat c
  by_cases htwo : c.toNat < 0x800
  · obtain ⟨o, ho⟩ := begins_two h htwo
    exact ⟨_, 0, o, encodeChar_two h htwo, ho⟩
  · by_cases hthree : c.toNat < 0x10000
    · obtain ⟨o, ho⟩ := begins_three (Nat.not_lt.1 htwo) hthree (by omega)
      exact ⟨_, 1, o, encodeChar_three (by omega) hthree, ho⟩
    · obtain ⟨o, ho⟩ := begins_four (Nat.not_lt.1 hthree) (by omega)
      exact ⟨_, 2, o, encodeChar_four (by omega), ho⟩

/-- The bytes of a character are read as the character. -/
theorem scan_encodeChar (c : Char) (rest : Bytes) :
    scan none (String.utf8EncodeChar c ++ rest) = .char c :: scan none rest := by
  have hchar : Char.ofNat c.toNat = c := Char.ofNat_toNat c
  by_cases hone : c.toNat < 0x80
  · have hb : (UInt8.ofNat c.toNat).toNat = c.toNat := toNat_ofNat (by omega)
    rw [encodeChar_one hone, List.cons_append, scan_cons, step, begin_one (by omega), hb, hchar]
    rfl
  · obtain ⟨b, n, o, hbytes, hbegin, hmissing, hbegins⟩ := exists_opened_of_le (Nat.not_lt.1 hone)
    rw [hbytes, List.cons_append, scan_cons, step, hbegin, List.nil_append,
      scan_continuation hmissing hbegins, hchar]

/-- The bytes of a text are read as its characters. -/
theorem pieces_encode (t : Text) : pieces (encode t) = t.map Piece.char := by
  induction t with
  | nil => rfl
  | cons c rest ih =>
    have hbytes : encode (c :: rest) = String.utf8EncodeChar c ++ encode rest := rfl
    rw [pieces, hbytes, scan_encodeChar]
    exact congrArg _ ih

/-- Nothing is replaced in the bytes of a text. -/
theorem decodeLossy_encode (t : Text) : decodeLossy (encode t) = t := by
  rw [decodeLossy, pieces_encode, List.map_map]
  exact List.map_id t

/-- The bytes of a text are decoded to the text. -/
theorem decode?_encode (t : Text) : decode? (encode t) = some t := by
  rw [decode?, pieces_encode]
  induction t with
  | nil => rfl
  | cons c rest ih =>
    rw [List.map_cons, List.mapM_cons, ih]
    rfl

-- ---------------------------------------------------------------------------
-- Nothing is lost
-- ---------------------------------------------------------------------------

/-- The bytes that a piece stands for. -/
def Piece.bytes : Piece → Bytes
  | .char c => String.utf8EncodeChar c
  | .stray bytes => bytes

/-- The bytes of an open character, if there is one. -/
def heldBytes (state : Option Opened) : Bytes := state.elim [] Opened.bytes

/-- An open character whose bytes are those that every character begins with that
it can become. -/
structure Opened.Sound (o : Opened) : Prop where
  missing : 0 < o.missing
  low : 0x80 ≤ o.low.toNat
  high : o.high.toNat ≤ 0xBF
  char : ∀ code, o.Begins code → ∃ c : Char, c.toNat = code ∧
    String.utf8EncodeChar c = o.bytes ++ continuation code o.missing

/-- Every code up to the last one is one of a character, if it is no surrogate. -/
theorem exists_toNat_eq (code : Nat)
    (h : code < 0xD800 ∨ 0xDFFF < code ∧ code < 0x110000) : ∃ c : Char, c.toNat = code :=
  ⟨Char.ofNatAux code h, rfl⟩

/-- Everything that an open character can become begins with its first byte. -/
theorem sound_two {b : UInt8} (hlow : 0xC2 ≤ b.toNat) (hhigh : b.toNat < 0xE0) :
    Opened.Sound ⟨[b], b.toNat - 0xC0, 1, 0x80, 0xBF⟩ where
  missing := Nat.one_pos
  low := Nat.le_refl _
  high := Nat.le_refl _
  char code h := by
    have hbits : b.toNat - 0xC0 = code / 64 := h.bits
    obtain ⟨c, rfl⟩ := exists_toNat_eq code (by omega)
    have hlead : UInt8.ofNat (c.toNat / 64 + 0xC0) = b := by
      rw [← hbits, Nat.sub_add_cancel (by omega), UInt8.ofNat_toNat]
    refine ⟨c, rfl, ?_⟩
    rw [encodeChar_two (by omega) (by omega), hlead]
    rfl

theorem sound_three {b : UInt8} (hlow : 0xE0 ≤ b.toNat) (hhigh : b.toNat < 0xF0) :
    Opened.Sound ⟨[b], b.toNat - 0xE0, 2, if b = 0xE0 then 0xA0 else 0x80,
      if b = 0xED then 0x9F else 0xBF⟩ where
  missing := Nat.two_pos
  low := (le_toNat_ite _ _ _ _ _).2 ⟨fun _ => by decide, fun _ => by decide⟩
  high := (toNat_ite_le _ _ _ _ _).2 ⟨fun _ => by decide, fun _ => by decide⟩
  char code h := by
    have hbits : b.toNat - 0xE0 = code / 64 ^ 2 := h.bits
    have hsecond := (second_three b (code / 64 % 64)).1 ⟨h.low, h.high⟩
    obtain ⟨c, rfl⟩ := exists_toNat_eq code (by omega)
    have hlead : UInt8.ofNat (c.toNat / 64 ^ 2 + 0xE0) = b := by
      rw [← hbits, Nat.sub_add_cancel hlow, UInt8.ofNat_toNat]
    refine ⟨c, rfl, ?_⟩
    rw [encodeChar_three (by omega) (by omega), hlead]
    rfl

theorem sound_four {b : UInt8} (hlow : 0xF0 ≤ b.toNat) (hhigh : b.toNat < 0xF5) :
    Opened.Sound ⟨[b], b.toNat - 0xF0, 3, if b = 0xF0 then 0x90 else 0x80,
      if b = 0xF4 then 0x8F else 0xBF⟩ where
  missing := Nat.succ_pos 2
  low := (le_toNat_ite _ _ _ _ _).2 ⟨fun _ => by decide, fun _ => by decide⟩
  high := (toNat_ite_le _ _ _ _ _).2 ⟨fun _ => by decide, fun _ => by decide⟩
  char code h := by
    have hbits : b.toNat - 0xF0 = code / 64 ^ 3 := h.bits
    have hsecond := (second_four b (code / 64 ^ 2 % 64)).1 ⟨h.low, h.high⟩
    obtain ⟨c, rfl⟩ := exists_toNat_eq code (by omega)
    have hlead : UInt8.ofNat (c.toNat / 64 ^ 3 + 0xF0) = b := by
      rw [← hbits, Nat.sub_add_cancel hlow, UInt8.ofNat_toNat]
    refine ⟨c, rfl, ?_⟩
    rw [encodeChar_four (by omega), hlead]
    rfl

/-- A first byte is in what is read of it or is held, and what it opens is sound. -/
theorem begin_keeps (b : UInt8) :
    (begin b).1.flatMap Piece.bytes ++ heldBytes (begin b).2 = [b] ∧
      ∀ o ∈ (begin b).2, o.Sound := by
  by_cases hone : b.toNat < 0x80
  · obtain ⟨c, hc⟩ := exists_toNat_eq b.toNat (by omega)
    rw [begin_one hone, ← hc, Char.ofNat_toNat]
    refine ⟨?_, by simp⟩
    simp [Piece.bytes, heldBytes, encodeChar_one (hc ▸ hone), hc]
  · by_cases htwo : 0xC2 ≤ b.toNat ∧ b.toNat < 0xE0
    · rw [begin_two htwo.1 htwo.2]
      simpa [heldBytes] using sound_two htwo.1 htwo.2
    · by_cases hthree : 0xE0 ≤ b.toNat ∧ b.toNat < 0xF0
      · rw [begin_three hthree.1 hthree.2]
        simpa [heldBytes] using sound_three hthree.1 hthree.2
      · by_cases hfour : 0xF0 ≤ b.toNat ∧ b.toNat < 0xF5
        · rw [begin_four hfour.1 hfour.2]
          simpa [heldBytes] using sound_four hfour.1 hfour.2
        · rw [begin_stray (by omega) (by omega)]
          simp [Piece.bytes, heldBytes]

/-- A byte that an open character takes is the next byte of every code that the
longer beginning begins. -/
theorem Opened.Sound.begins_of_next {o : Opened} {b : UInt8} {code n : Nat} (ho : o.Sound)
    (hb : o.low ≤ b ∧ b ≤ o.high) (hmissing : o.missing = n + 1)
    (hcode : o.code * 64 + (b.toNat - 0x80) = code / 64 ^ n) :
    o.Begins code ∧ UInt8.ofNat (code / 64 ^ n % 64 + 0x80) = b := by
  rw [UInt8.le_iff_toNat_le, UInt8.le_iff_toNat_le] at hb
  have hlow := ho.low
  have hhigh := ho.high
  have hbits := div_pow_succ code n
  have hbyte : code / 64 ^ n % 64 + 0x80 = b.toNat := by omega
  refine ⟨⟨?_, ?_, ?_⟩, ?_⟩
  · rw [hmissing]
    omega
  · rw [hmissing, Nat.add_sub_cancel, hbyte]
    exact hb.1
  · rw [hmissing, Nat.add_sub_cancel, hbyte]
    exact hb.2
  · rw [hbyte, UInt8.ofNat_toNat]

/-- A byte within the bounds keeps an open character sound. -/
theorem Opened.Sound.next {o : Opened} {b : UInt8} (ho : o.Sound) (hb : o.low ≤ b ∧ b ≤ o.high)
    (hmore : o.missing ≠ 1) : (o.next b).Sound where
  missing := by
    have hmissing := ho.missing
    show 0 < o.missing - 1
    omega
  low := Nat.le_refl _
  high := Nat.le_refl _
  char code h := by
    obtain ⟨n, hn⟩ : ∃ n, o.missing = n + 2 := ⟨o.missing - 2, by have := ho.missing; omega⟩
    have hnext : (o.next b).missing = n + 1 := by
      show o.missing - 1 = n + 1
      omega
    have hcode := h.bits
    rw [hnext] at hcode
    obtain ⟨hbegins, hbyte⟩ := ho.begins_of_next hb hn hcode
    obtain ⟨c, hc, hbytes⟩ := ho.char code hbegins
    refine ⟨c, hc, ?_⟩
    rw [hbytes, hnext, hn, continuation, hbyte, Opened.next, List.append_assoc]
    rfl

/-- A byte is in what is read of it or is held, with those held before it. -/
theorem step_keeps {state : Option Opened} (hstate : ∀ o ∈ state, o.Sound) (b : UInt8) :
    (step state b).1.flatMap Piece.bytes ++ heldBytes (step state b).2 = heldBytes state ++ [b] ∧
      ∀ o ∈ (step state b).2, o.Sound := by
  cases state with
  | none => exact begin_keeps b
  | some o =>
    have ho : o.Sound := hstate o rfl
    by_cases hb : o.low ≤ b ∧ b ≤ o.high
    · by_cases hlast : o.missing = 1
      · -- the character is complete, and it is the one with these bytes
        obtain ⟨hbegins, hbyte⟩ := ho.begins_of_next (n := 0) hb hlast (Nat.div_one _).symm
        obtain ⟨c, hc, hbytes⟩ := ho.char _ hbegins
        rw [step_of_last hb hlast, ← hc, Char.ofNat_toNat]
        refine ⟨?_, by simp⟩
        rw [hlast, continuation, hbyte, continuation] at hbytes
        simpa [Piece.bytes, heldBytes] using hbytes
      · rw [step_of_more hb hlast]
        refine ⟨rfl, fun p hp => ?_⟩
        rw [← Option.some.inj hp]
        exact ho.next hb hlast
    · obtain ⟨hbytes, hsound⟩ := begin_keeps b
      rw [step_of_break hb]
      refine ⟨?_, hsound⟩
      rw [List.flatMap_cons, List.append_assoc, hbytes]
      rfl

/-- From a sound state on, the pieces of a text have all of its bytes in order. -/
theorem flatMap_bytes_scan {state : Option Opened} (hstate : ∀ o ∈ state, o.Sound)
    (bytes : Bytes) : (scan state bytes).flatMap Piece.bytes = heldBytes state ++ bytes := by
  induction bytes generalizing state with
  | nil => cases state <;> simp [scan, Piece.bytes, heldBytes]
  | cons b rest ih =>
    obtain ⟨hbytes, hsound⟩ := step_keeps hstate b
    rw [scan_cons, List.flatMap_append, ih hsound, ← List.append_assoc, hbytes, List.append_assoc]
    rfl

/-- The pieces that are found stand for all of the bytes. -/
theorem flatMap_bytes_pieces (bytes : Bytes) : (pieces bytes).flatMap Piece.bytes = bytes :=
  flatMap_bytes_scan (by simp) bytes

-- ---------------------------------------------------------------------------
-- Texts that are read
-- ---------------------------------------------------------------------------

/-- A byte below 0x80 is a character by itself and no part of another one. -/
theorem toNat_of_mem_encodeChar {c : Char} {b : UInt8} (h : b ∈ String.utf8EncodeChar c)
    (hb : b.toNat < 0x80) : b.toNat = c.toNat := by
  by_cases hone : c.toNat < 0x80
  · rw [encodeChar_one hone, List.mem_singleton] at h
    rw [h, toNat_ofNat (by omega)]
  · obtain ⟨lead, n, o, hbytes, hbegin, -, -⟩ := exists_opened_of_le (Nat.not_lt.1 hone)
    rw [hbytes] at h
    rcases List.mem_cons.1 h with rfl | hrest
    · -- it would not leave a character open
      rw [begin_one hb] at hbegin
      cases hbegin
    · exact absurd (le_of_mem_continuation hrest) (by omega)

/-- A character of ASCII is in a text exactly if its byte is in the bytes of the text.
-/
theorem mem_encode_iff {c : Char} (hc : c.toNat < 0x80) (t : Text) :
    UInt8.ofNat c.toNat ∈ encode t ↔ c ∈ t := by
  have hbyte : (UInt8.ofNat c.toNat).toNat = c.toNat := toNat_ofNat (by omega)
  unfold encode
  rw [List.mem_flatMap]
  constructor
  · rintro ⟨d, hd, hmem⟩
    have hcode := toNat_of_mem_encodeChar hmem (by omega)
    rw [hbyte] at hcode
    rwa [Char.toNat_inj.1 hcode]
  · intro h
    refine ⟨c, h, ?_⟩
    rw [encodeChar_one hc]
    exact List.mem_cons_self

/-- A character that is read, and not put in for a stretch that is none, has its
bytes among those that are read. -/
theorem subset_of_mem_decodeLossy {c : Char} {bytes : Bytes} (h : c ∈ decodeLossy bytes)
    (hc : c ≠ '\ufffd') : String.utf8EncodeChar c ⊆ bytes := by
  obtain ⟨piece, hpiece, rfl⟩ := List.mem_map.1 h
  cases piece with
  | stray stretch => exact absurd rfl hc
  | char d =>
    intro b hb
    rw [← flatMap_bytes_pieces bytes]
    exact List.mem_flatMap.2 ⟨_, hpiece, hb⟩

/-- Decoding puts no character of ASCII in whose byte was not there. -/
theorem mem_of_mem_decodeLossy {c : Char} (hc : c.toNat < 0x80) {bytes : Bytes}
    (h : c ∈ decodeLossy bytes) : UInt8.ofNat c.toNat ∈ bytes := by
  have hne : c ≠ '\ufffd' := by
    rintro rfl
    exact absurd hc (by decide)
  refine subset_of_mem_decodeLossy h hne ?_
  rw [encodeChar_one hc]
  exact List.mem_cons_self

/-- A text in which nothing was put in is read from its own bytes and no others. -/
theorem decodeLossy_eq_iff {t : Text} (ht : '\ufffd' ∉ t) (bytes : Bytes) :
    decodeLossy bytes = t ↔ bytes = encode t := by
  constructor
  · intro h
    have hpieces : ∀ piece ∈ pieces bytes,
        Piece.bytes piece = String.utf8EncodeChar (piece.char?.getD '\ufffd') := by
      intro piece hpiece
      cases piece with
      | char c => rfl
      | stray stretch =>
        -- it would have left a U+FFFD behind
        have hmem : '\ufffd' ∈ decodeLossy bytes := List.mem_map.2 ⟨_, hpiece, rfl⟩
        exact absurd (h ▸ hmem) ht
    calc bytes = (pieces bytes).flatMap Piece.bytes := (flatMap_bytes_pieces bytes).symm
      _ = (pieces bytes).flatMap fun piece =>
            String.utf8EncodeChar (piece.char?.getD '\ufffd') := by
          rw [List.flatMap_def, List.flatMap_def, List.map_congr_left hpieces]
      _ = encode (decodeLossy bytes) := by rw [encode, decodeLossy, List.flatMap_map]
      _ = encode t := by rw [h]
  · rintro rfl
    exact decodeLossy_encode t

end ServiceScript.Utf8
