import ServiceScript.Proofs.Text.Decimal
import ServiceScript.Proofs.Text.Trimmed

/-!
# ServiceScript — what a log level is asked for by

A level is asked for by its number in decimal or by one of its names, whatever
blanks are around them. What is neither is refused: a number up to 255 as a number
that no level has, and everything else as it stands, greater numbers too. A number
and a name have no character in common, so no text is both.

Main definitions:

* `LogLevel.Named` — a text is a name of a level;
* `LogLevel.Answer` — the answers to texts without blanks at their ends.

Main results:

* `LogLevel.parse_eq_iff` — what is read is the one answer there is;
* `LogLevel.parse_grammar` — the answers, and what does not change them.
-/

namespace ServiceScript

-- ---------------------------------------------------------------------------
-- Letters
-- ---------------------------------------------------------------------------

/-- A character has itself for its lower case, or is an upper-case letter of ASCII. -/
theorem toLower_cases (c : Char) :
    c.toLower = c ∨ 65 ≤ c.toNat ∧ c.toNat ≤ 90 ∧ c.toLower.toNat = c.toNat + 32 := by
  unfold Char.toLower
  split
  · next h =>
    have hlow : 65 ≤ c.val.toNat := UInt32.le_iff_toNat_le.1 h.1
    have hhigh : c.val.toNat ≤ 90 := UInt32.le_iff_toNat_le.1 h.2
    have hstep : ('a'.val - 'A'.val).toNat = 32 := rfl
    refine .inr ⟨hlow, hhigh, ?_⟩
    show (c.val + ('a'.val - 'A'.val)).toNat = c.val.toNat + 32
    rw [UInt32.toNat_add]
    omega
  · exact .inl rfl

/-- Lower case makes nothing a blank and takes no blank away. -/
theorem isBlank_toLower (c : Char) : isBlank c.toLower = isBlank c := by
  rcases toLower_cases c with heq | ⟨hlow, hhigh, hlower⟩
  · rw [heq]
  · -- no letter is a blank, upper or lower
    have hupper : isBlank c = false := by
      simp [isBlank, blankRanges]
      omega
    rw [hupper]
    simp [isBlank, blankRanges, hlower]
    omega

/-- What comes before the letters is the lower case of nothing else. -/
theorem eq_of_toLower_eq {c d : Char} (h : d.toLower = c.toLower) (hc : c.toNat < 65) :
    d = c := by
  rcases toLower_cases c with hc' | ⟨hlow, -, -⟩
  · rw [hc'] at h
    rcases toLower_cases d with hd | ⟨hlow, -, hlower⟩
    · exact hd.symm.trans h
    · rw [h] at hlower
      omega
  · omega

/-- A text of characters that come before the letters is the lower case of no other
text. -/
theorem eq_of_map_toLower_eq {t u : Text} (h : u.map Char.toLower = t.map Char.toLower)
    (ht : ∀ c ∈ t, c.toNat < 65) : u = t := by
  induction t generalizing u with
  | nil => simpa using h
  | cons c rest ih =>
    obtain ⟨d, others, rfl, hd, hothers⟩ := List.map_eq_cons_iff.1 h
    have hfirst := eq_of_toLower_eq hd (ht c List.mem_cons_self)
    have hrest := ih hothers fun x hx => ht x (List.mem_cons_of_mem _ hx)
    rw [hfirst, hrest]

namespace LogLevel

-- ---------------------------------------------------------------------------
-- Answers
-- ---------------------------------------------------------------------------

/-- The names of the levels, with the second names that two of them have. -/
def names : List (Text × LogLevel) :=
  [("off", .off), ("error", .error), ("err", .error), ("warn", .warn), ("warning", .warn),
   ("info", .info), ("debug", .debug), ("trace", .trace)]

/-- A text is a name of a level, but for the case of ASCII letters. -/
def Named (t : Text) (level : LogLevel) : Prop := (t.map Char.toLower, level) ∈ names

/-- What a text without blanks at its ends is answered with. -/
inductive Answer : Text → Except LogLevelFault LogLevel → Prop
  | number {t : Text} {level : LogLevel} (h : t.InDecimal level.number) : Answer t (.ok level)
  | name {t : Text} {level : LogLevel} (h : Named t level) : Answer t (.ok level)
  -- a number that fits into a byte and is that of no level
  | unsupported {t : Text} {n : Nat} (h : t.InDecimal n) (hlow : 6 ≤ n) (hhigh : n ≤ 255) :
      Answer t (.error (.unsupportedNumber n))
  | invalid {t : Text} (hne : t ≠ []) (hnumber : ∀ n, t.InDecimal n → 255 < n)
      (hname : ∀ level, ¬ Named t level) : Answer t (.error (.invalid t))
  | empty : Answer [] (.error .empty)

/-- A level is answered with if its number or one of its names is asked for. -/
theorem answer_ok_iff {t : Text} {level : LogLevel} :
    Answer t (.ok level) ↔ t.InDecimal level.number ∨ Named t level := by
  constructor
  · intro h
    cases h with
    | number hnumber => exact .inl hnumber
    | name hname => exact .inr hname
  · rintro (hnumber | hname)
    · exact .number hnumber
    · exact .name hname

theorem Named.ne_nil {t : Text} {level : LogLevel} (h : Named t level) : t ≠ [] := by
  rintro rfl
  have hsome : ∀ p ∈ names, p.1 ≠ [] := by decide
  exact hsome _ h rfl

/-- A name is made of letters. -/
theorem Named.le_of_mem {t : Text} {level : LogLevel} (h : Named t level) {c : Char}
    (hc : c ∈ t) : 65 ≤ c.toNat := by
  have hletters : (names.all fun p => p.1.all fun d => 97 ≤ d.toNat) = true := by decide
  simp only [List.all_eq_true, decide_eq_true_eq] at hletters
  have hlower : 97 ≤ c.toLower.toNat := hletters _ h _ (List.mem_map_of_mem hc)
  rcases toLower_cases c with heq | ⟨hupper, -, -⟩
  · rw [heq] at hlower
    omega
  · exact hupper

theorem Named.exists_le {t : Text} {level : LogLevel} (h : Named t level) :
    ∃ c ∈ t, 65 ≤ c.toNat := by
  obtain ⟨c, hc⟩ := List.exists_mem_of_ne_nil t h.ne_nil
  exact ⟨c, hc, h.le_of_mem hc⟩

/-- No name is a number. -/
theorem Named.not_inDecimal {t : Text} {level : LogLevel} (h : Named t level) (n : Nat) :
    ¬ t.InDecimal n := by
  intro hn
  obtain ⟨c, hc, hletter⟩ := h.exists_le
  have hdigit := hn.lt_of_mem hc
  omega

-- ---------------------------------------------------------------------------
-- Numbers and names
-- ---------------------------------------------------------------------------

theorem ofNumber?_number (level : LogLevel) : ofNumber? level.number = some level := by
  cases level <;> rfl

/-- The level that a number finds has that number. -/
theorem number_of_ofNumber? {n : Nat} {level : LogLevel} (h : ofNumber? n = some level) :
    level.number = n := by
  have hall : ∀ i : Fin all.length, all[i].number = i.val := by decide
  obtain ⟨hn, rfl⟩ := List.getElem?_eq_some_iff.1 h
  exact hall ⟨n, hn⟩

/-- No level has a number from six on. -/
theorem ofNumber?_eq_none_iff {n : Nat} : ofNumber? n = none ↔ 6 ≤ n :=
  List.getElem?_eq_none_iff

/-- A level is listed under its own name and, for two of them, under a second one. -/
theorem mem_names_iff {t : Text} {level : LogLevel} :
    (t, level) ∈ names ↔
      t = "err" ∧ level = .error ∨ t = "warning" ∧ level = .warn ∨ level.name = t := by
  constructor
  · intro h
    have hall : ∀ p ∈ names, p.1 = "err" ∧ p.2 = .error ∨ p.1 = "warning" ∧ p.2 = .warn ∨
        p.2.name = p.1 := by decide
    exact hall _ h
  · rintro (⟨rfl, rfl⟩ | ⟨rfl, rfl⟩ | rfl)
    · decide
    · decide
    · cases level <;> decide

/-- A level is found by the names that it is listed under, and by no others. -/
theorem ofName?_eq_some_iff {t : Text} {level : LogLevel} :
    ofName? t = some level ↔ (t, level) ∈ names := by
  rw [mem_names_iff]
  unfold ofName?
  by_cases herr : t = "err"
  · subst herr
    cases level <;> decide
  by_cases hwarning : t = "warning"
  · subst hwarning
    cases level <;> decide
  rw [if_neg herr, if_neg hwarning]
  constructor
  · intro h
    exact .inr (.inr (by simpa using List.find?_some h))
  · rintro (⟨rfl, -⟩ | ⟨rfl, -⟩ | rfl)
    · exact absurd rfl herr
    · exact absurd rfl hwarning
    · cases level <;> rfl

-- ---------------------------------------------------------------------------
-- What is read
-- ---------------------------------------------------------------------------

/-- A number up to 255 is understood as the number of a level or refused as a number. -/
theorem parse_of_number {s : Text} {n : Nat} (h : s.trim.InDecimal n) (hn : n ≤ 255) :
    parse s = (ofNumber? n).elim (.error (.unsupportedNumber n)) .ok := by
  have hnumber : s.trim.number?.filter (· ≤ greatestLevelNumber) = some n := by
    rw [Text.number?_eq_some_iff.2 h]
    exact Option.filter_some_pos (decide_eq_true hn)
  simp only [parse, if_neg h.ne_nil, hnumber]
  cases ofNumber? n <;> rfl

/-- What is not such a number is understood as a name or refused as it stands. -/
theorem parse_of_name {s : Text} (hne : s.trim ≠ []) (h : ∀ n, s.trim.InDecimal n → 255 < n) :
    parse s = (ofName? (s.trim.map Char.toLower)).elim (.error (.invalid s.trim)) .ok := by
  have hnumber : s.trim.number?.filter (· ≤ greatestLevelNumber) = none := by
    rw [Option.filter_eq_none_iff]
    intro n hn hle
    have hgreat := h n (Text.number?_eq_some_iff.1 hn)
    have hsmall : n ≤ 255 := of_decide_eq_true hle
    omega
  simp only [parse, if_neg hne, hnumber]
  cases ofName? (s.trim.map Char.toLower) <;> rfl

/-- What is read is an answer. -/
theorem answer_parse (s : Text) : Answer s.trim (parse s) := by
  by_cases hnil : s.trim = []
  · have hparse : parse s = .error .empty := if_pos hnil
    rw [hnil, hparse]
    exact .empty
  by_cases hnumber : ∃ n, s.trim.InDecimal n ∧ n ≤ 255
  · obtain ⟨n, hn, hle⟩ := hnumber
    rw [parse_of_number hn hle]
    cases hlevel : ofNumber? n with
    | some level =>
      obtain rfl := number_of_ofNumber? hlevel
      exact .number hn
    | none => exact .unsupported hn (ofNumber?_eq_none_iff.1 hlevel) hle
  · -- a greater number is read as a name, and is none
    have hgreat : ∀ n, s.trim.InDecimal n → 255 < n := by
      intro n hn
      by_contra hle
      exact hnumber ⟨n, hn, by omega⟩
    rw [parse_of_name hnil hgreat]
    cases hlevel : ofName? (s.trim.map Char.toLower) with
    | some level => exact .name (ofName?_eq_some_iff.1 hlevel)
    | none =>
      refine .invalid hnil hgreat fun level h => ?_
      rw [ofName?_eq_some_iff.2 h] at hlevel
      cases hlevel

/-- There is no other answer than what is read. -/
theorem parse_of_answer {s t : Text} {r : Except LogLevelFault LogLevel} (h : Answer t r)
    (hs : s.trim = t) : parse s = r := by
  cases h with
  | @number _ level h =>
    subst hs
    have hle : level.number ≤ 255 := by cases level <;> decide
    rw [parse_of_number h hle, ofNumber?_number, Option.elim_some]
  | name h =>
    subst hs
    rw [parse_of_name h.ne_nil fun n hn => absurd hn (h.not_inDecimal n),
      ofName?_eq_some_iff.2 h, Option.elim_some]
  | unsupported h hlow hhigh =>
    subst hs
    rw [parse_of_number h hhigh, ofNumber?_eq_none_iff.2 hlow, Option.elim_none]
  | invalid hne hnumber hname =>
    subst hs
    have hnone : ofName? (s.trim.map Char.toLower) = none := by
      rw [Option.eq_none_iff_forall_ne_some]
      intro level h
      exact hname level (ofName?_eq_some_iff.1 h)
    rw [parse_of_name hne hnumber, hnone, Option.elim_none]
  | empty => exact if_pos hs

/-- What is read of a text is the answer to what is left of it without blanks at its
ends. -/
theorem parse_eq_iff {s : Text} {r : Except LogLevelFault LogLevel} :
    parse s = r ↔ Answer s.trim r := by
  constructor
  · rintro rfl
    exact answer_parse s
  · intro h
    exact parse_of_answer h rfl

-- ---------------------------------------------------------------------------
-- What does not change the answer
-- ---------------------------------------------------------------------------

/-- Blanks around a text change nothing. -/
theorem parse_append_blank {before after : Text} (hbefore : before.allBlank = true)
    (hafter : after.allBlank = true) (s : Text) : parse (before ++ s ++ after) = parse s := by
  unfold parse
  rw [Text.trim_append hbefore hafter]

/-- A level that was understood is understood in every case of its letters. -/
theorem parse_of_map_toLower_eq {s u : Text} {level : LogLevel}
    (h : s.map Char.toLower = u.map Char.toLower) (hs : parse s = .ok level) :
    parse u = .ok level := by
  have htrim : u.trim.map Char.toLower = s.trim.map Char.toLower := by
    rw [← Text.trim_map isBlank_toLower, ← Text.trim_map isBlank_toLower, h]
  rw [parse_eq_iff, answer_ok_iff] at hs ⊢
  rcases hs with hnumber | hname
  · left
    rwa [eq_of_map_toLower_eq htrim fun c hc => hnumber.lt_of_mem hc]
  · right
    unfold Named at hname ⊢
    rwa [htrim]

/-- Digits are understood as a number or not at all. -/
theorem parse_digits_iff {sign digits : Text} (hsign : sign = [] ∨ sign = ['+'])
    (hdigits : digits.all Char.isDigit = true) (level : LogLevel) :
    parse (sign ++ digits) = .ok level ↔ (sign ++ digits).InDecimal level.number := by
  have hchars : ∀ c ∈ sign ++ digits, isBlank c = false ∧ c.toNat < 65 := by
    intro c hc
    have hrange : 33 ≤ c.toNat ∧ c.toNat < 65 := by
      rcases List.mem_append.1 hc with hc | hc
      · rcases hsign with rfl | rfl
        · cases hc
        · rw [List.mem_singleton.1 hc]
          decide
      · have hdigit := Char.isDigit_iff_toNat.1 (List.all_eq_true.1 hdigits c hc)
        have hzero : '0'.toNat = 48 := rfl
        have hnine : '9'.toNat = 57 := rfl
        omega
    refine ⟨?_, hrange.2⟩
    simp [isBlank, blankRanges]
    omega
  have hno : ¬ Named (sign ++ digits) level := by
    intro hname
    obtain ⟨c, hc, hletter⟩ := hname.exists_le
    have hdigit := (hchars c hc).2
    omega
  rw [parse_eq_iff, Text.trim_of_forall fun c hc => (hchars c hc).1, answer_ok_iff,
    or_iff_left hno]

/-- Zeros in front of the digits change nothing. -/
theorem parse_zeros_iff {sign digits : Text} (hsign : sign = [] ∨ sign = ['+'])
    (hne : digits ≠ []) (hdigits : digits.all Char.isDigit = true) (zeros : Nat)
    (level : LogLevel) :
    parse (sign ++ (List.replicate zeros '0' ++ digits)) = .ok level ↔
      parse (sign ++ digits) = .ok level := by
  have hall : (List.replicate zeros '0' ++ digits).all Char.isDigit = true := by
    rw [List.all_append, hdigits, Bool.and_true, List.all_eq_true]
    intro c hc
    rw [List.eq_of_mem_replicate hc]
    rfl
  rw [parse_digits_iff hsign hall, Text.inDecimal_zeros_iff hsign hne hdigits,
    parse_digits_iff hsign hdigits]

theorem parse_name (level : LogLevel) : parse level.name = .ok level := by
  cases level <;> rfl

/-- **What a level is asked for by.** The answer to a text is that to what is left of
it without the blanks at its ends, and there is one answer for each. Blanks around a
text do not change it, and where it is a level, neither do the case of ASCII letters
and zeros in front of the digits. A level is understood by its own name. -/
theorem parse_grammar :
    (∀ s r, parse s = r ↔ Answer s.trim r) ∧
    (LogLevelFault.empty.message = "log level cannot be empty".toList ∧
      (∀ n, (LogLevelFault.unsupportedNumber n).message =
        "unsupported log level number '" ++ Text.decimal n ++ "' (expected 0-5)") ∧
      ∀ t, (LogLevelFault.invalid t).message = "invalid log level '" ++ t ++ "'") ∧
    (∀ before s after : Text, before.allBlank = true → after.allBlank = true →
      parse (before ++ s ++ after) = parse s) ∧
    (∀ s u level, s.map Char.toLower = u.map Char.toLower → parse s = .ok level →
      parse u = .ok level) ∧
    (∀ (sign digits : Text) zeros level, sign = [] ∨ sign = ['+'] → digits ≠ [] →
      digits.all Char.isDigit = true →
        (parse (sign ++ (List.replicate zeros '0' ++ digits)) = .ok level ↔
          parse (sign ++ digits) = .ok level)) ∧
    ∀ s level, parse s = .ok level → parse level.name = .ok level := by
  refine ⟨fun s r => parse_eq_iff, ⟨rfl, fun n => rfl, fun t => rfl⟩, ?_, ?_, ?_, ?_⟩
  · intro before s after hbefore hafter
    exact parse_append_blank hbefore hafter s
  · intro s u level h hs
    exact parse_of_map_toLower_eq h hs
  · intro sign digits zeros level hsign hne hdigits
    exact parse_zeros_iff hsign hne hdigits zeros level
  · intro s level _
    exact parse_name level

/-- A name in mixed case between blanks, and a number behind a sign and more zeros
than a byte has room for. -/
theorem parse_grammar_padded :
    let before : Text := "\t\u3000"
    let after : Text := "\u2028 "
    let digits : Text := "5"
    (before.allBlank = true ∧ after.allBlank = true ∧
      ("warning" : Text).map Char.toLower = ("wArNiNg" : Text).map Char.toLower ∧
      parse (before ++ "wArNiNg" ++ after) = .ok .warn) ∧
    (digits ≠ [] ∧ digits.all Char.isDigit = true ∧
      parse (['+'] ++ (List.replicate 300 '0' ++ digits)) = .ok .trace) ∧
    parse LogLevel.warn.name = .ok .warn := by
  intro before after digits
  obtain ⟨-, -, hblanks, hcase, hzeros, hname⟩ := parse_grammar
  have hbefore : before.allBlank = true := by decide
  have hafter : after.allBlank = true := by decide
  have hletters : ("warning" : Text).map Char.toLower = ("wArNiNg" : Text).map Char.toLower := by
    decide
  have hwarn : parse "wArNiNg" = .ok .warn := hcase _ _ _ hletters rfl
  have hdigits : digits.all Char.isDigit = true := by decide
  refine ⟨⟨hbefore, hafter, hletters, ?_⟩, ⟨by decide, hdigits, ?_⟩, hname _ _ hwarn⟩
  · rw [hblanks before "wArNiNg" after hbefore hafter]
    exact hwarn
  · exact (hzeros ['+'] digits 300 .trace (.inr rfl) (by decide) hdigits).2 rfl

end LogLevel

end ServiceScript
