import ServiceScript.Text.Basic

/-!
# ServiceScript — blanks

The characters with the Unicode property `White_Space`. Lines of a unit file
and log levels are trimmed of them at both ends, and a command made of them
alone is an empty command. The property leaves out some characters that look
like blanks, such as U+200B, U+2060 and U+FEFF.
-/

namespace ServiceScript

/-- First and last code point of every run of `White_Space` characters. -/
def blankRanges : List (Nat × Nat) :=
  [(0x9, 0xD), (0x20, 0x20), (0x85, 0x85), (0xA0, 0xA0), (0x1680, 0x1680), (0x2000, 0x200A),
   (0x2028, 0x2029), (0x202F, 0x202F), (0x205F, 0x205F), (0x3000, 0x3000)]

def isBlank (c : Char) : Bool :=
  blankRanges.any fun (first, last) => first ≤ c.toNat && c.toNat ≤ last

namespace Text

def trimStart (t : Text) : Text := t.dropWhile isBlank

def trimEnd (t : Text) : Text := (t.reverse.dropWhile isBlank).reverse

def trim (t : Text) : Text := trimEnd (trimStart t)

def allBlank (t : Text) : Bool := t.all isBlank

end Text

/-- Taking the blanks off the beginning leaves nothing exactly of a text of blanks. -/
theorem Text.dropWhile_isBlank_eq_nil_iff (t : Text) :
    t.dropWhile isBlank = [] ↔ t.allBlank = true := by
  induction t with
  | nil => simp [allBlank]
  | cons c rest ih =>
    by_cases h : isBlank c = true
    · rw [List.dropWhile_cons_of_pos h, ih]
      simp [allBlank, h]
    · simp [allBlank, h]

/-- Trimming leaves nothing exactly of a text of blanks. -/
theorem Text.trim_eq_nil_iff (t : Text) : trim t = [] ↔ t.allBlank = true := by
  rw [trim, trimEnd, List.reverse_eq_nil_iff, dropWhile_isBlank_eq_nil_iff,
    ← dropWhile_isBlank_eq_nil_iff t, trimStart]
  constructor
  · intro h
    cases e : t.dropWhile isBlank with
    | nil => rfl
    | cons c rest =>
      have hc : isBlank c = false := by
        have := List.head?_dropWhile_not isBlank t
        rw [e] at this
        simpa using this
      rw [e] at h
      simp [allBlank, hc] at h
  · intro h
    simp [h, allBlank]

end ServiceScript
