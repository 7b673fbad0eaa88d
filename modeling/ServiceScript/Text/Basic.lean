/-!
# ServiceScript — text and bytes

Unit files, shell words and scripts are **text**: lists of characters, so that
every rule on them is a rule on lists. Paths, command-line arguments and file
contents are **bytes**; `ServiceScript.Text.Utf8` goes from one to the other.

Main definitions:

* `Text`, `Bytes` — the two carriers;
* `splitAll`, `splitFirst` — cutting a list at a separator, everywhere or once;
* `Text.decimal`, `Text.hex` — the written forms of a number.
-/

namespace ServiceScript

/-- Text, as the list of its characters. -/
abbrev Text := List Char

/-- Raw bytes: the content of a file, a path, a command-line argument. -/
abbrev Bytes := List UInt8

/-- A literal is text by its characters. -/
instance : Coe String Text := ⟨String.toList⟩

-- ---------------------------------------------------------------------------
-- Cutting at a separator
-- ---------------------------------------------------------------------------

/-- The pieces of a list between the occurrences of `sep`. There is always one
piece more than there are separators, so the empty list is one empty piece. -/
abbrev splitAll {α : Type} [DecidableEq α] (sep : α) (xs : List α) : List (List α) :=
  xs.splitOn sep

/-- What stands before and after the first occurrence of `sep`, if there is one. -/
def splitFirst {α : Type} [DecidableEq α] (sep : α) : List α → Option (List α × List α)
  | [] => none
  | c :: rest =>
    if c = sep then some ([], rest)
    else (splitFirst sep rest).map fun (before, after) => (c :: before, after)

/-- The first separator is where the two sides say, and the left side has none. -/
theorem splitFirst_eq_some_iff {α : Type} [DecidableEq α] {sep : α}
    {xs before after : List α} :
    splitFirst sep xs = some (before, after) ↔ xs = before ++ sep :: after ∧ sep ∉ before := by
  induction xs generalizing before with
  | nil => simp [splitFirst]
  | cons c rest ih =>
    by_cases h : c = sep
    · subst h
      cases before with
      | nil => simp [splitFirst, eq_comm]
      | cons b bs =>
        simp only [splitFirst, if_true, Option.some.injEq, Prod.mk.injEq, List.cons_append,
          List.cons.injEq, List.mem_cons, not_or]
        grind
    · cases before with
      | nil => simp [splitFirst, h]
      | cons b bs =>
        simp only [splitFirst, if_neg h, Option.map_eq_some_iff, Prod.exists, Prod.mk.injEq,
          List.cons.injEq, List.cons_append, List.mem_cons, not_or]
        constructor
        · rintro ⟨x, y, hxy, ⟨rfl, rfl⟩, rfl⟩
          obtain ⟨rfl, hx⟩ := ih.1 hxy
          exact ⟨⟨rfl, rfl⟩, fun e => h e.symm, hx⟩
        · rintro ⟨⟨rfl, rfl⟩, _, hx⟩
          exact ⟨bs, after, ih.2 ⟨rfl, hx⟩, ⟨rfl, rfl⟩, rfl⟩

/-- There is nothing to split exactly when the separator does not occur. -/
theorem splitFirst_eq_none_iff {α : Type} [DecidableEq α] {sep : α} {xs : List α} :
    splitFirst sep xs = none ↔ sep ∉ xs := by
  induction xs with
  | nil => simp [splitFirst]
  | cons c rest ih =>
    by_cases h : c = sep
    · simp [splitFirst, h]
    · simp [splitFirst, h, ih, Ne.symm h]

-- ---------------------------------------------------------------------------
-- Numbers
-- ---------------------------------------------------------------------------

namespace Text

def decimal (n : Nat) : Text := Nat.toDigits 10 n

/-- A number in lower-case hexadecimal, without leading zeros. -/
def hex (n : Nat) : Text := Nat.toDigits 16 n

/-- A byte as two upper-case hexadecimal digits. -/
def hexByte (b : UInt8) : Text :=
  [(b / 16).toNat, (b % 16).toNat].map fun d => (Nat.digitChar d).toUpper

end Text

end ServiceScript
