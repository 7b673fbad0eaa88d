import ServiceScript.Text.Blank

/-!
# ServiceScript — texts without blanks at their ends

Trimming gives a text that neither begins nor ends with a blank, and leaves a
text alone that is one already. A line of a unit file is read trimmed, so these
are the lines that can be written as they are to be read.

Main results:

* `Text.trimmed_trim` — what trimming gives;
* `Text.trim_eq_self` — what trimming leaves alone;
* `Text.trim_append` — what trimming takes away.
-/

namespace ServiceScript.Text

/-- No blank at the beginning. -/
def StartsTrimmed (t : Text) : Prop := ∀ c ∈ t.head?, isBlank c = false

/-- No blank at the end. -/
def EndsTrimmed (t : Text) : Prop := ∀ c ∈ t.getLast?, isBlank c = false

instance (t : Text) : Decidable (StartsTrimmed t) :=
  Option.decidableForallMem t.head?

instance (t : Text) : Decidable (EndsTrimmed t) :=
  Option.decidableForallMem t.getLast?

theorem startsTrimmed_cons {c : Char} (t : Text) (h : isBlank c = false) :
    StartsTrimmed (c :: t) := by
  intro d hd
  rw [← Option.some.inj hd]
  exact h

theorem endsTrimmed_concat {c : Char} (t : Text) (h : isBlank c = false) :
    EndsTrimmed (t ++ [c]) := by
  intro d hd
  rw [List.getLast?_concat] at hd
  rw [← Option.some.inj hd]
  exact h

/-- A text backwards begins with no blank if it ends with none. -/
theorem startsTrimmed_reverse (t : Text) : StartsTrimmed t.reverse ↔ EndsTrimmed t := by
  unfold StartsTrimmed EndsTrimmed
  rw [List.head?_reverse]

-- ---------------------------------------------------------------------------
-- What trimming gives
-- ---------------------------------------------------------------------------

theorem startsTrimmed_dropWhile (t : Text) : StartsTrimmed (t.dropWhile isBlank) := by
  intro c hc
  have hhead := List.head?_dropWhile_not isBlank t
  rw [hc] at hhead
  simpa using hhead

theorem endsTrimmed_trim (t : Text) : EndsTrimmed t.trim := by
  have h := startsTrimmed_dropWhile (trimStart t).reverse
  rw [← List.reverse_reverse (List.dropWhile isBlank (trimStart t).reverse),
    startsTrimmed_reverse] at h
  exact h

/-- Trimming at the end leaves a beginning of the text. -/
theorem trimEnd_prefix (t : Text) : trimEnd t <+: t := by
  have hsuffix := List.dropWhile_suffix isBlank (l := t.reverse)
  have h := List.reverse_prefix.2 hsuffix
  rw [List.reverse_reverse] at h
  exact h

theorem startsTrimmed_trim (t : Text) : StartsTrimmed t.trim := by
  intro c hc
  -- what trimming at the end leaves begins as the text does
  obtain ⟨rest, hrest⟩ := trimEnd_prefix (trimStart t)
  have hhead : (trimStart t).head? = some c := by
    rw [← hrest, List.head?_append]
    show (t.trim.head?.or rest.head?) = some c
    rw [Option.mem_def.1 hc, Option.some_or]
  exact startsTrimmed_dropWhile t c hhead

theorem trimmed_trim (t : Text) : StartsTrimmed t.trim ∧ EndsTrimmed t.trim :=
  ⟨startsTrimmed_trim t, endsTrimmed_trim t⟩

-- ---------------------------------------------------------------------------
-- What trimming leaves alone
-- ---------------------------------------------------------------------------

theorem dropWhile_eq_self {t : Text} (h : StartsTrimmed t) : t.dropWhile isBlank = t := by
  cases t with
  | nil => rfl
  | cons c rest =>
    have hc : isBlank c = false := h c rfl
    rw [List.dropWhile_cons_of_neg (by simp [hc])]

/-- A text without blanks at its ends is left as it is by trimming. -/
theorem trim_eq_self {t : Text} (hstart : StartsTrimmed t) (hend : EndsTrimmed t) :
    t.trim = t := by
  have hreverse := dropWhile_eq_self ((startsTrimmed_reverse t).2 hend)
  unfold trim trimStart trimEnd
  rw [dropWhile_eq_self hstart, hreverse, List.reverse_reverse]

theorem trim_of_forall {t : Text} (h : ∀ c ∈ t, isBlank c = false) : t.trim = t :=
  trim_eq_self (fun c hc => h c (List.mem_of_mem_head? hc))
    fun c hc => h c (List.mem_of_getLast? hc)

-- ---------------------------------------------------------------------------
-- What trimming takes away
-- ---------------------------------------------------------------------------

/-- Blanks in front of a text are trimmed with those at its beginning. -/
theorem trimStart_append {before : Text} (h : before.allBlank = true) (t : Text) :
    trimStart (before ++ t) = trimStart t :=
  List.dropWhile_append_of_pos (List.all_eq_true.1 h)

theorem trimEnd_append {after : Text} (h : after.allBlank = true) (t : Text) :
    trimEnd (t ++ after) = trimEnd t := by
  have hreverse : allBlank after.reverse = true := by
    unfold allBlank at h ⊢
    rw [List.all_reverse, h]
  have hdrop := trimStart_append hreverse t.reverse
  unfold trimStart at hdrop
  unfold trimEnd
  rw [List.reverse_append, hdrop]

/-- Blanks around a text make no difference once it is trimmed. -/
theorem trim_append {before after : Text} (hbefore : before.allBlank = true)
    (hafter : after.allBlank = true) (t : Text) : (before ++ t ++ after).trim = t.trim := by
  unfold trim
  rw [List.append_assoc, trimStart_append hbefore]
  by_cases hblank : t.allBlank = true
  · -- there is nothing left on either side
    have hleft := (trim_eq_nil_iff after).2 hafter
    have hright := (trim_eq_nil_iff t).2 hblank
    unfold trim at hleft hright
    rw [trimStart_append hblank, hleft, hright]
  · have hne : t.dropWhile isBlank ≠ [] :=
      fun hnil => hblank ((dropWhile_isBlank_eq_nil_iff t).1 hnil)
    have hstart : trimStart (t ++ after) = trimStart t ++ after := by
      unfold trimStart
      rw [List.dropWhile_append, if_neg (by simpa using hne)]
    rw [hstart, trimEnd_append hafter]

/-- Characters can be replaced before or after trimming, as long as blanks stay
blanks and nothing else becomes one. -/
theorem trim_map {f : Char → Char} (hf : ∀ c, isBlank (f c) = isBlank c) (t : Text) :
    Text.trim (t.map f) = t.trim.map f := by
  have hdrop : ∀ u : Text, (u.map f).dropWhile isBlank = (u.dropWhile isBlank).map f := by
    intro u
    rw [List.dropWhile_map]
    congr 2
    funext c
    exact hf c
  unfold trim trimEnd trimStart
  rw [hdrop, ← List.map_reverse, hdrop, ← List.map_reverse]

end ServiceScript.Text
