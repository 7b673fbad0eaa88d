import ServiceScript.Text.Utf8

/-!
# ServiceScript — written forms that say where they end

A written form is **delimited** when it is found again at the beginning of any
text: what stands behind it cannot change what it is taken for. A list of things
written one behind another is found again in the same way, as long as what
stands behind the list does not begin like one more of them.

Main results:

* `Delimited.flatMap_inj` — a list of delimited forms and what stands behind it;
* `Utf8.encode_inj` — the bytes of a text determine it.
-/

namespace ServiceScript

variable {α β : Type}

/-- A written form that is determined, for valid things, by every list that
begins with it, together with what stands behind it there. -/
def Delimited (valid : α → Prop) (written : α → List β) : Prop :=
  ∀ ⦃a b : α⦄ ⦃s t : List β⦄, valid a → valid b → written a ++ s = written b ++ t →
    a = b ∧ s = t

namespace Delimited

variable {valid : α → Prop} {written : α → List β}

/-- If what stands behind a list never begins like one more of it, list and rest
are determined together. -/
theorem flatMap_inj (stop : List β → Prop) (hw : Delimited valid written)
    (hstop : ∀ a s, valid a → ¬ stop (written a ++ s)) {xs ys : List α} {s t : List β}
    (hxs : ∀ x ∈ xs, valid x) (hys : ∀ y ∈ ys, valid y) (hs : stop s) (ht : stop t)
    (h : xs.flatMap written ++ s = ys.flatMap written ++ t) : xs = ys ∧ s = t := by
  induction xs generalizing ys with
  | nil =>
    cases ys with
    | nil => exact ⟨rfl, h⟩
    | cons y ys =>
      rw [List.flatMap_nil, List.nil_append, List.flatMap_cons, List.append_assoc] at h
      exact absurd (h ▸ hs) (hstop y _ (hys y List.mem_cons_self))
  | cons x xs ih =>
    have hx := hxs x List.mem_cons_self
    cases ys with
    | nil =>
      rw [List.flatMap_nil, List.nil_append, List.flatMap_cons, List.append_assoc] at h
      exact absurd (h ▸ ht) (hstop x _ hx)
    | cons y ys =>
      rw [List.flatMap_cons, List.flatMap_cons, List.append_assoc, List.append_assoc] at h
      obtain ⟨rfl, hrest⟩ := hw hx (hys y List.mem_cons_self) h
      have hxs' : ∀ z ∈ xs, valid z := fun z hz => hxs z (List.mem_cons_of_mem _ hz)
      have hys' : ∀ z ∈ ys, valid z := fun z hz => hys z (List.mem_cons_of_mem _ hz)
      obtain ⟨rfl, hbehind⟩ := ih hxs' hys' hrest
      exact ⟨rfl, hbehind⟩

/-- A fixed text in front keeps a written form delimited. -/
theorem fixed_append (fixed : List β) (hw : Delimited valid written) :
    Delimited valid fun a => fixed ++ written a := by
  intro a b s t ha hb h
  rw [List.append_assoc, List.append_assoc] at h
  exact hw ha hb (List.append_cancel_left h)

/-- A delimited form stays so with more of the same thing behind it. -/
theorem append (more : α → List β) (hw : Delimited valid written) :
    Delimited valid fun a => written a ++ more a := by
  intro a b s t ha hb h
  rw [List.append_assoc, List.append_assoc] at h
  obtain ⟨rfl, hrest⟩ := hw ha hb h
  exact ⟨rfl, List.append_cancel_left hrest⟩

/-- Something in front that is skipped without being recognised is no obstacle. -/
theorem behind {skipped : α → List β}
    (hskip : ∀ a b s t, valid a → valid b → skipped a ++ s = skipped b ++ t → s = t)
    (hw : Delimited valid written) : Delimited valid fun a => skipped a ++ written a := by
  intro a b s t ha hb h
  rw [List.append_assoc, List.append_assoc] at h
  exact hw ha hb (hskip a b _ _ ha hb h)

/-- A form of messages that all begin in the same way. -/
theorem comp_append {γ : Type} {valid : List γ → Prop} {written : List γ → List β}
    (head : List γ) (hw : Delimited valid written) :
    Delimited (fun a => valid (head ++ a)) fun a => written (head ++ a) := by
  intro a b s t ha hb h
  obtain ⟨hmessage, hrest⟩ := hw ha hb h
  exact ⟨List.append_cancel_left hmessage, hrest⟩

end Delimited

-- ---------------------------------------------------------------------------
-- Bytes
-- ---------------------------------------------------------------------------

namespace Utf8

/-- The bytes of a character tell where they end. -/
theorem delimited_encodeChar : Delimited (fun _ => True) String.utf8EncodeChar := by
  intro c d s t _ _ h
  -- the decoder of the library finds the character that the bytes begin with
  have hbytes := congrArg List.toByteArray h
  rw [List.toByteArray_append, List.toByteArray_append] at hbytes
  have hc := ByteArray.utf8DecodeChar?_utf8EncodeChar_append (b := s.toByteArray) (c := c)
  rw [hbytes, ByteArray.utf8DecodeChar?_utf8EncodeChar_append] at hc
  obtain rfl := Option.some.inj hc
  exact ⟨rfl, List.append_cancel_left h⟩

/-- Two texts with the same bytes are one text. -/
theorem encode_inj {t u : Text} (h : encode t = encode u) : t = u := by
  have hne : ∀ c s, True → ¬ String.utf8EncodeChar c ++ s = [] := by
    intro c s _ hnil
    have hlength := String.length_utf8EncodeChar c
    rw [(List.append_eq_nil_iff.1 hnil).1] at hlength
    exact absurd hlength.symm (Nat.ne_of_gt c.utf8Size_pos)
  have hall : ∀ x : Text, ∀ c ∈ x, True := fun _ _ _ => trivial
  refine (delimited_encodeChar.flatMap_inj (· = []) hne (hall t) (hall u) rfl rfl ?_).1
  rw [List.append_nil, List.append_nil]
  exact h

end Utf8

end ServiceScript
