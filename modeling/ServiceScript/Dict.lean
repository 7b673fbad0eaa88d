import ServiceScript.Text.Basic

/-!
# ServiceScript — dictionaries

Values under texts, each text at most once, kept in the order of the texts.
Because the order is part of the type, two dictionaries with the same look-ups
are equal, and a listing is always in code point order.

Main results:

* `Dict.get?_insert` — an insertion changes the look-up of its own key only;
* `Dict.ext_get?` — a dictionary is determined by its look-ups.
-/

namespace ServiceScript

/-- Values under texts, in strictly ascending order of the texts. -/
structure Dict (β : Type) where
  entries : List (Text × β)
  sorted : entries.Pairwise fun a b => a.1 < b.1
deriving DecidableEq

namespace Dict

variable {β : Type}

-- ---------------------------------------------------------------------------
-- Lists of entries
-- ---------------------------------------------------------------------------

def lookup (key : Text) : List (Text × β) → Option β
  | [] => none
  | (k, v) :: rest => if key = k then some v else lookup key rest

/-- Puts a value at the place of its key, over the value that was there. -/
def insertEntry (key : Text) (value : β) : List (Text × β) → List (Text × β)
  | [] => [(key, value)]
  | (k, v) :: rest =>
    if key = k then (key, value) :: rest
    else if key < k then (key, value) :: (k, v) :: rest
    else (k, v) :: insertEntry key value rest

/-- Nothing but the new entry is brought in. -/
theorem mem_insertEntry {key : Text} {value : β} {entries : List (Text × β)} {e : Text × β}
    (h : e ∈ insertEntry key value entries) : e = (key, value) ∨ e ∈ entries := by
  induction entries with
  | nil => simpa [insertEntry] using h
  | cons head rest ih =>
    obtain ⟨k, v⟩ := head
    rw [insertEntry] at h
    grind

/-- Of two different keys one comes first. -/
theorem lt_of_ne_of_not_lt {a b : Text} (hne : a ≠ b) (h : ¬ a < b) : b < a := by
  rcases Decidable.em (b < a) with h' | h'
  · exact h'
  · exact absurd (List.le_antisymm (List.not_lt.1 h') (List.not_lt.1 h)) hne

/-- A new entry goes where it belongs. -/
theorem sorted_insertEntry (key : Text) (value : β) {entries : List (Text × β)}
    (h : entries.Pairwise fun a b => a.1 < b.1) :
    (insertEntry key value entries).Pairwise fun a b => a.1 < b.1 := by
  induction entries with
  | nil => simp [insertEntry]
  | cons head rest ih =>
    obtain ⟨k, v⟩ := head
    have hk := List.pairwise_cons.1 h
    rw [insertEntry]
    split
    · next e => exact List.pairwise_cons.2 ⟨fun x hx => e ▸ hk.1 x hx, hk.2⟩
    · next hne =>
      split
      · next hlt =>
        refine List.pairwise_cons.2 ⟨fun x hx => ?_, h⟩
        rcases List.mem_cons.1 hx with rfl | hx
        · exact hlt
        · exact List.lt_trans hlt (hk.1 x hx)
      · next hnlt =>
        refine List.pairwise_cons.2 ⟨fun x hx => ?_, ih hk.2⟩
        rcases mem_insertEntry hx with rfl | hx
        · exact lt_of_ne_of_not_lt hne hnlt
        · exact hk.1 x hx

theorem lookup_insertEntry (key other : Text) (value : β) (entries : List (Text × β)) :
    lookup other (insertEntry key value entries) =
      if other = key then some value else lookup other entries := by
  induction entries with
  | nil => simp [insertEntry, lookup]
  | cons head rest ih =>
    obtain ⟨k, v⟩ := head
    rw [insertEntry]
    split <;> (try split) <;> grind [lookup]

/-- A key in front of all entries has no value. -/
theorem lookup_eq_none_of_lt {key : Text} {entries : List (Text × β)}
    (h : ∀ e ∈ entries, key < e.1) : lookup key entries = none := by
  induction entries with
  | nil => rfl
  | cons head rest ih =>
    obtain ⟨k, v⟩ := head
    have hk : key ≠ k := fun e => List.lt_irrefl k (e ▸ h (k, v) List.mem_cons_self)
    rw [lookup, if_neg hk]
    exact ih fun e he => h e (List.mem_cons_of_mem _ he)

/-- Sorted entries are determined by the values of the keys. -/
theorem eq_of_lookup_eq {xs ys : List (Text × β)}
    (hx : xs.Pairwise fun a b => a.1 < b.1) (hy : ys.Pairwise fun a b => a.1 < b.1)
    (h : ∀ key, lookup key xs = lookup key ys) : xs = ys := by
  induction xs generalizing ys with
  | nil =>
    cases ys with
    | nil => rfl
    | cons y ys =>
      have := h y.1
      simp [lookup] at this
  | cons x xs ih =>
    cases ys with
    | nil =>
      have := h x.1
      simp [lookup] at this
    | cons y ys =>
      obtain ⟨kx, vx⟩ := x
      obtain ⟨ky, vy⟩ := y
      have hx' := List.pairwise_cons.1 hx
      have hy' := List.pairwise_cons.1 hy
      have hxy : ¬ kx < ky := by
        intro hlt
        have hn : lookup kx ((ky, vy) :: ys) = none := by
          refine lookup_eq_none_of_lt fun e he => ?_
          rcases List.mem_cons.1 he with rfl | he
          · exact hlt
          · exact List.lt_trans hlt (hy'.1 e he)
        have := h kx
        rw [hn] at this
        simp [lookup] at this
      have hyx : ¬ ky < kx := by
        intro hlt
        have hn : lookup ky ((kx, vx) :: xs) = none := by
          refine lookup_eq_none_of_lt fun e he => ?_
          rcases List.mem_cons.1 he with rfl | he
          · exact hlt
          · exact List.lt_trans hlt (hx'.1 e he)
        have := h ky
        rw [hn] at this
        simp [lookup] at this
      have hk : kx = ky := List.le_antisymm (List.not_lt.1 hyx) (List.not_lt.1 hxy)
      subst hk
      have hv : vx = vy := by simpa [lookup] using h kx
      subst hv
      congr 1
      refine ih hx'.2 hy'.2 fun key => ?_
      by_cases hkey : key = kx
      · subst hkey
        rw [lookup_eq_none_of_lt hx'.1, lookup_eq_none_of_lt hy'.1]
      · simpa [lookup, hkey] using h key

-- ---------------------------------------------------------------------------
-- Dictionaries
-- ---------------------------------------------------------------------------

def empty : Dict β := ⟨[], .nil⟩

instance : EmptyCollection (Dict β) := ⟨empty⟩

instance : Inhabited (Dict β) := ⟨empty⟩

def get? (d : Dict β) (key : Text) : Option β := lookup key d.entries

/-- Puts a value under a key, over the value that was there. -/
def insert (d : Dict β) (key : Text) (value : β) : Dict β :=
  ⟨insertEntry key value d.entries, sorted_insertEntry key value d.sorted⟩

@[simp] theorem get?_empty (key : Text) : (∅ : Dict β).get? key = none := rfl

/-- The new value is that of its own key and of no other. -/
theorem get?_insert (d : Dict β) (key other : Text) (value : β) :
    (d.insert key value).get? other = if other = key then some value else d.get? other :=
  lookup_insertEntry key other value d.entries

/-- A dictionary is determined by the values of its keys. -/
theorem ext_get? {d e : Dict β} (h : ∀ key, d.get? key = e.get? key) : d = e := by
  obtain ⟨xs, hx⟩ := d
  obtain ⟨ys, hy⟩ := e
  simp only [Dict.mk.injEq]
  exact eq_of_lookup_eq hx hy h

end Dict

end ServiceScript
