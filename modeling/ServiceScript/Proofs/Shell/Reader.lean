import ServiceScript.Shell.Word

/-!
# ServiceScript — reading a word back

A shell reads a word character by character, and takes single quotes, double
quotes and backslashes off on the way. The word that stands for a text is read
back as that text, and the reader stops right behind it. Two things make this
work: every chunk is written in a style that carries each of its characters
(`Shell.carried_chunks`), and the reader is bare again behind every chunk
(`Shell.read_write`).

Main results:

* `Shell.read_word` — a word is read back, up to where it ends;
* `Shell.word_append_inj` — so a word is determined by a text that begins with
  it, and by the word itself.
-/

namespace ServiceScript

-- ---------------------------------------------------------------------------
-- The reader
-- ---------------------------------------------------------------------------

/-- Where a reader stands in a word. -/
inductive QuoteState where
  | bare
  | single
  | double
  -- outside of quotes, behind a backslash
  | escaped
  -- between double quotes, behind a backslash
  | doubleEscaped
deriving DecidableEq

def endsWord (c : Char) : Bool := c = ' ' || c = '\t' || c = '\n'

/-- Whether a text can stand right behind a word: it is empty or ends it. -/
def EndsWord (rest : Text) : Prop := ∀ c ∈ rest.head?, endsWord c = true

/-- Whether a character means more than itself where it stands. Between single
quotes and behind a backslash none does. -/
def isSpecial : QuoteState → Char → Bool
  | .bare, c => ("|&;<>()$\x60*?[#~=%!\x7b\x7d^" : Text).contains c
  | .double, c => ("$\x60" : Text).contains c
  | _, _ => false

namespace Shell

/-- Reads the rest of a word: what it means, and what stands behind it. There is
none if the quotes are not closed, or if a character is met that means more
than itself. -/
def read : QuoteState → Text → Option (Text × Text)
  | .bare, [] => some ([], [])
  | .bare, c :: rest =>
    if endsWord c then some ([], c :: rest)
    else if c = '\'' then read .single rest
    else if c = '"' then read .double rest
    else if c = '\\' then read .escaped rest
    else if isSpecial .bare c then none
    else (read .bare rest).map fun (word, behind) => (c :: word, behind)
  | .single, c :: rest =>
    if c = '\'' then read .bare rest
    else (read .single rest).map fun (word, behind) => (c :: word, behind)
  | .double, c :: rest =>
    if c = '"' then read .bare rest
    else if c = '\\' then read .doubleEscaped rest
    else if isSpecial .double c then none
    else (read .double rest).map fun (word, behind) => (c :: word, behind)
  | .escaped, c :: rest =>
    if c = '\n' then read .bare rest
    else (read .bare rest).map fun (word, behind) => (c :: word, behind)
  | .doubleEscaped, c :: rest =>
    if c = '\n' then read .double rest
    else if ("$\x60\"\\" : Text).contains c then
      (read .double rest).map fun (word, behind) => (c :: word, behind)
    else (read .double rest).map fun (word, behind) => ('\\' :: c :: word, behind)
  | _, [] => none

def prepend (t : Text) (r : Text × Text) : Text × Text := (t ++ r.1, r.2)

theorem map_prepend_nil (r : Option (Text × Text)) : r.map (prepend []) = r := by
  cases r <;> rfl

theorem map_prepend_append (s t : Text) (r : Option (Text × Text)) :
    (r.map (prepend t)).map (prepend s) = r.map (prepend (s ++ t)) := by
  cases r <;> simp [prepend]

theorem map_prepend_cons (c : Char) (t : Text) (r : Option (Text × Text)) :
    ((r.map (prepend t)).map fun (word, behind) => (c :: word, behind)) =
      r.map (prepend (c :: t)) := by
  cases r <;> simp [prepend]

-- ---------------------------------------------------------------------------
-- Chunks and the styles that carry them
-- ---------------------------------------------------------------------------

end Shell

/-- Whether a style carries a character so that a reader finds it again. -/
def Style.carries : Style → Char → Bool
  | .bare, c => isPlain c
  | .single, c => c ≠ '\''
  | .double, c => !("\x60$!^" : Text).contains c

def Shell.Chunk.Carried (chunk : Shell.Chunk) : Prop :=
  ∀ c ∈ chunk.text, chunk.style.carries c = true

theorem Shell.Chunk.Carried.cons {chunk : Shell.Chunk} {c : Char}
    (hc : chunk.style.carries c = true) (h : chunk.Carried) :
    Shell.Chunk.Carried { chunk with text := c :: chunk.text } := by
  intro x hx
  rcases List.mem_cons.1 hx with rfl | hx
  · exact hc
  · exact h x hx

namespace Styles

def allows (s : Styles) : Style → Bool
  | .bare => s.bare
  | .single => s.single
  | .double => s.double

theorem allows_plainest {s : Styles} (h : s.isEmpty = false) : s.allows s.plainest = true := by
  obtain ⟨bare, single, double⟩ := s
  revert h
  cases bare <;> cases single <;> cases double <;> decide

/-- A style that remains after a character was there before, and carries it. -/
theorem allows_narrow {s : Styles} {c : Char} {style : Style}
    (h : (s.narrow c).allows style = true) :
    s.allows style = true ∧ style.carries c = true := by
  cases style with
  | bare =>
    simp only [allows, narrow, Bool.and_eq_true] at h
    exact h
  | single =>
    simp only [allows, narrow, Bool.and_eq_true] at h
    refine ⟨h.1, ?_⟩
    by_cases hc : c = '\''
    · rw [hc] at h
      exact absurd h.2 (by decide)
    · simp [Style.carries, hc]
  | double =>
    simp only [allows, narrow, Bool.and_eq_true] at h
    exact h

/-- A chunk begins in styles that carry its first character. -/
theorem carries_of_beginning {c : Char} {style : Style}
    (h : (beginning c).allows style = true) : style.carries c = true := by
  unfold beginning at h
  split at h
  · next hc =>
    -- the circumflex is carried between single quotes and nowhere else
    rw [hc]
    cases style with
    | single => decide
    | bare => simp [allows] at h
    | double => simp [allows] at h
  · exact (allows_narrow h).2

/-- A chunk can begin with any character: no character is refused by both kinds
of quotes, but for the circumflex, which single quotes carry in front. -/
theorem isEmpty_beginning (c : Char) : (beginning c).isEmpty = false := by
  unfold beginning
  split
  · rfl
  · next hc =>
    by_cases hd : ("\x60$!^" : Text).contains c = true
    · -- double quotes refuse it, and single quotes do not
      have hmem : c ∈ ['\x60', '$', '!', '^'] := List.contains_iff_mem.1 hd
      simp only [List.mem_cons, List.not_mem_nil, or_false] at hmem
      rcases hmem with rfl | rfl | rfl | rfl
      · decide
      · decide
      · decide
      · exact absurd rfl hc
    · simp only [isEmpty, narrow, all, Bool.eq_false_iff.2 hd, Bool.not_false, Bool.and_true,
        Bool.not_true, Bool.and_false]

end Styles

namespace Shell

/-- A rest of a chunk in a style that is allowed, with the chunks behind it. -/
theorem carried_chunksFrom {styles : Styles} {t : Text} (h : styles.isEmpty = false) :
    styles.allows (chunksFrom styles t).1.style = true ∧
      (chunksFrom styles t).1.Carried ∧ ∀ k ∈ (chunksFrom styles t).2, k.Carried := by
  induction t generalizing styles with
  | nil =>
    exact ⟨Styles.allows_plainest h, by simp [Chunk.Carried, chunksFrom], by simp [chunksFrom]⟩
  | cons c rest ih =>
    rw [chunksFrom]
    split
    · -- no style carries `c` as well: it begins a chunk of its own
      obtain ⟨hstyle, hchunk, hlater⟩ := ih (Styles.isEmpty_beginning c)
      refine ⟨Styles.allows_plainest h, by simp [Chunk.Carried], ?_⟩
      intro k hk
      rcases List.mem_cons.1 hk with rfl | hk
      · exact hchunk.cons (Styles.carries_of_beginning hstyle)
      · exact hlater k hk
    · next hne =>
      -- the style that the rest ends up with was allowed, so it carries `c` too
      obtain ⟨hstyle, hchunk, hlater⟩ := ih (Bool.eq_false_iff.2 hne)
      obtain ⟨hallowed, hc⟩ := Styles.allows_narrow hstyle
      exact ⟨hallowed, hchunk.cons hc, hlater⟩

/-- Every chunk of a text has a style that carries its characters. -/
theorem carried_chunks (t : Text) : ∀ k ∈ chunks t, k.Carried := by
  cases t with
  | nil => simp [chunks]
  | cons c rest =>
    obtain ⟨hstyle, hchunk, hlater⟩ :=
      carried_chunksFrom (t := rest) (Styles.isEmpty_beginning c)
    intro k hk
    rcases List.mem_cons.1 hk with rfl | hk
    · exact hchunk.cons (Styles.carries_of_beginning hstyle)
    · exact hlater k hk

/-- No character is lost where a text is cut into chunks, from any styles on. -/
theorem text_chunksFrom (styles : Styles) (t : Text) :
    (chunksFrom styles t).1.text ++ (chunksFrom styles t).2.flatMap Chunk.text = t := by
  induction t generalizing styles with
  | nil => rfl
  | cons c rest ih =>
    rw [chunksFrom]
    split
    · simpa using ih (Styles.beginning c)
    · simpa using ih (styles.narrow c)

theorem text_chunks (t : Text) : (chunks t).flatMap Chunk.text = t := by
  cases t with
  | nil => rfl
  | cons c rest =>
    rw [chunks, List.flatMap_cons, List.cons_append, text_chunksFrom]

-- ---------------------------------------------------------------------------
-- Reading what was written
-- ---------------------------------------------------------------------------

/-- A plain character is none that a reader does something about. -/
theorem ne_of_isPlain {c d : Char} (hc : isPlain c = true) (hd : isPlain d = false) : c ≠ d := by
  rintro rfl
  rw [hc] at hd
  exact absurd hd (by decide)

/-- What none of some characters has tells a character apart from them. -/
theorem contains_eq_false {others : Text} {p : Char → Bool} {c : Char} (hc : p c = true)
    (hothers : others.all (fun d => !p d) = true) : others.contains c = false := by
  rw [Bool.eq_false_iff]
  intro h
  have hnot := List.all_eq_true.1 hothers c (List.contains_iff_mem.1 h)
  rw [hc] at hnot
  exact Bool.false_ne_true hnot

theorem isSpecial_of_isPlain {c : Char} (hc : isPlain c = true) : isSpecial .bare c = false :=
  contains_eq_false hc rfl

theorem endsWord_of_isPlain {c : Char} (hc : isPlain c = true) : endsWord c = false := by
  have hspace : c ≠ ' ' := ne_of_isPlain hc (by decide)
  have htab : c ≠ '\t' := ne_of_isPlain hc (by decide)
  have hline : c ≠ '\n' := ne_of_isPlain hc (by decide)
  simp [endsWord, hspace, htab, hline]

/-- Plain characters outside of quotes are read as themselves. -/
theorem read_bare {t : Text} (h : ∀ c ∈ t, isPlain c = true) (rest : Text) :
    read .bare (t ++ rest) = (read .bare rest).map (prepend t) := by
  induction t with
  | nil => exact (map_prepend_nil _).symm
  | cons c t ih =>
    have hc := h c List.mem_cons_self
    have hsingle : c ≠ '\'' := ne_of_isPlain hc (by decide)
    have hdouble : c ≠ '"' := ne_of_isPlain hc (by decide)
    have hbackslash : c ≠ '\\' := ne_of_isPlain hc (by decide)
    rw [List.cons_append, read, endsWord_of_isPlain hc, if_neg Bool.false_ne_true,
      if_neg hsingle, if_neg hdouble, if_neg hbackslash, isSpecial_of_isPlain hc,
      if_neg Bool.false_ne_true, ih fun d hd => h d (List.mem_cons_of_mem _ hd),
      map_prepend_cons]

/-- What stands between single quotes is read as itself. -/
theorem read_single {t : Text} (h : '\'' ∉ t) (rest : Text) :
    read .single (t ++ '\'' :: rest) = (read .bare rest).map (prepend t) := by
  induction t with
  | nil => rw [List.nil_append, read, if_pos rfl, map_prepend_nil]
  | cons c t ih =>
    have hc : c ≠ '\'' := fun e => h (e ▸ List.mem_cons_self)
    rw [List.cons_append, read, if_neg hc, ih fun hm => h (List.mem_cons_of_mem _ hm),
      map_prepend_cons]

/-- The escaped form of a text is read between double quotes as the text. -/
theorem read_double {t : Text} (h : ∀ c ∈ t, isSpecial .double c = false) (rest : Text) :
    read .double (t.flatMap escapeDouble ++ '"' :: rest) =
      (read .bare rest).map (prepend t) := by
  induction t with
  | nil => rw [List.flatMap_nil, List.nil_append, read, if_pos rfl, map_prepend_nil]
  | cons c t ih =>
    have hc := h c List.mem_cons_self
    have ih := ih fun d hd => h d (List.mem_cons_of_mem _ hd)
    rw [List.flatMap_cons, List.append_assoc, escapeDouble]
    by_cases he : c = '"' ∨ c = '\\'
    · -- escaped: the backslash is taken off again
      have hline : c ≠ '\n' := by rintro rfl; simp at he
      have hescaped : ("$\x60\"\\" : Text).contains c = true := by
        rcases he with rfl | rfl <;> decide
      rw [if_pos he, List.cons_append, List.singleton_append, read,
        if_neg (by decide : '\\' ≠ '"'), if_pos rfl, read, if_neg hline, if_pos hescaped, ih,
        map_prepend_cons]
    · rw [if_neg he, List.singleton_append, read, if_neg fun hq => he (.inl hq),
        if_neg fun hq => he (.inr hq), hc, if_neg Bool.false_ne_true, ih, map_prepend_cons]

theorem isSpecial_of_carries {c : Char} (hc : Style.double.carries c = true) :
    isSpecial .double c = false :=
  contains_eq_false hc rfl

/-- Behind a chunk the reader is bare again, and has the text of the chunk. -/
theorem read_write {chunk : Chunk} (h : chunk.Carried) (rest : Text) :
    read .bare (chunk.write ++ rest) = (read .bare rest).map (prepend chunk.text) := by
  obtain ⟨style, t⟩ := chunk
  cases style with
  | bare => exact read_bare h rest
  | single =>
    have ht : '\'' ∉ t := fun hm => absurd (h _ hm) (by simp [Style.carries])
    rw [Chunk.write, List.append_assoc, List.cons_append, read, if_neg (by decide), if_pos rfl]
    exact read_single ht rest
  | double =>
    have ht : ∀ c ∈ t, isSpecial .double c = false :=
      fun c hc => isSpecial_of_carries (h c hc)
    rw [Chunk.write, List.append_assoc, List.cons_append, read, if_neg (by decide),
      if_neg (by decide), if_pos rfl]
    exact read_double ht rest

/-- Chunks one behind the other are read as their texts in order. -/
theorem read_flatMap_write {ks : List Chunk} (h : ∀ k ∈ ks, k.Carried) (rest : Text) :
    read .bare (ks.flatMap Chunk.write ++ rest) =
      (read .bare rest).map (prepend (ks.flatMap Chunk.text)) := by
  -- each chunk leaves the reader bare, so the next one is read like the first
  induction ks with
  | nil => exact (map_prepend_nil _).symm
  | cons k ks ih =>
    rw [List.flatMap_cons, List.append_assoc, read_write (h k List.mem_cons_self),
      ih fun j hj => h j (List.mem_cons_of_mem _ hj), map_prepend_append, List.flatMap_cons]

/-- **A word is read back**: the reader finds the text that it stands for, and
stops right behind it. -/
theorem read_word (t : Text) {rest : Text} (h : EndsWord rest) :
    read .bare (word t ++ rest) = some (t, rest) := by
  have hend : read .bare rest = some ([], rest) := by
    cases rest with
    | nil => rfl
    | cons c rest => rw [read, if_pos (h c rfl)]
  unfold word
  split
  · next ht =>
    rw [ht]
    exact hend
  · rw [read_flatMap_write (carried_chunks t), text_chunks, hend, Option.map_some, prepend,
      List.append_nil]

/-- A word is determined by a text that it begins, with what stands behind it. -/
theorem word_append_inj {t u rest behind : Text} (hr : EndsWord rest) (hb : EndsWord behind)
    (h : word t ++ rest = word u ++ behind) : t = u ∧ rest = behind := by
  -- both readings are of the same text
  have ht := read_word t hr
  rw [h, read_word u hb, Option.some.injEq, Prod.mk.injEq] at ht
  exact ⟨ht.1.symm, ht.2.symm⟩

/-- Two texts with one word are one text. -/
theorem word_inj {t u : Text} (h : word t = word u) : t = u := by
  have hnil : EndsWord [] := by simp [EndsWord]
  exact (word_append_inj hnil hnil (by rw [h])).1

-- ---------------------------------------------------------------------------
-- The characters of a word
-- ---------------------------------------------------------------------------

theorem mem_of_mem_escapeDouble {c d : Char} (h : c ∈ escapeDouble d) : c = d ∨ c = '\\' := by
  unfold escapeDouble at h
  split at h
  · simpa [or_comm] using h
  · exact .inl (List.mem_singleton.1 h)

theorem mem_of_mem_write {c : Char} {chunk : Chunk} (h : c ∈ chunk.write) :
    c ∈ chunk.text ∨ c ∈ ['\'', '"', '\\'] := by
  obtain ⟨style, t⟩ := chunk
  cases style with
  | bare => exact .inl h
  | single =>
    simp only [Chunk.write, List.cons_append, List.mem_cons, List.mem_append,
      List.not_mem_nil, or_false] at h ⊢
    rcases h with h | h | h
    · exact .inr (.inl h)
    · exact .inl h
    · exact .inr (.inl h)
  | double =>
    simp only [Chunk.write, List.cons_append, List.mem_cons, List.mem_append, List.mem_flatMap,
      List.not_mem_nil, or_false] at h ⊢
    rcases h with h | ⟨d, hd, hc⟩ | h
    · exact .inr (.inr (.inl h))
    · rcases mem_of_mem_escapeDouble hc with rfl | hc
      · exact .inl hd
      · exact .inr (.inr (.inr hc))
    · exact .inr (.inr (.inl h))

/-- A word has the characters of its text in it, quotes and backslashes, and no others. -/
theorem mem_of_mem_word {c : Char} {t : Text} (h : c ∈ word t) :
    c ∈ t ∨ c ∈ ['\'', '"', '\\'] := by
  unfold word at h
  split at h
  · have hc : c ∈ ['\'', '\''] := h
    simp only [List.mem_cons, List.not_mem_nil, or_false, or_self] at hc
    simp [hc]
  · obtain ⟨k, hk, hc⟩ := List.mem_flatMap.1 h
    rcases mem_of_mem_write hc with hc | hc
    · have ht : c ∈ (chunks t).flatMap Chunk.text := List.mem_flatMap.2 ⟨k, hk, hc⟩
      rw [text_chunks] at ht
      exact .inl ht
    · exact .inr hc

/-- The word of a text without line end is on one line. -/
theorem lineEnd_notMem_word {t : Text} (h : '\n' ∉ t) : '\n' ∉ word t := by
  intro hc
  rcases mem_of_mem_word hc with hc | hc
  · exact h hc
  · exact absurd hc (by decide)

end Shell

end ServiceScript
