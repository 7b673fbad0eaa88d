import ServiceScript.Proofs.Shell.Commands

/-!
# ServiceScript — texts as words

What quoting gives for a text, as a whole: the fault of a text with a NUL, and
else one word that a shell reads back. Here it is also told what a shell meets
on the way. Outside of quotes these are plain characters and the quotes
themselves, and a dollar sign or a back quote is met between single quotes only.

Quotes are written where they are needed and nowhere else. Each chunk that is
not bare makes the word longer than the text, so a word that is the text itself
is all bare.

Main results:

* `Shell.quietly_of_mem_met` — what a shell meets in a word;
* `Shell.word_eq_self_iff` — which texts are left as they are;
* `Shell.quote_faithful` — quoting as a whole.
-/

namespace ServiceScript.Shell

-- ---------------------------------------------------------------------------
-- What a shell meets in a word
-- ---------------------------------------------------------------------------

/-- The characters of a text, each with the state in which a reader meets it. -/
def met : QuoteState → Text → List (QuoteState × Char)
  | _, [] => []
  | state, c :: rest => (state, c) :: met (next state c).2 rest

/-- How a character is met that the reader does not act upon: outside of quotes
it is plain or a quote, and nothing is expanded but between single quotes. -/
structure Quietly (state : QuoteState) (c : Char) : Prop where
  bare : state = .bare → isPlain c = true ∨ c = '\'' ∨ c = '"'
  expansion : c = '$' ∨ c = '\x60' → state = .single

/-- The characters of a text are met from where the one before it leaves the reader. -/
theorem met_append (state : QuoteState) (t u : Text) :
    met state (t ++ u) = met state t ++ met (scan state t).2 u := by
  induction t generalizing state with
  | nil => rfl
  | cons c rest ih => rw [List.cons_append, met, ih, met, scan, List.cons_append]

theorem mem_of_mem_met {state q : QuoteState} {c : Char} {t : Text} (h : (q, c) ∈ met state t) :
    c ∈ t := by
  induction t generalizing state with
  | nil => exact absurd h List.not_mem_nil
  | cons d rest ih =>
    rw [met] at h
    rcases List.mem_cons.1 h with heq | hrest
    · cases heq
      exact List.mem_cons_self
    · exact List.mem_cons_of_mem _ (ih hrest)

theorem met_bare {t : Text} (h : ∀ c ∈ t, isPlain c = true) :
    met .bare t = t.map fun c => (.bare, c) := by
  induction t with
  | nil => rfl
  | cons c rest ih =>
    rw [met, next_bare (h c List.mem_cons_self), ih fun d hd => h d (List.mem_cons_of_mem _ hd)]
    rfl

/-- Characters up to the closing quote, and the quote, are met between single quotes. -/
theorem met_single {t : Text} (h : '\'' ∉ t) :
    met .single (t ++ ['\'']) = (t ++ ['\'']).map fun c => (.single, c) := by
  induction t with
  | nil => rfl
  | cons c rest ih =>
    have hc : c ≠ '\'' := fun e => h (e ▸ List.mem_cons_self)
    rw [List.cons_append, met, next_single hc, ih fun hm => h (List.mem_cons_of_mem _ hm)]
    rfl

/-- Nothing of a character escaped for double quotes is met outside of them. -/
theorem notBare_of_mem_met_escapeDouble {q : QuoteState} {c d : Char}
    (h : (q, c) ∈ met .double (escapeDouble d)) : q ≠ .bare := by
  unfold escapeDouble at h
  split at h
  · -- a backslash, and behind it a character that is escaped
    simp only [met, List.mem_cons, Prod.mk.injEq, List.not_mem_nil, or_false] at h
    rcases h with ⟨rfl, -⟩ | ⟨rfl, -⟩
    · decide
    · decide
  · simp only [met, List.mem_cons, Prod.mk.injEq, List.not_mem_nil, or_false] at h
    obtain ⟨rfl, -⟩ := h
    decide

/-- Between double quotes nothing is met outside of quotes. -/
theorem notBare_of_mem_met_double {t : Text} (ht : ∀ c ∈ t, isSpecial .double c = false)
    {q : QuoteState} {c : Char} (h : (q, c) ∈ met .double (t.flatMap escapeDouble ++ ['"'])) :
    q ≠ .bare := by
  induction t with
  | nil =>
    obtain ⟨rfl, -⟩ := Prod.mk.inj (List.mem_singleton.1 h)
    decide
  | cons d rest ih =>
    rw [List.flatMap_cons, List.append_assoc, met_append,
      scan_escapeDouble (ht d List.mem_cons_self), List.mem_append] at h
    rcases h with hd | hrest
    · exact notBare_of_mem_met_escapeDouble hd
    · exact ih (fun e he => ht e (List.mem_cons_of_mem _ he)) hrest

theorem ne_of_isSpecial_double {c : Char} (h : isSpecial .double c = false) :
    c ≠ '$' ∧ c ≠ '\x60' := by
  constructor
  · rintro rfl
    exact absurd h (by decide)
  · rintro rfl
    exact absurd h (by decide)

/-- The reader acts upon nothing in a chunk. -/
theorem quietly_write {chunk : Chunk} (hchunk : chunk.Carried) {q : QuoteState} {c : Char}
    (h : (q, c) ∈ met .bare chunk.write) : Quietly q c := by
  obtain ⟨style, t⟩ := chunk
  cases style with
  | bare =>
    have hplain : ∀ d ∈ t, isPlain d = true := hchunk
    have hmet : (q, c) ∈ t.map fun d => (QuoteState.bare, d) := by
      rw [← met_bare hplain]
      exact h
    obtain ⟨d, hd, heq⟩ := List.mem_map.1 hmet
    cases heq
    have hc := hplain c hd
    have hdollar : c ≠ '$' := ne_of_isPlain hc (by decide)
    have hbackquote : c ≠ '\x60' := ne_of_isPlain hc (by decide)
    exact ⟨fun _ => .inl hc, fun he => (he.elim hdollar hbackquote).elim⟩
  | single =>
    have ht : '\'' ∉ t := fun hm => absurd (hchunk _ hm) (by simp [Style.carries])
    have hmet : (q, c) ∈ (.bare, '\'') :: met .single (t ++ ['\'']) := h
    rcases List.mem_cons.1 hmet with heq | hrest
    · cases heq
      exact ⟨fun _ => .inr (.inl rfl), fun he => absurd he (by decide)⟩
    · rw [met_single ht] at hrest
      obtain ⟨d, -, heq⟩ := List.mem_map.1 hrest
      cases heq
      exact ⟨fun hbare => absurd hbare (by decide), fun _ => rfl⟩
  | double =>
    have ht : ∀ d ∈ t, isSpecial .double d = false := fun d hd => isSpecial_of_carries (hchunk d hd)
    have hmet : (q, c) ∈ (.bare, '"') :: met .double (t.flatMap escapeDouble ++ ['"']) := h
    rcases List.mem_cons.1 hmet with heq | hrest
    · cases heq
      exact ⟨fun _ => .inr (.inr rfl), fun he => absurd he (by decide)⟩
    · -- whatever is met is of the text, or a mark that was put to it
      refine ⟨fun hbare => absurd hbare (notBare_of_mem_met_double ht hrest), fun he => ?_⟩
      rcases mem_of_mem_write (mem_of_mem_met h) with hc | hc
      · obtain ⟨hdollar, hbackquote⟩ := ne_of_isSpecial_double (ht c hc)
        exact (he.elim hdollar hbackquote).elim
      · rcases he with rfl | rfl
        · exact absurd hc (by decide)
        · exact absurd hc (by decide)

theorem quietly_flatMap_write {ks : List Chunk} (hks : ∀ k ∈ ks, k.Carried) {q : QuoteState}
    {c : Char} (h : (q, c) ∈ met .bare (ks.flatMap Chunk.write)) : Quietly q c := by
  induction ks with
  | nil => exact absurd h List.not_mem_nil
  | cons k ks ih =>
    have hk := hks k List.mem_cons_self
    -- the next chunk is met outside of quotes again
    rw [List.flatMap_cons, met_append, scan_write hk, List.mem_append] at h
    rcases h with hfirst | hlater
    · exact quietly_write hk hfirst
    · exact ih (fun j hj => hks j (List.mem_cons_of_mem _ hj)) hlater

/-- In a word a shell meets nothing to act upon. -/
theorem quietly_of_mem_met {t : Text} {q : QuoteState} {c : Char}
    (h : (q, c) ∈ met .bare (word t)) : Quietly q c := by
  by_cases ht : t = []
  · rw [ht] at h
    have hquotes : (q, c) ∈ [(QuoteState.bare, '\''), (QuoteState.single, '\'')] := h
    simp only [List.mem_cons, Prod.mk.injEq, List.not_mem_nil, or_false] at hquotes
    rcases hquotes with ⟨rfl, rfl⟩ | ⟨rfl, rfl⟩
    · exact ⟨fun _ => .inr (.inl rfl), fun he => absurd he (by decide)⟩
    · exact ⟨fun hbare => absurd hbare (by decide), fun _ => rfl⟩
  · rw [word, if_neg ht] at h
    exact quietly_flatMap_write (carried_chunks t) h

-- ---------------------------------------------------------------------------
-- Texts that are left as they are
-- ---------------------------------------------------------------------------

theorem length_le_flatMap_escapeDouble (t : Text) : t.length ≤ (t.flatMap escapeDouble).length := by
  induction t with
  | nil => exact Nat.le_refl _
  | cons c rest ih =>
    have hc : 1 ≤ (escapeDouble c).length := by
      unfold escapeDouble
      split
      · exact Nat.le_succ 1
      · exact Nat.le_refl 1
    rw [List.flatMap_cons, List.length_append, List.length_cons]
    omega

/-- Quotes make a chunk longer. -/
theorem length_write (chunk : Chunk) :
    chunk.style = .bare ∧ chunk.write = chunk.text ∨ chunk.text.length < chunk.write.length := by
  obtain ⟨style, t⟩ := chunk
  cases style with
  | bare => exact .inl ⟨rfl, rfl⟩
  | single =>
    right
    show t.length < ('\'' :: t ++ ['\'']).length
    simp only [List.cons_append, List.length_cons, List.length_append]
    omega
  | double =>
    right
    show t.length < ('"' :: t.flatMap escapeDouble ++ ['"']).length
    have h := length_le_flatMap_escapeDouble t
    simp only [List.cons_append, List.length_cons, List.length_append]
    omega

/-- Chunks are written with no fewer characters than they have. -/
theorem length_flatMap_text_le (ks : List Chunk) :
    (ks.flatMap Chunk.text).length ≤ (ks.flatMap Chunk.write).length := by
  induction ks with
  | nil => exact Nat.le_refl _
  | cons k ks ih =>
    rw [List.flatMap_cons, List.flatMap_cons, List.length_append, List.length_append]
    rcases length_write k with ⟨-, heq⟩ | hlt
    · rw [heq]
      omega
    · omega

/-- Chunks that are no longer than their text are all bare. -/
theorem style_eq_bare {ks : List Chunk}
    (h : (ks.flatMap Chunk.write).length ≤ (ks.flatMap Chunk.text).length) {k : Chunk}
    (hk : k ∈ ks) : k.style = .bare := by
  induction ks with
  | nil => exact absurd hk List.not_mem_nil
  | cons j js ih =>
    rw [List.flatMap_cons, List.flatMap_cons, List.length_append, List.length_append] at h
    have hjs := length_flatMap_text_le js
    rcases length_write j with ⟨hstyle, heq⟩ | hlt
    · rw [heq] at h
      rcases List.mem_cons.1 hk with rfl | hk
      · exact hstyle
      · exact ih (by omega) hk
    · omega

/-- A plain text is one chunk without quotes. -/
theorem chunksFrom_of_plain {styles : Styles} (hbare : styles.bare = true) {t : Text}
    (h : ∀ c ∈ t, isPlain c = true) : chunksFrom styles t = (⟨.bare, t⟩, []) := by
  induction t generalizing styles with
  | nil => rw [chunksFrom, Styles.plainest, if_pos hbare]
  | cons c rest ih =>
    have hnarrow : (styles.narrow c).bare = true := by
      show (styles.bare && isPlain c) = true
      rw [hbare, h c List.mem_cons_self]
      rfl
    have hne : (styles.narrow c).isEmpty = false := by
      rw [Styles.isEmpty, hnarrow]
      rfl
    rw [chunksFrom, hne, if_neg Bool.false_ne_true,
      ih hnarrow fun d hd => h d (List.mem_cons_of_mem _ hd)]

/-- A plain text is its own word, unless it is empty. -/
theorem word_of_plain {t : Text} (hne : t ≠ []) (h : ∀ c ∈ t, isPlain c = true) : word t = t := by
  rw [word, if_neg hne]
  cases t with
  | nil => exact absurd rfl hne
  | cons c rest =>
    have hc := h c List.mem_cons_self
    have hbeginning : (Styles.beginning c).bare = true := by
      have hcircumflex : c ≠ '^' := ne_of_isPlain hc (by decide)
      rw [Styles.beginning, if_neg hcircumflex]
      exact hc
    rw [chunks, chunksFrom_of_plain hbeginning fun d hd => h d (List.mem_cons_of_mem _ hd)]
    exact List.append_nil (c :: rest)

/-- Only a plain text that is not empty is its own word. -/
theorem word_eq_self_iff (t : Text) : word t = t ↔ t ≠ [] ∧ ∀ c ∈ t, isPlain c = true := by
  constructor
  · intro h
    have hne : t ≠ [] := by
      rintro rfl
      exact absurd h (by decide)
    refine ⟨hne, fun c hc => ?_⟩
    rw [word, if_neg hne] at h
    have hlength : ((chunks t).flatMap Chunk.write).length ≤
        ((chunks t).flatMap Chunk.text).length :=
      Nat.le_of_eq (congrArg List.length (h.trans (text_chunks t).symm))
    rw [← text_chunks t] at hc
    obtain ⟨k, hk, hck⟩ := List.mem_flatMap.1 hc
    -- the chunk of the character is bare, and so carries nothing but plain ones
    have hcarried := carried_chunks t k hk c hck
    rw [style_eq_bare hlength hk] at hcarried
    exact hcarried
  · rintro ⟨hne, h⟩
    exact word_of_plain hne h

-- ---------------------------------------------------------------------------
-- Quoting
-- ---------------------------------------------------------------------------

/-- A text is refused for a NUL, and the fault has the text in it. -/
theorem quote_eq_error_iff (t : Text) (f : Fault) :
    quote t = .error f ↔ '\x00' ∈ t ∧ f = .unquotable t := by
  unfold quote
  split
  · next h => simp [h, eq_comm]
  · next h => simp [h]

/-- A text without NUL is quoted as its word. -/
theorem quote_eq_ok_iff (t w : Text) : quote t = .ok w ↔ '\x00' ∉ t ∧ word t = w := by
  unfold quote
  split
  · next h => simp [h]
  · next h => simp [h]

/-- **Quoting is faithful.** It fails for a text with a NUL, with this text, and
for no other. Every other text has a word; a shell that reads it in front of a
blank, a line end or nothing consumes the word and no more, finds the text, and
meets nothing on the way to act upon; and it is the word of no other text. A
text is its own word if it is not empty and has no character but letters,
digits and the eight signs that need no quotes. -/
theorem quote_faithful (t : Text) :
    (∀ f, quote t = .error f ↔ '\x00' ∈ t ∧ f = .unquotable t) ∧
    ('\x00' ∉ t → ∃ w, quote t = .ok w ∧
      (∀ rest, EndsWord rest → read .bare (w ++ rest) = some (t, rest)) ∧
      (∀ state c, (state, c) ∈ met .bare w →
        (state = .bare → isPlain c = true ∨ c = '\'' ∨ c = '"') ∧
        (c = '$' ∨ c = '\x60' → state = .single)) ∧
      ∀ u, quote u = .ok w → u = t) ∧
    (quote t = .ok t ↔
      t ≠ [] ∧ ∀ c ∈ t, c.isAlphanum = true ∨ c ∈ ("+-./:@]_" : Text)) := by
  refine ⟨quote_eq_error_iff t, fun hnul => ?_, ?_⟩
  · refine ⟨word t, (quote_eq_ok_iff t _).2 ⟨hnul, rfl⟩, fun rest => read_word t,
      fun state c h => ?_, fun u hu => ?_⟩
    · have hquietly := quietly_of_mem_met h
      exact ⟨hquietly.bare, hquietly.expansion⟩
    · exact word_inj ((quote_eq_ok_iff u _).1 hu).2
  · have hplain : ∀ c, isPlain c = true ↔ c.isAlphanum = true ∨ c ∈ ("+-./:@]_" : Text) := by
      intro c
      rw [isPlain, Bool.or_eq_true, List.contains_iff_mem]
    rw [quote_eq_ok_iff, word_eq_self_iff]
    simp only [hplain]
    constructor
    · exact And.right
    · intro h
      refine ⟨fun hnul => ?_, h⟩
      exact absurd (h.2 _ hnul) (by decide)

/-- A text with an apostrophe, a dollar sign and a circumflex, which needs both kinds
of quotes and a chunk of its own for the circumflex, in front of a redirection. -/
theorem quote_faithful_mixed :
    '\x00' ∉ ("it's $5^2" : Text) ∧ EndsWord " >&2" ∧
    quote "it's $5^2" = .ok "\"it's \"'$5''^2'" ∧
    read .bare ("\"it's \"'$5''^2'" ++ " >&2") = some (("it's $5^2" : Text), (" >&2" : Text)) ∧
    (QuoteState.single, '$') ∈ met .bare "\"it's \"'$5''^2'" ∧
    (∀ state, (state, '$') ∈ met .bare "\"it's \"'$5''^2'" → state = .single) ∧
    ∀ u, quote u = .ok "\"it's \"'$5''^2'" → u = "it's $5^2" := by
  have hnul : '\x00' ∉ ("it's $5^2" : Text) := by decide
  have hends : EndsWord " >&2" := by
    intro c hc
    cases hc
    rfl
  have hquote : quote "it's $5^2" = .ok "\"it's \"'$5''^2'" := rfl
  have hdollar : (QuoteState.single, '$') ∈ met .bare "\"it's \"'$5''^2'" := by decide
  obtain ⟨w, hw, hread, hmet, hinj⟩ := (quote_faithful "it's $5^2").2.1 hnul
  cases hquote.symm.trans hw
  exact ⟨hnul, hends, hquote, hread _ hends, hdollar, fun state h => (hmet state _ h).2 (.inl rfl),
    hinj⟩

end ServiceScript.Shell
