import ServiceScript.Proofs.Exec.ModifierRun

/-!
# ServiceScript — what wrapping takes from a command

A value is a run of modifier characters and a body, and there is one way only to
see it so. From the run a script takes two answers: whether there is a `@` in
it, and whether there is a `-`. Order and number of the modifiers and the three
that are left out do not matter, so two values with the same body and the same
two answers are wrapped alike. They differ in what a fault shows of them.

Main results:

* `RunAndBody.iff_parse` — `ExecCommand.parse` finds the one run and body;
* `ExecCommand.wrap_of_runAndBody` — what wrapping gives, by run and body.
-/

namespace ServiceScript

/-- A value as a run of modifier characters and a body that begins with none. -/
structure RunAndBody (raw run body : Text) : Prop where
  whole : raw = run ++ body
  run : ∀ c ∈ run, c ∈ modifierChars
  body : ∀ c ∈ body.head?, c ∉ modifierChars

/-- The fault with another value as the command that it is about. -/
def Fault.about (raw : Text) : Fault → Fault
  | .argvZero _ => .argvZero raw
  | .emptyCommand directive _ => .emptyCommand directive raw
  | f => f

-- ---------------------------------------------------------------------------
-- The run and the body
-- ---------------------------------------------------------------------------

/-- The run is made of characters of modifiers. -/
theorem mem_modifierChars_of_mem_leadingRun {raw : Text} {c : Char} (h : c ∈ leadingRun raw) :
    c ∈ modifierChars := by
  have hall : (leadingRun raw).all modifierChars.contains = true := List.all_takeWhile
  exact List.contains_iff_mem.1 (List.all_eq_true.1 hall c h)

/-- What is left behind the run does not begin with the character of a modifier. -/
theorem notMem_modifierChars_of_head? {raw : Text} {c : Char} (h : (behindRun raw).head? = some c) :
    c ∉ modifierChars := by
  have hhead := List.head?_dropWhile_not modifierChars.contains raw
  rw [behindRun] at h
  rw [h] at hhead
  simpa using hhead

/-- The run that is taken off a command is the longest one. -/
theorem runAndBody_leadingRun (raw : Text) : RunAndBody raw (leadingRun raw) (behindRun raw) where
  whole := (leadingRun_append_behindRun raw).symm
  run _ := mem_modifierChars_of_mem_leadingRun
  body _ := notMem_modifierChars_of_head?

theorem contains_of_mem_run {run : Text} (h : ∀ c ∈ run, c ∈ modifierChars) :
    ∀ c ∈ run, modifierChars.contains c = true :=
  fun c hc => List.contains_iff_mem.2 (h c hc)

namespace RunAndBody

variable {raw run body : Text}

/-- The body begins with no run of its own. -/
theorem leadingRun_body (h : RunAndBody raw run body) : leadingRun body = [] := by
  cases hbody : body with
  | nil => rfl
  | cons c rest =>
    have hc : c ∉ modifierChars := h.body c (by rw [hbody]; rfl)
    exact List.takeWhile_cons_of_neg (by simpa using hc)

/-- There is one longest run, the one that is taken off. -/
theorem leadingRun_eq (h : RunAndBody raw run body) : leadingRun raw = run := by
  have hbody := h.leadingRun_body
  unfold leadingRun at hbody ⊢
  rw [h.whole, List.takeWhile_append_of_pos (contains_of_mem_run h.run), hbody, List.append_nil]

/-- There is one way to see a value so. -/
theorem behindRun_eq (h : RunAndBody raw run body) : behindRun raw = body := by
  have hsame : leadingRun raw ++ behindRun raw = run ++ body :=
    (leadingRun_append_behindRun raw).trans h.whole
  rw [h.leadingRun_eq] at hsame
  exact List.append_cancel_left hsame

/-- No longer beginning of the value is made of modifier characters. -/
theorem prefix_run (h : RunAndBody raw run body) {front : Text} (hfront : front <+: raw)
    (hall : ∀ c ∈ front, c ∈ modifierChars) : front <+: run := by
  obtain ⟨rest, hrest⟩ := hfront
  rw [← h.leadingRun_eq, leadingRun, ← hrest,
    List.takeWhile_append_of_pos (contains_of_mem_run hall)]
  exact List.prefix_append front _

end RunAndBody

namespace ExecCommand

/-- Every character of the run is the one of a modifier: the characters that are
stripped are the ones that mean something. -/
theorem map_char_modifiers (raw : Text) :
    (parse raw).modifiers.map Modifier.char = leadingRun raw := by
  have hraw : (parse raw).modifiers.map Modifier.char ++ (parse raw).body = raw := raw_parse raw
  rw [body_parse] at hraw
  exact List.append_cancel_right (hraw.trans (leadingRun_append_behindRun raw).symm)

/-- No character of the run is lost: each is one of the modifiers that are found. -/
theorem map_ofChar?_leadingRun (raw : Text) :
    (leadingRun raw).map Modifier.ofChar? = (parse raw).modifiers.map some := by
  rw [← map_char_modifiers, List.map_map]
  exact List.map_congr_left fun m _ => Modifier.ofChar?_eq_some_iff.2 rfl

end ExecCommand

/-- The longest run and the body behind it are what parsing finds. -/
theorem RunAndBody.iff_parse {raw run body : Text} :
    RunAndBody raw run body ↔
      (ExecCommand.parse raw).modifiers.map Modifier.char = run ∧
        (ExecCommand.parse raw).body = body := by
  rw [ExecCommand.map_char_modifiers, ExecCommand.body_parse]
  constructor
  · intro h
    exact ⟨h.leadingRun_eq, h.behindRun_eq⟩
  · rintro ⟨rfl, rfl⟩
    exact runAndBody_leadingRun raw

-- ---------------------------------------------------------------------------
-- Wrapping
-- ---------------------------------------------------------------------------

/-- A line is run as an account by a document with the line in it, unless the name of
the account cannot be quoted. -/
theorem Account.runAs_eq (a : Account) (line : Text) :
    a.runAs line =
      if '\x00' ∈ a.name then .error (.unquotable a.name)
      else .ok (switchProgram ++ " " ++ Shell.word a.name ++ " <<'" ++ hereDocumentEnd ++ "'\n" ++
        line ++ "\n" ++ hereDocumentEnd) := by
  unfold Account.runAs Shell.quote
  split
  · rfl
  · rfl

namespace ExecCommand

/-- What is written of a command: a fault for the modifier that is refused, before one
for an empty command, before what the account brings in. -/
theorem wrap_eq (raw directive : Text) (account : Option Account) :
    (parse raw).wrap directive account =
      if '@' ∈ leadingRun raw then .error (.argvZero raw)
      else if (behindRun raw).allBlank then .error (.emptyCommand directive raw)
      else match account with
        | none => .ok (parse raw).commandLine
        | some a =>
          if '\x00' ∈ a.name then .error (.unquotable a.name)
          else .ok (switchProgram ++ " " ++ Shell.word a.name ++ " <<'" ++ hereDocumentEnd ++
            "'\n" ++ (parse raw).commandLine ++ "\n" ++ hereDocumentEnd) := by
  rw [wrap_parse, commandFault?]
  by_cases hat : '@' ∈ leadingRun raw
  · rw [if_pos hat, if_pos hat]
  · rw [if_neg hat, if_neg hat]
    by_cases hblank : (behindRun raw).allBlank = true
    · rw [if_pos hblank, if_pos hblank]
    · rw [if_neg hblank, if_neg hblank]
      cases account with
      | none => rfl
      | some a => exact a.runAs_eq _

/-- Wrapping asks two questions of the run. The value itself is seen in faults
only. -/
theorem wrap_eq_mapError {raw other : Text} (directive : Text) (account : Option Account)
    (hbody : behindRun other = behindRun raw)
    (hat : '@' ∈ leadingRun other ↔ '@' ∈ leadingRun raw)
    (hdash : '-' ∈ leadingRun other ↔ '-' ∈ leadingRun raw) :
    (parse other).wrap directive account =
      ((parse raw).wrap directive account).mapError (Fault.about other) := by
  have hline : (parse other).commandLine = (parse raw).commandLine := by
    simp only [commandLine_parse, hbody, hdash]
  rw [wrap_eq, wrap_eq, hbody, hline]
  simp only [hat]
  by_cases h : '@' ∈ leadingRun raw
  · rw [if_pos h, if_pos h]
    rfl
  · rw [if_neg h, if_neg h]
    by_cases hblank : (behindRun raw).allBlank = true
    · rw [if_pos hblank, if_pos hblank]
      rfl
    · rw [if_neg hblank, if_neg hblank]
      cases account with
      | none => rfl
      | some a =>
        dsimp only
        -- the fault of a name shows nothing of the command
        split
        · rfl
        · rfl

/-- **A command by its run and its body.** A value has one run and one body, and
the run is the longest there is. Its modifiers are those of its characters, none
is lost, and the body has none. A `@` is reported before a blank body, and this
before a name of the account that cannot be quoted. Else the body is there, with
the guard once if there is a `-`, and in the here-document of the account if
there is one. So two values with the same body and the same answers about `@`
and `-` are wrapped alike, up to the value that a fault shows. -/
theorem wrap_of_runAndBody (raw directive : Text) (account : Option Account) :
    (∀ run body, RunAndBody raw run body ↔
      (parse raw).modifiers.map Modifier.char = run ∧ (parse raw).body = body) ∧
    ∀ run body, RunAndBody raw run body →
      (∀ front, front <+: raw → (∀ c ∈ front, c ∈ modifierChars) → front <+: run) ∧
      parse body = ⟨[], body⟩ ∧
      (∀ m, (parse raw).has m = true ↔ m.char ∈ run) ∧
      run.map Modifier.ofChar? = (parse raw).modifiers.map some ∧
      (parse raw).commandLine = (body ++ if '-' ∈ run then ignoreFailureGuard else []) ∧
      (parse raw).wrap directive account =
        (if '@' ∈ run then .error (.argvZero raw)
        else if body.allBlank then .error (.emptyCommand directive raw)
        else match account with
          | none => .ok (parse raw).commandLine
          | some a =>
            if '\x00' ∈ a.name then .error (.unquotable a.name)
            else .ok (switchProgram ++ " " ++ Shell.word a.name ++ " <<'" ++ hereDocumentEnd ++
              "'\n" ++ (parse raw).commandLine ++ "\n" ++ hereDocumentEnd)) ∧
      ∀ other run', RunAndBody other run' body →
        ('@' ∈ run' ↔ '@' ∈ run) → ('-' ∈ run' ↔ '-' ∈ run) →
          (parse other).wrap directive account =
            ((parse raw).wrap directive account).mapError (Fault.about other) := by
  refine ⟨fun run body => RunAndBody.iff_parse, fun run body h => ?_⟩
  obtain rfl := h.leadingRun_eq
  obtain rfl := h.behindRun_eq
  have hbare : parse (behindRun raw) = ⟨[], behindRun raw⟩ := by
    have hrun := h.leadingRun_body
    have hbody : leadingRun (behindRun raw) ++ behindRun (behindRun raw) = behindRun raw :=
      leadingRun_append_behindRun _
    rw [hrun, List.nil_append] at hbody
    rw [parse_eq, hrun, hbody]
    rfl
  refine ⟨fun front => h.prefix_run, hbare, has_parse raw, map_ofChar?_leadingRun raw,
    commandLine_parse raw, wrap_eq raw directive account, ?_⟩
  intro other run' hother hat hdash
  obtain rfl := hother.leadingRun_eq
  exact wrap_eq_mapError directive account hother.behindRun_eq hat hdash

/-- Two values with the modifiers in another order and number, one of which is
left out, and a dash that belongs to the body. -/
theorem wrap_of_runAndBody_reordered :
    RunAndBody "-+:-/usr/bin/env -x" "-+:-" "/usr/bin/env -x" ∧
    RunAndBody "!-/usr/bin/env -x" "!-" "/usr/bin/env -x" ∧
    parse "/usr/bin/env -x" = ⟨[], "/usr/bin/env -x"⟩ ∧
    (parse "-+:-/usr/bin/env -x").wrap execStartKey (some ⟨"o'brien"⟩) =
      .ok "/bin/su \"o'brien\" <<'EOSUWRAPPEDCMD'\n/usr/bin/env -x; (exit 0);\nEOSUWRAPPEDCMD" ∧
    (parse "!-/usr/bin/env -x").wrap execStartKey (some ⟨"o'brien"⟩) =
      ((parse "-+:-/usr/bin/env -x").wrap execStartKey (some ⟨"o'brien"⟩)).mapError
        (Fault.about "!-/usr/bin/env -x") := by
  have hraw : RunAndBody "-+:-/usr/bin/env -x" "-+:-" "/usr/bin/env -x" :=
    runAndBody_leadingRun "-+:-/usr/bin/env -x"
  have hother : RunAndBody "!-/usr/bin/env -x" "!-" "/usr/bin/env -x" :=
    runAndBody_leadingRun "!-/usr/bin/env -x"
  obtain ⟨-, h⟩ := wrap_of_runAndBody "-+:-/usr/bin/env -x" execStartKey (some ⟨"o'brien"⟩)
  obtain ⟨-, hbare, -, -, -, hwrap, hsame⟩ := h _ _ hraw
  exact ⟨hraw, hother, hbare, hwrap.trans rfl, hsame _ _ hother (by decide) (by decide)⟩

end ExecCommand

end ServiceScript
