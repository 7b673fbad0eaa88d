import ServiceScript.Proofs.Script.Completion
import ServiceScript.Script.Writer

/-!
# ServiceScript — what a file gets of a script

A script goes to its file through a buffer, so that the file gets its bytes
later than they are emitted, and a refusal of the file is met later than the
write that it refuses. The theory here says what this amounts to, for a host
with effects on any kind of state. A file that takes everything gets all bytes
of the script up to its fault, in their order, and it does not matter where the
buffer was written out. With a file that refuses everything it is a question of
how many bytes there are: as long as the buffer holds them all, a fault of the
script comes before the refusal.

Main definitions:

* `Host.TakesAll`, `Host.RefusesAll` — the two kinds of files.

Main results:

* `Script.send_of_takesAll`, `Script.send_of_refusesAll` — a script in such a file;
* `Script.writeTo_error_cases` — a script that is not written has a fault or is
  refused, on every host.
-/

namespace ServiceScript

variable {σ : Type}

/-- A file that takes all bytes, where `after` is the state with what has been
written. -/
def Host.TakesAll (host : Host (StateM σ)) (handle : host.Handle) (after : Bytes → σ) : Prop :=
  ∀ written bytes, host.append handle bytes (after written) = (.ok ⟨⟩, after (written ++ bytes))

/-- A file that refuses every byte and does not change. Writing nothing is no
reason to refuse. -/
def Host.RefusesAll (host : Host (StateM σ)) (handle : host.Handle) (cause : IoFault) (state : σ) :
    Prop :=
  ∀ bytes, host.append handle bytes state = (if bytes = [] then .ok ⟨⟩ else .error cause, state)

/-- A host that creates every file, and then refuses what is written into it. -/
def Host.refusing (cause : IoFault) : Host (StateM Unit) where
  Handle := Unit
  read _ := pure (.error .notFound)
  create _ := pure (.ok ⟨⟩)
  append _ bytes := pure (if bytes = [] then .ok ⟨⟩ else .error cause)

/-- There is a host whose files refuse every byte. -/
theorem Host.refusesAll_refusing (cause : IoFault) :
    (Host.refusing cause).RefusesAll ⟨⟩ cause ⟨⟩ := fun _ => rfl

namespace Script

-- ---------------------------------------------------------------------------
-- One step, told by what the host answers
-- ---------------------------------------------------------------------------

section Steps

variable {host : Host (StateM σ)} {handle : host.Handle} {refused : IoFault → Fault} {held : Bytes}
  {state state' : σ} {cause : IoFault}

/-- At the end of a script what is held back is written. -/
theorem send_nil_of_ok (h : host.append handle held state = (.ok ⟨⟩, state')) :
    send host handle refused held [] state = (.ok ⟨⟩, state') := by
  simp only [send, bind, StateT.bind, h]
  rfl

/-- A script is not written whose last bytes are refused. -/
theorem send_nil_of_error (h : host.append handle held state = (.error cause, state')) :
    send host handle refused held [] state = (.error (refused cause), state') := by
  simp only [send, bind, StateT.bind, h]
  rfl

/-- What is held back is written as well as it can be. -/
theorem send_fault (f : Fault) (rest : Script) :
    send host handle refused held (.error f :: rest) state =
      (.error f, (host.append handle held state).2) := by
  simp only [send, bind, StateT.bind]
  rfl

/-- What fits behind what is held back is held back too. -/
theorem send_of_fits {t : Text} (rest : Script)
    (h : held.length + (Utf8.encode t).length ≤ bufferSize) :
    send host handle refused held (.ok t :: rest) =
      send host handle refused (held ++ Utf8.encode t) rest := by
  rw [send]
  exact if_pos h

/-- What does not fit makes room first, which can be refused. -/
theorem send_of_flush_error {t : Text} (rest : Script)
    (h : ¬ held.length + (Utf8.encode t).length ≤ bufferSize)
    (hflush : host.append handle held state = (.error cause, state')) :
    send host handle refused held (.ok t :: rest) state = (.error (refused cause), state') := by
  rw [send, if_neg h]
  simp only [bind, StateT.bind, hflush]
  rfl

/-- Once there is room, a short text is held back. -/
theorem send_of_flush_short {t : Text} (rest : Script)
    (h : ¬ held.length + (Utf8.encode t).length ≤ bufferSize)
    (hflush : host.append handle held state = (.ok ⟨⟩, state'))
    (hshort : (Utf8.encode t).length < bufferSize) :
    send host handle refused held (.ok t :: rest) state =
      send host handle refused (Utf8.encode t) rest state' := by
  rw [send, if_neg h]
  simp only [bind, StateT.bind, hflush, if_pos hshort]

/-- A text that is longer than the buffer is written past it, which can be refused too.
-/
theorem send_of_flush_long {t : Text} (rest : Script)
    (h : ¬ held.length + (Utf8.encode t).length ≤ bufferSize)
    (hflush : host.append handle held state = (.ok ⟨⟩, state'))
    (hlong : ¬ (Utf8.encode t).length < bufferSize) :
    send host handle refused held (.ok t :: rest) state =
      match host.append handle (Utf8.encode t) state' with
      | (.error cause, state'') => (.error (refused cause), state'')
      | (.ok _, state'') => send host handle refused [] rest state'' := by
  rw [send, if_neg h]
  simp only [bind, StateT.bind, hflush, if_neg hlong]
  rcases host.append handle (Utf8.encode t) state' with ⟨_ | _, _⟩ <;> rfl

end Steps

-- ---------------------------------------------------------------------------
-- Whole scripts in the two kinds of files
-- ---------------------------------------------------------------------------

/-- A file that takes everything gets what is held back and then the bytes of the
script, and the script ends as it does. -/
theorem send_of_takesAll {host : Host (StateM σ)} {handle : host.Handle} {after : Bytes → σ}
    (h : host.TakesAll handle after) (refused : IoFault → Fault) (written held : Bytes)
    (s : Script) :
    send host handle refused held s (after written) =
      (s.outcome, after (written ++ held ++ Utf8.encode s.text)) := by
  -- the bytes that the file has and those that are held back change from step to
  -- step, but not what they are together
  induction s generalizing written held with
  | nil =>
    rw [send_nil_of_ok (h written held), text_nil, Utf8.encode_nil, List.append_nil]
    rfl
  | cons step rest ih =>
    cases step with
    | error f =>
      rw [send_fault, h written held, text_cons_error, Utf8.encode_nil, List.append_nil]
      rfl
    | ok t =>
      rw [outcome_cons_ok, text_cons_ok, Utf8.encode_append]
      by_cases hfits : held.length + (Utf8.encode t).length ≤ bufferSize
      · rw [send_of_fits rest hfits, ih]
        simp only [List.append_assoc]
      · by_cases hshort : (Utf8.encode t).length < bufferSize
        · rw [send_of_flush_short rest hfits (h written held) hshort, ih]
          simp only [List.append_assoc]
        · rw [send_of_flush_long rest hfits (h written held) hshort, h]
          dsimp only
          rw [ih, List.append_nil]
          simp only [List.append_assoc]

/-- What comes of a script in a file that refuses every byte, told by the bytes
and the outcome that it has in a sink that takes everything. -/
def refusedOutcome (refusal : Fault) (bytes : Bytes) (outcome : Except Fault Unit) :
    Except Fault Unit :=
  if bufferSize < bytes.length then .error refusal
  else match outcome with
    | .error f => .error f
    | .ok _ => if bytes = [] then .ok ⟨⟩ else .error refusal

theorem refusedOutcome_of_lt {refusal : Fault} {bytes : Bytes} (h : bufferSize < bytes.length)
    (outcome : Except Fault Unit) : refusedOutcome refusal bytes outcome = .error refusal :=
  if_pos h

/-- With no more than that a fault of the script goes before the refusal. -/
theorem refusedOutcome_of_le {refusal : Fault} {bytes : Bytes} (h : bytes.length ≤ bufferSize)
    (outcome : Except Fault Unit) :
    refusedOutcome refusal bytes outcome = match outcome with
      | .error f => .error f
      | .ok _ => if bytes = [] then .ok ⟨⟩ else .error refusal :=
  if_neg (Nat.not_lt.2 h)

/-- A file that refuses every byte is not changed by a script, and decides on its
outcome unless a fault comes before the buffer is full. -/
theorem send_of_refusesAll {host : Host (StateM σ)} {handle : host.Handle} {cause : IoFault}
    {state : σ} (h : host.RefusesAll handle cause state) (refused : IoFault → Fault)
    {held : Bytes} (hheld : held.length ≤ bufferSize) (s : Script) :
    send host handle refused held s state =
      (refusedOutcome (refused cause) (held ++ Utf8.encode s.text) s.outcome, state) := by
  induction s generalizing held with
  | nil =>
    rw [text_nil, Utf8.encode_nil, List.append_nil, refusedOutcome_of_le hheld, outcome_nil]
    have happend := h held
    by_cases hnil : held = []
    · rw [if_pos hnil] at happend ⊢
      exact send_nil_of_ok happend
    · rw [if_neg hnil] at happend ⊢
      exact send_nil_of_error happend
  | cons step rest ih =>
    cases step with
    | error f =>
      rw [send_fault, h held, text_cons_error, Utf8.encode_nil, List.append_nil,
        refusedOutcome_of_le hheld, outcome_cons_error]
    | ok t =>
      rw [outcome_cons_ok, text_cons_ok, Utf8.encode_append]
      by_cases hfits : held.length + (Utf8.encode t).length ≤ bufferSize
      · have hheld' : (held ++ Utf8.encode t).length ≤ bufferSize := by
          rw [List.length_append]
          exact hfits
        rw [send_of_fits rest hfits, ih hheld', List.append_assoc]
      · -- the buffer is written out here for the first time
        have hlong : bufferSize <
            (held ++ (Utf8.encode t ++ Utf8.encode (text rest))).length := by
          rw [List.length_append, List.length_append]
          omega
        rw [refusedOutcome_of_lt hlong]
        have happend := h held
        by_cases hnil : held = []
        · -- nothing was held back, so the step alone is too long for the buffer
          rw [if_pos hnil] at happend
          rw [hnil, List.length_nil] at hfits
          have hstep : ¬ (Utf8.encode t).length < bufferSize := by omega
          have hne : Utf8.encode t ≠ [] := by
            intro hempty
            rw [hempty] at hfits
            exact hfits (Nat.zero_le _)
          rw [send_of_flush_long rest (by rw [hnil, List.length_nil]; exact hfits) happend hstep,
            h, if_neg hne]
        · rw [if_neg hnil] at happend
          exact send_of_flush_error rest hfits happend

-- ---------------------------------------------------------------------------
-- Scripts that are not written
-- ---------------------------------------------------------------------------

/-- On every host a script that is not written has a fault of its own or is
refused. -/
theorem send_error_cases {host : Host (StateM σ)} {handle : host.Handle}
    {refused : IoFault → Fault} {held : Bytes} {s : Script} {state : σ} {f : Fault}
    (h : (send host handle refused held s state).1 = .error f) :
    (∃ cause, f = refused cause) ∨ s.outcome = .error f := by
  induction s generalizing held state with
  | nil =>
    rcases happend : host.append handle held state with ⟨cause | _, state'⟩
    · rw [send_nil_of_error happend] at h
      exact .inl ⟨cause, (Except.error.inj h).symm⟩
    · rw [send_nil_of_ok happend] at h
      cases h
  | cons step rest ih =>
    cases step with
    | error g =>
      rw [send_fault] at h
      exact .inr h
    | ok t =>
      by_cases hfits : held.length + (Utf8.encode t).length ≤ bufferSize
      · rw [send_of_fits rest hfits] at h
        exact ih h
      · rcases hflush : host.append handle held state with ⟨cause | _, state'⟩
        · rw [send_of_flush_error rest hfits hflush] at h
          exact .inl ⟨cause, (Except.error.inj h).symm⟩
        · by_cases hshort : (Utf8.encode t).length < bufferSize
          · rw [send_of_flush_short rest hfits hflush hshort] at h
            exact ih h
          · rw [send_of_flush_long rest hfits hflush hshort] at h
            rcases happend : host.append handle (Utf8.encode t) state' with ⟨cause | _, state''⟩
            · rw [happend] at h
              exact .inl ⟨cause, (Except.error.inj h).symm⟩
            · rw [happend] at h
              exact ih h

-- ---------------------------------------------------------------------------
-- From the creation of the file on
-- ---------------------------------------------------------------------------

/-- Where no file is created nothing is written. -/
theorem writeTo_of_error {host : Host (StateM σ)} {path : Path} {cause : IoFault}
    {state state' : σ} (h : host.create path state = (.error cause, state')) (s : Script) :
    s.writeTo host path state = (.error (.unwritableScript path cause), state') := by
  simp only [writeTo, bind, StateT.bind, h]
  rfl

/-- Where a file is created the script is sent to it, with nothing held back yet. -/
theorem writeTo_of_ok {host : Host (StateM σ)} {path : Path} {handle : host.Handle}
    {state state' : σ} (h : host.create path state = (.ok handle, state')) (s : Script) :
    s.writeTo host path state = send host handle (.unwritableScript path) [] s state' := by
  simp only [writeTo, bind, StateT.bind, h]

/-- A script that is not written is refused or has a fault of its own. -/
theorem writeTo_error_cases {host : Host (StateM σ)} {path : Path} {s : Script} {state : σ}
    {f : Fault} (h : (s.writeTo host path state).1 = .error f) :
    (∃ cause, f = .unwritableScript path cause) ∨ s.outcome = .error f := by
  rcases hcreate : host.create path state with ⟨cause | handle, state'⟩
  · rw [writeTo_of_error hcreate] at h
    exact .inl ⟨cause, (Except.error.inj h).symm⟩
  · rw [writeTo_of_ok hcreate] at h
    exact send_error_cases h

end Script

end ServiceScript
