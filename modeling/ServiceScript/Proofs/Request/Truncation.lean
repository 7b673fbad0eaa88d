import ServiceScript.Proofs.Request.Outcome
import ServiceScript.Script.Sink

/-!
# ServiceScript — scripts that are cut off

A sink of bounded size gets the bytes of a script step by step, and the step
that does not fit ends it. The cut can fall anywhere: between two steps, into
one, and into the bytes of a single character. Wherever it falls, what the sink
keeps is the beginning of all the bytes that the script emits, as long as the
sink is large; no step behind the cut leaves a trace, and none in front of it is
lost.

A script has no fault of its own that is about a sink, so that the outcome tells
whether the script was cut off.

Main results:

* `Script.emitWithin_eq` — a bounded sink truncates, whatever the script is;
* `Script.emitWithin_congr` — it does not matter how a text is cut into steps;
* `Request.emitWithin_script` — the scripts of units in bounded sinks.
-/

namespace ServiceScript

namespace Script

-- ---------------------------------------------------------------------------
-- One step
-- ---------------------------------------------------------------------------

/-- What fits is written, and leaves less room for the rest. -/
theorem emitWithin_cons_of_le {t : Text} {room : Nat} (rest : Script)
    (h : (Utf8.encode t).length ≤ room) :
    emitWithin room (.ok t :: rest) =
      (Utf8.encode t ++ (emitWithin (room - (Utf8.encode t).length) rest).1,
        (emitWithin (room - (Utf8.encode t).length) rest).2) := by
  rw [emitWithin]
  exact if_pos h

/-- Of what does not fit a beginning is written, and the sink is full. -/
theorem emitWithin_cons_of_lt {t : Text} {room : Nat} (rest : Script)
    (h : room < (Utf8.encode t).length) :
    emitWithin room (.ok t :: rest) =
      ((Utf8.encode t).take room, .error (.emission .sinkFull)) := by
  rw [emitWithin]
  exact if_neg (Nat.not_le.2 h)

-- ---------------------------------------------------------------------------
-- Whole scripts
-- ---------------------------------------------------------------------------

/-- What a sink with room for `room` bytes makes of a script, told by the bytes
and the outcome that the script has in a sink that takes everything. -/
def truncated (room : Nat) (bytes : Bytes) (outcome : Except Fault Unit) :
    Bytes × Except Fault Unit :=
  if bytes.length ≤ room then (bytes, outcome)
  else (bytes.take room, .error (.emission .sinkFull))

/-- A bounded sink keeps a beginning of the bytes of a script, and its refusal
goes before a fault that would have come later. -/
theorem emitWithin_eq (room : Nat) (s : Script) :
    emitWithin room s = truncated room (Utf8.encode s.text) s.outcome := by
  -- a step takes its bytes of the room that the steps behind it have
  induction s generalizing room with
  | nil =>
    rw [emitWithin, truncated]
    exact (if_pos (Nat.zero_le room)).symm
  | cons step rest ih =>
    cases step with
    | error f =>
      rw [emitWithin, truncated]
      exact (if_pos (Nat.zero_le room)).symm
    | ok t =>
      rw [text_cons_ok, outcome_cons_ok, Utf8.encode_append, truncated, List.length_append]
      rcases Nat.lt_or_ge room (Utf8.encode t).length with hlt | hle
      · -- the cut falls into this step
        have hfull : ¬ (Utf8.encode t).length + (Utf8.encode (text rest)).length ≤ room := by omega
        have hbehind : room - (Utf8.encode t).length = 0 := by omega
        rw [emitWithin_cons_of_lt rest hlt, if_neg hfull, List.take_append, hbehind,
          List.take_zero, List.append_nil]
      · rw [emitWithin_cons_of_le rest hle, ih, truncated]
        by_cases hrest : (Utf8.encode (text rest)).length ≤ room - (Utf8.encode t).length
        · have hall : (Utf8.encode t).length + (Utf8.encode (text rest)).length ≤ room := by omega
          rw [if_pos hrest, if_pos hall]
        · -- the cut falls behind this step, which is kept as a whole
          have hall : ¬ (Utf8.encode t).length + (Utf8.encode (text rest)).length ≤ room := by omega
          rw [if_neg hrest, if_neg hall, List.take_append, List.take_of_length_le hle]

/-- A sink does not see how a text is cut into steps. -/
theorem emitWithin_congr {s r : Script} (htext : s.text = r.text) (houtcome : s.outcome = r.outcome)
    (room : Nat) : emitWithin room s = emitWithin room r := by
  rw [emitWithin_eq, emitWithin_eq, htext, houtcome]

end Script

-- ---------------------------------------------------------------------------
-- The scripts of units
-- ---------------------------------------------------------------------------

/-- A fault that only a sink has. -/
def Fault.IsEmission (f : Fault) : Prop := ∃ cause, f = .emission cause

namespace Request

/-- What can be wrong with a request is never about where its script goes. -/
theorem not_isEmission_of_fault? {r : Request} {f : Fault} (h : r.script.fault? = some f) :
    ¬ f.IsEmission := by
  rintro ⟨cause, rfl⟩
  rcases nameFault?_or_ofText h with hname | htext
  · unfold nameFault? at hname
    split at hname
    · cases hname
    · cases hname
  · cases htext

/-- **Scripts in bounded sinks.** A sink of `room` bytes has all the bytes of a
script, and the script ends as it would have ended, if the bytes fit. Otherwise
the sink has the first `room` of them, and it is its refusal that ends the
script. The outcome tells which of the two it was. -/
theorem emitWithin_script (r : Request) (room : Nat) :
    let bytes := Utf8.encode r.script.text
    (r.script.emitWithin room =
      if bytes.length ≤ room then (bytes, r.script.outcome)
      else (bytes.take room, .error (.emission .sinkFull))) ∧
    ((∃ cause, (r.script.emitWithin room).2 = .error (.emission cause)) ↔
      room < bytes.length) := by
  intro bytes
  have htruncated := Script.emitWithin_eq room r.script
  refine ⟨htruncated, ?_⟩
  rw [htruncated, Script.truncated]
  by_cases hfits : (Utf8.encode r.script.text).length ≤ room
  · -- the outcome is that of the script, which has no such fault
    rw [if_pos hfits]
    refine iff_of_false ?_ (Nat.not_lt.2 hfits)
    rintro ⟨cause, houtcome⟩
    rw [Script.outcome_eq_of_fault?] at houtcome
    cases hfault : r.script.fault? with
    | none =>
      rw [hfault] at houtcome
      cases houtcome
    | some f =>
      rw [hfault] at houtcome
      have hf : f = .emission cause := Except.error.inj houtcome
      exact not_isEmission_of_fault? hfault ⟨cause, hf⟩
  · rw [if_neg hfits]
    exact iff_of_true ⟨.sinkFull, rfl⟩ (Nat.not_le.1 hfits)

end Request

end ServiceScript
