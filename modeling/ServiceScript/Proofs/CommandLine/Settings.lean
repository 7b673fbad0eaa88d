import Mathlib.Data.List.Nodup
import Mathlib.Data.List.Perm.Subperm
import ServiceScript.Proofs.CommandLine.Spelling
import ServiceScript.Proofs.Text.Utf8

/-!
# ServiceScript — settings in any order

A draft is told by what is **known** about each subject, an option or a flag. A
setting whose value is good makes one thing known about its own subject and leaves
the others alone, and where its subject is known already it is refused. So once
settings have been taken, what is known is what they give, whatever their order;
and two about the same subject are refused, wherever they stand.

Main definitions:

* `Setting.Gives`, `Setting.Valid` — what a setting makes known;
* `Draft.known` — what a draft knows;
* `Draft.Holds` — a draft knows what settings give, and nothing else;
* `Wanted` — what a command line is to ask for, with the settings for it.

Main results:

* `Draft.foldlM_add` — settings are taken if no two are about the same subject, and
  refused if two are;
* `CommandLine.parse_perm` — neither the order of settings nor their spelling matters;
* `CommandLine.parse_wanted` — what is wanted is what is read.
-/

namespace ServiceScript

-- ---------------------------------------------------------------------------
-- Subjects
-- ---------------------------------------------------------------------------

/-- What a setting can be about. -/
inductive Subject where
  | option (o : ValueOption)
  | flag (f : Flag)
deriving DecidableEq

def Subject.all : List Subject := ValueOption.all.map .option ++ Flag.all.map .flag

theorem Subject.mem_all (subject : Subject) : subject ∈ all := by
  rcases subject with (_ | _ | _ | _) | (_ | _) <;> decide

theorem Subject.nodup_all : all.Nodup := by decide

/-- What can be known about a subject. -/
inductive Known where
  | path (p : Path)
  | text (t : Text)
  | level (level : LogLevel)
  | raised

namespace Setting

def subject : Setting → Subject
  | .option o _ => .option o
  | .flag f => .flag f

/-- What a setting makes known, if its value is one that the option takes. -/
inductive Gives : Setting → Known → Prop
  | unit {p : Path} (h : p ≠ []) : Gives (.option .unit p) (.path p)
  | out {p : Path} (h : p ≠ []) : Gives (.option .out p) (.path p)
  | interpreter {value : Bytes} {t : Text} (h : value = Utf8.encode t) :
      Gives (.option .interpreter value) (.text t)
  | logLevel {value : Bytes} {t : Text} {level : LogLevel} (h : value = Utf8.encode t)
      (hlevel : LogLevel.parse t = .ok level) : Gives (.option .logLevel value) (.level level)
  | flag (f : Flag) : Gives (.flag f) .raised

/-- Whether the value of a setting is one that the option takes. -/
def Valid (s : Setting) : Prop := ∃ k, s.Gives k

theorem Gives.unique {s : Setting} {j k : Known} (hj : s.Gives j) (hk : s.Gives k) : j = k := by
  cases hj with
  | unit | out | flag =>
    cases hk
    rfl
  | interpreter hj =>
    cases hk with
    | interpreter hk => rw [Utf8.encode_inj (hj.symm.trans hk)]
  | logLevel hj hjlevel =>
    cases hk with
    | logLevel hk hklevel =>
      rw [Utf8.encode_inj (hj.symm.trans hk), hklevel] at hjlevel
      rw [Except.ok.inj hjlevel]

end Setting

-- ---------------------------------------------------------------------------
-- What a draft knows
-- ---------------------------------------------------------------------------

namespace Draft

/-- Whether a flag is raised in a draft. -/
def raised (d : Draft) : Flag → Bool
  | .strict => d.strict
  | .printModel => d.printModel

/-- What a draft knows about a subject. -/
def known (d : Draft) : Subject → Option Known
  | .option .unit => d.unit.map .path
  | .option .out => d.out.map .path
  | .option .interpreter => d.interpreter.map .text
  | .option .logLevel => d.logLevel.map .level
  | .flag f => if d.raised f then some .raised else none

/-- Makes one thing known about a subject. -/
def record (d : Draft) : Subject → Known → Draft
  | .option .unit, .path p => { d with unit := some p }
  | .option .out, .path p => { d with out := some p }
  | .option .interpreter, .text t => { d with interpreter := some t }
  | .option .logLevel, .level level => { d with logLevel := some level }
  | .flag .strict, .raised => { d with strict := true }
  | .flag .printModel, .raised => { d with printModel := true }
  | _, _ => d

theorem known_option_eq_none_iff (d : Draft) (o : ValueOption) :
    d.known (.option o) = none ↔ d.has o = false := by
  cases o <;> simp [known, has]

theorem known_flag_eq_none_iff (d : Draft) (f : Flag) :
    d.known (.flag f) = none ↔ d.raised f = false := by
  simp [known]

/-- What is recorded about a subject is known of it, and of no other one. -/
theorem known_record {s : Setting} {k : Known} (hs : s.Gives k) (d : Draft) (subject : Subject) :
    (d.record s.subject k).known subject =
      if subject = s.subject then some k else d.known subject := by
  cases hs with
  | flag f => cases f <;> rcases subject with (_ | _ | _ | _) | (_ | _) <;> rfl
  | unit | out | interpreter | logLevel =>
    rcases subject with (_ | _ | _ | _) | (_ | _) <;> rfl

/-- There is nothing else in a draft. -/
theorem eq_of_known_eq {d e : Draft} (h : ∀ subject, d.known subject = e.known subject) :
    d = e := by
  have hunit : d.unit = e.unit :=
    Option.map_injective (fun _ _ => Known.path.inj) (h (.option .unit))
  have hout : d.out = e.out :=
    Option.map_injective (fun _ _ => Known.path.inj) (h (.option .out))
  have hinterpreter : d.interpreter = e.interpreter :=
    Option.map_injective (fun _ _ => Known.text.inj) (h (.option .interpreter))
  have hlevel : d.logLevel = e.logLevel :=
    Option.map_injective (fun _ _ => Known.level.inj) (h (.option .logLevel))
  have hraised : ∀ f, d.raised f = e.raised f := by
    intro f
    rw [Bool.eq_iff_iff, ← not_iff_not, Bool.not_eq_true, Bool.not_eq_true,
      ← known_flag_eq_none_iff, ← known_flag_eq_none_iff, h]
  have hstrict : d.strict = e.strict := hraised .strict
  have hmodel : d.printModel = e.printModel := hraised .printModel
  cases d
  cases e
  simp only at hunit hout hinterpreter hlevel hstrict hmodel
  rw [hunit, hout, hinterpreter, hlevel, hstrict, hmodel]

-- ---------------------------------------------------------------------------
-- One setting
-- ---------------------------------------------------------------------------

theorem path_of_ne_nil {value : Bytes} (h : value ≠ []) : path value = .ok value := if_neg h

theorem decode_encode (t : Text) : decode (Utf8.encode t) = .ok t := by
  rw [decode, Utf8.decode?_encode]

/-- The bytes of a text that asks for a level are taken for the level. -/
theorem level_encode {t : Text} {level : LogLevel} (h : LogLevel.parse t = .ok level) :
    Draft.level (Utf8.encode t) = .ok level := by
  simp only [Draft.level, decode_encode, bind, Except.bind, h]

/-- A good setting about something that is not known yet is taken. -/
theorem add_of_gives {d : Draft} {s : Setting} {k : Known} (hs : s.Gives k)
    (hfree : d.known s.subject = none) : d.add s = .ok (d.record s.subject k) := by
  cases hs with
  | unit hp =>
    have hhas := (d.known_option_eq_none_iff .unit).1 hfree
    simp only [add, give, hhas, path_of_ne_nil hp]
    rfl
  | out hp =>
    have hhas := (d.known_option_eq_none_iff .out).1 hfree
    simp only [add, give, hhas, path_of_ne_nil hp]
    rfl
  | interpreter ht =>
    have hhas := (d.known_option_eq_none_iff .interpreter).1 hfree
    simp only [add, give, hhas, ht, decode_encode]
    rfl
  | logLevel ht hlevel =>
    have hhas := (d.known_option_eq_none_iff .logLevel).1 hfree
    simp only [add, give, hhas, ht, level_encode hlevel]
    rfl
  | flag f =>
    have hlowered := (d.known_flag_eq_none_iff f).1 hfree
    cases f <;> exact if_neg (ne_true_of_eq_false hlowered)

/-- A setting about something that is known is refused, whatever its value. -/
theorem add_of_known {d : Draft} {s : Setting} (h : d.known s.subject ≠ none) :
    d.add s = .error (.usage .repeatedOption) := by
  cases s with
  | option o value =>
    have hhas : d.has o = true := by
      rw [← Bool.not_eq_false, ← known_option_eq_none_iff]
      exact h
    exact if_pos hhas
  | flag f =>
    have hraised : d.raised f = true := by
      rw [← Bool.not_eq_false, ← known_flag_eq_none_iff]
      exact h
    cases f <;> exact if_pos hraised

-- ---------------------------------------------------------------------------
-- Settings one after the other
-- ---------------------------------------------------------------------------

/-- A draft knows what settings give, and nothing else. -/
def Holds (d : Draft) (settings : List Setting) : Prop :=
  ∀ subject k, d.known subject = some k ↔ ∃ s ∈ settings, s.subject = subject ∧ s.Gives k

theorem holds_empty : Holds {} [] := by
  intro subject k
  rcases subject with (_ | _ | _ | _) | (_ | _) <;> exact iff_of_false nofun (by simp)

/-- What a draft knows of settings does not depend on their order. -/
theorem Holds.perm {d : Draft} {settings others : List Setting} (h : d.Holds settings)
    (hperm : settings.Perm others) : d.Holds others := by
  intro subject k
  rw [h subject k]
  simp only [hperm.mem_iff]

/-- Settings determine the draft that knows them and nothing else. -/
theorem Holds.unique {d e : Draft} {settings : List Setting} (hd : d.Holds settings)
    (he : e.Holds settings) : d = e :=
  eq_of_known_eq fun subject => Option.ext fun k => (hd subject k).trans (he subject k).symm

/-- A draft that knows valid settings knows nothing of other subjects. -/
theorem Holds.known_eq_none_iff {d : Draft} {settings : List Setting} (h : d.Holds settings)
    (hvalid : ∀ s ∈ settings, s.Valid) (subject : Subject) :
    d.known subject = none ↔ subject ∉ settings.map Setting.subject := by
  rw [Option.eq_none_iff_forall_ne_some, List.mem_map]
  constructor
  · rintro hnone ⟨s, hs, rfl⟩
    obtain ⟨k, hk⟩ := hvalid s hs
    exact hnone k ((h _ k).2 ⟨s, hs, rfl, hk⟩)
  · intro hnew k hk
    obtain ⟨s, hs, hsubject, -⟩ := (h subject k).1 hk
    exact hnew ⟨s, hs, hsubject⟩

/-- A setting about a new subject is known with those before it. -/
theorem Holds.record {d : Draft} {settings : List Setting} {s : Setting} {k : Known}
    (h : d.Holds settings) (hs : s.Gives k) (hnew : s.subject ∉ settings.map Setting.subject) :
    (d.record s.subject k).Holds (settings ++ [s]) := by
  intro subject j
  rw [known_record hs]
  simp only [List.mem_append, List.mem_singleton]
  split
  · next heq =>
    -- of its subject there is no other setting
    constructor
    · intro hj
      rw [← Option.some.inj hj]
      exact ⟨s, .inr rfl, heq.symm, hs⟩
    · rintro ⟨r, hr | rfl, hsubject, hj⟩
      · exact absurd (List.mem_map.2 ⟨r, hr, hsubject.trans heq⟩) hnew
      · rw [hs.unique hj]
  · next hne =>
    rw [h subject j]
    constructor
    · rintro ⟨r, hr, hj⟩
      exact ⟨r, .inl hr, hj⟩
    · rintro ⟨r, hr | rfl, hsubject, hj⟩
      · exact ⟨r, hr, hsubject, hj⟩
      · exact absurd hsubject.symm hne

/-- Settings are taken if no two are about the same subject, and refused if two are. -/
theorem foldlM_add {d : Draft} {before settings : List Setting} (h : d.Holds before)
    (hvalid : ∀ s ∈ before ++ settings, s.Valid)
    (hbefore : (before.map Setting.subject).Nodup) :
    (((before ++ settings).map Setting.subject).Nodup →
      ∃ after, settings.foldlM Draft.add d = .ok after ∧ after.Holds (before ++ settings)) ∧
    (¬ ((before ++ settings).map Setting.subject).Nodup →
      settings.foldlM Draft.add d = .error (.usage .repeatedOption)) := by
  -- the settings that were taken go to the ones in front
  induction settings generalizing d before with
  | nil =>
    rw [List.append_nil]
    exact ⟨fun _ => ⟨d, rfl, h⟩, fun hdup => absurd hbefore hdup⟩
  | cons s rest ih =>
    have hknown := h.known_eq_none_iff (fun r hr => hvalid r (List.mem_append_left _ hr)) s.subject
    rw [List.foldlM_cons]
    by_cases hnew : s.subject ∈ before.map Setting.subject
    · rw [add_of_known fun hnone => hknown.1 hnone hnew]
      refine ⟨fun hnodup => ?_, fun _ => rfl⟩
      rw [List.map_append, List.nodup_append] at hnodup
      exact absurd rfl (hnodup.2.2 _ hnew _ List.mem_cons_self)
    · obtain ⟨k, hk⟩ := hvalid s (List.mem_append_right _ List.mem_cons_self)
      have hnodup : ((before ++ [s]).map Setting.subject).Nodup := by
        rw [List.map_append, List.map_singleton, ← List.concat_eq_append]
        exact hbefore.concat hnew
      rw [add_of_gives hk (hknown.2 hnew), List.append_cons]
      exact ih (h.record hk hnew) (by rwa [← List.append_cons]) hnodup

/-- Without a unit or without an output a draft cannot be completed. -/
theorem complete_of_known_eq_none {d : Draft}
    (h : d.known (.option .unit) = none ∨ d.known (.option .out) = none) :
    d.complete = .error (.usage .missingOption) := by
  unfold complete
  split
  · next unit out hunit hout =>
    rcases h with h | h
    · cases hunit.symm.trans (Option.map_eq_none_iff.1 h)
    · cases hout.symm.trans (Option.map_eq_none_iff.1 h)
  · rfl

end Draft

-- ---------------------------------------------------------------------------
-- What is wanted
-- ---------------------------------------------------------------------------

/-- A level by a text that asks for it. -/
structure AskedLevel where
  text : Text
  level : LogLevel
  parse_eq : LogLevel.parse text = .ok level

/-- What a command line is to ask for. -/
structure Wanted where
  unit : Path
  out : Path
  interpreter : Option Text
  logLevel : Option AskedLevel
  strict : Bool
  printModel : Bool
  unit_ne : unit ≠ []
  out_ne : out ≠ []

namespace Wanted

/-- The settings for it, each once, in one of their orders. -/
def settings (w : Wanted) : List Setting :=
  [.option .unit w.unit, .option .out w.out] ++
  (w.interpreter.toList.map fun t => .option .interpreter (Utf8.encode t)) ++
  (w.logLevel.toList.map fun asked => .option .logLevel (Utf8.encode asked.text)) ++
  (if w.strict then [.flag .strict] else []) ++
  (if w.printModel then [.flag .printModel] else [])

/-- What is then to be read. -/
def options (w : Wanted) : Options where
  unit := w.unit
  out := w.out
  interpreter := w.interpreter.getD "/bin/sh"
  strict := w.strict
  printModel := w.printModel
  logLevel := w.logLevel.map AskedLevel.level

def draft (w : Wanted) : Draft where
  unit := some w.unit
  out := some w.out
  interpreter := w.interpreter
  logLevel := w.logLevel.map AskedLevel.level
  strict := w.strict
  printModel := w.printModel

theorem complete_draft (w : Wanted) : w.draft.complete = .ok w.options := rfl

/-- What is wanted has settings for the subjects that something is known of, in order.
-/
theorem map_subject_settings (w : Wanted) :
    w.settings.map Setting.subject =
      Subject.all.filter fun subject => (w.draft.known subject).isSome := by
  obtain ⟨unit, out, interpreter, logLevel, strict, printModel, -, -⟩ := w
  cases interpreter <;> cases logLevel <;> cases strict <;> cases printModel <;> rfl

/-- What is wanted has no two settings about one subject. -/
theorem nodup_subjects (w : Wanted) : (w.settings.map Setting.subject).Nodup := by
  rw [map_subject_settings]
  exact Subject.nodup_all.filter _

/-- Each of the settings gives what is known in the end. -/
theorem exists_gives {w : Wanted} {s : Setting} (hs : s ∈ w.settings) :
    ∃ k, s.Gives k ∧ w.draft.known s.subject = some k := by
  simp only [settings, List.mem_append, List.mem_map, Option.mem_toList] at hs
  rcases hs with (((hs | ⟨t, ht, rfl⟩) | ⟨asked, hasked, rfl⟩) | hs) | hs
  · rcases List.mem_cons.1 hs with rfl | hs
    · exact ⟨.path w.unit, .unit w.unit_ne, rfl⟩
    · rw [List.mem_singleton.1 hs]
      exact ⟨.path w.out, .out w.out_ne, rfl⟩
  · exact ⟨.text t, .interpreter rfl, congrArg (Option.map Known.text) ht⟩
  · refine ⟨.level asked.level, .logLevel rfl asked.parse_eq, ?_⟩
    show (w.logLevel.map AskedLevel.level).map Known.level = _
    rw [hasked]
    rfl
  · split at hs
    · next hstrict =>
      rw [List.mem_singleton.1 hs]
      exact ⟨.raised, .flag .strict, if_pos hstrict⟩
    · cases hs
  · split at hs
    · next hmodel =>
      rw [List.mem_singleton.1 hs]
      exact ⟨.raised, .flag .printModel, if_pos hmodel⟩
    · cases hs

theorem valid_of_mem_settings {w : Wanted} {s : Setting} (hs : s ∈ w.settings) : s.Valid := by
  obtain ⟨k, hk, -⟩ := exists_gives hs
  exact ⟨k, hk⟩

/-- The draft of what is wanted knows its settings and nothing else. -/
theorem holds_draft (w : Wanted) : w.draft.Holds w.settings := by
  intro subject k
  constructor
  · intro hk
    have hmem : subject ∈ w.settings.map Setting.subject := by
      rw [map_subject_settings, List.mem_filter, hk]
      exact ⟨Subject.mem_all subject, rfl⟩
    obtain ⟨s, hs, rfl⟩ := List.mem_map.1 hmem
    obtain ⟨j, hj, hknown⟩ := exists_gives hs
    rw [hknown] at hk
    exact ⟨s, hs, rfl, Option.some.inj hk ▸ hj⟩
  · rintro ⟨s, hs, rfl, hk⟩
    obtain ⟨j, hj, hknown⟩ := exists_gives hs
    rw [hknown, hj.unique hk]

/-- Two settings of what is wanted are one, if they are about one subject. -/
theorem eq_of_subject_eq {w : Wanted} {r s : Setting} (hr : r ∈ w.settings)
    (hs : s ∈ w.settings) (h : r.subject = s.subject) : r = s :=
  List.inj_on_of_nodup_map w.nodup_subjects hr hs h

end Wanted

-- ---------------------------------------------------------------------------
-- Command lines
-- ---------------------------------------------------------------------------

namespace CommandLine

/-- Settings about different subjects are read as what they give. -/
theorem exists_parse_eq (program : Bytes) {settings : List Setting} {args : List Bytes}
    (h : Spelled settings args) (hvalid : ∀ s ∈ settings, s.Valid)
    (hnodup : (settings.map Setting.subject).Nodup) :
    ∃ d : Draft, d.Holds settings ∧ parse (program :: args) = d.complete := by
  obtain ⟨d, hd, hholds⟩ := (Draft.foldlM_add Draft.holds_empty hvalid List.nodup_nil).1 hnodup
  refine ⟨d, hholds, ?_⟩
  rw [parse_spelled program h, hd]
  rfl

/-- A second setting about a subject is refused. -/
theorem parse_of_not_nodup (program : Bytes) {settings : List Setting} {args : List Bytes}
    (h : Spelled settings args) (hvalid : ∀ s ∈ settings, s.Valid)
    (hdup : ¬ (settings.map Setting.subject).Nodup) :
    parse (program :: args) = .error (.usage .repeatedOption) := by
  rw [parse_spelled program h,
    (Draft.foldlM_add Draft.holds_empty hvalid List.nodup_nil).2 hdup]
  rfl

/-- Neither the order of settings nor their spelling matters, nor the name of the program. -/
theorem parse_perm {program other : Bytes} {settings others : List Setting}
    {args otherArgs : List Bytes} (h : Spelled settings args) (ho : Spelled others otherArgs)
    (hperm : settings.Perm others) (hvalid : ∀ s ∈ settings, s.Valid) :
    parse (program :: args) = parse (other :: otherArgs) := by
  have hovalid : ∀ s ∈ others, s.Valid := fun s hs => hvalid s (hperm.mem_iff.2 hs)
  have hnodup := (hperm.map Setting.subject).nodup_iff
  by_cases hdistinct : (settings.map Setting.subject).Nodup
  · obtain ⟨d, hd, hparse⟩ := exists_parse_eq program h hvalid hdistinct
    obtain ⟨e, he, hoparse⟩ := exists_parse_eq other ho hovalid (hnodup.1 hdistinct)
    rw [hparse, hoparse, (hd.perm hperm).unique he]
  · rw [parse_of_not_nodup program h hvalid hdistinct,
      parse_of_not_nodup other ho hovalid (hnodup.not.1 hdistinct)]

/-- The settings for what is wanted are read as what is wanted, in any order and spelling.
Without the unit or the output they are not enough, and with one more about a subject that
they have they are too many. -/
theorem parse_wanted (w : Wanted) (program : Bytes) {settings : List Setting}
    {args : List Bytes} (h : Spelled settings args) :
    (settings.Perm w.settings → parse (program :: args) = .ok w.options) ∧
    (settings.Subperm w.settings →
      .option .unit w.unit ∉ settings ∨ .option .out w.out ∉ settings →
        parse (program :: args) = .error (.usage .missingOption)) ∧
    ∀ s : Setting, s.Valid → s.subject ∈ w.settings.map Setting.subject →
      settings.Perm (s :: w.settings) →
        parse (program :: args) = .error (.usage .repeatedOption) := by
  refine ⟨fun hperm => ?_, fun hsub hmissing => ?_, fun s hs hsubject hperm => ?_⟩
  · have hvalid : ∀ s ∈ settings, s.Valid :=
      fun s hs => Wanted.valid_of_mem_settings (hperm.mem_iff.1 hs)
    have hnodup := (hperm.map Setting.subject).nodup_iff.2 w.nodup_subjects
    obtain ⟨d, hd, hparse⟩ := exists_parse_eq program h hvalid hnodup
    rw [hparse, (hd.perm hperm).unique w.holds_draft, w.complete_draft]
  · have hvalid : ∀ s ∈ settings, s.Valid :=
      fun s hs => Wanted.valid_of_mem_settings (hsub.subset hs)
    obtain ⟨kept, hkept, hsublist⟩ := hsub
    have hnodup : (settings.map Setting.subject).Nodup :=
      (hkept.map Setting.subject).nodup_iff.1 ((hsublist.map _).nodup w.nodup_subjects)
    obtain ⟨d, hd, hparse⟩ := exists_parse_eq program h hvalid hnodup
    -- what is about the unit or the output is the setting that is missing
    have hnone : ∀ s ∈ w.settings, s ∉ settings → d.known s.subject = none := by
      intro s hs hno
      rw [hd.known_eq_none_iff hvalid, List.mem_map]
      rintro ⟨r, hr, hrs⟩
      have hrw : r ∈ w.settings := hsublist.subset (hkept.mem_iff.2 hr)
      exact hno (Wanted.eq_of_subject_eq hrw hs hrs ▸ hr)
    rw [hparse, Draft.complete_of_known_eq_none]
    refine hmissing.imp (hnone _ ?_) (hnone _ ?_) <;> simp [Wanted.settings]
  · refine parse_of_not_nodup program h ?_ ?_
    · intro r hr
      rcases List.mem_cons.1 (hperm.mem_iff.1 hr) with rfl | hr
      · exact hs
      · exact Wanted.valid_of_mem_settings hr
    · rw [(hperm.map Setting.subject).nodup_iff, List.map_cons, List.nodup_cons]
      exact fun hno => hno.1 hsubject

/-- Values that look like options, one that is empty, and a name that is no text. -/
theorem parse_wanted_lookalikes :
    let most : List Text :=
      ["--strict", "--log-level", " +05 ", "--unit=--out=x=y", "--interpreter", ""]
    let out : List Text := ["--out", "-"]
    let again : List Text := ["--unit=--strict"]
    let line (args : List Text) : List Bytes := [0xFF] :: args.map Utf8.encode
    parse (line (most ++ out)) =
        .ok ⟨Utf8.encode "--out=x=y", [dash], "", true, false, some .trace⟩ ∧
      parse (line most) = .error (.usage .missingOption) ∧
      parse (line (most ++ out ++ again)) = .error (.usage .repeatedOption) := by
  intro most out again line
  let asked : AskedLevel := ⟨" +05 ", .trace, rfl⟩
  let w : Wanted :=
    ⟨Utf8.encode "--out=x=y", [dash], some "", some asked, true, false, by decide, by decide⟩
  let settings : List Setting := [.flag .strict, .option .logLevel (Utf8.encode asked.text),
    .option .unit w.unit, .option .interpreter []]
  have hmost : ∀ (last : List Setting) (args : List Text), Spelled last (args.map Utf8.encode) →
      Spelled (settings ++ last) ((most ++ args).map Utf8.encode) := by
    intro last args h
    have hlevel : StandsAlone (Utf8.encode asked.text) := .inl (by decide)
    have hempty : StandsAlone [] := .inl (by decide)
    have hwords : most.map Utf8.encode = [Flag.strict.argument] ++
        ([ValueOption.logLevel.argument, Utf8.encode asked.text] ++
          ([ValueOption.unit.argument ++ equalsSign :: w.unit] ++
            [ValueOption.interpreter.argument, []])) := by decide
    rw [List.map_append, hwords]
    simp only [List.append_assoc]
    exact .cons (.flag .strict) (.cons (.apart .logLevel hlevel)
      (.cons (.attached .unit w.unit) (.cons (.apart .interpreter hempty) h)))
  have hout : Setting.Spelled (.option .out w.out) (out.map Utf8.encode) :=
    .apart .out (.inr rfl)
  have hagain : Setting.Spelled (.option .unit (Utf8.encode "--strict"))
    (again.map Utf8.encode) := .attached .unit (Utf8.encode "--strict")
  refine ⟨?_, ?_, ?_⟩
  · exact (parse_wanted w [0xFF] (hmost [.option .out w.out] out (.cons hout .nil))).1 (by decide)
  · refine (parse_wanted w [0xFF] (hmost [] [] .nil)).2.1 ?_ (.inr (by decide))
    exact List.subperm_of_subset (by decide) (by decide)
  · have htwice := hmost [.option .out w.out, .option .unit (Utf8.encode "--strict")]
      (out ++ again) (.cons hout (.cons hagain .nil))
    exact (parse_wanted w [0xFF] htwice).2.2 (.option .unit (Utf8.encode "--strict"))
      ⟨_, .unit (by decide)⟩ (by decide) (by decide)

end CommandLine

end ServiceScript
