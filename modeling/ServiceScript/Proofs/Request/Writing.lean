import ServiceScript.Proofs.FileSystem
import ServiceScript.Proofs.Request.Truncation
import ServiceScript.Proofs.Text.Delimited

/-!
# ServiceScript — the scripts of units in files

Two things can go wrong where the script of a unit is written into a file: there
is a fault in what the unit asks for, or the file cannot be created or refuses
what is written. The buffer in front of the file makes the second kind come late,
so it is not plain which of the two is reported. Here it is told for every
destination that a path can lead to, by the bytes and the outcome that the
script has in a sink that takes everything. A refusal is reported with the path,
and never as that of a sink.

Main result: `Request.writeTo_script`.
-/

namespace ServiceScript.Request

/-- A script that completes has at least the line with its interpreter. -/
theorem encode_ne_nil_of_completes {r : Request} (h : r.script.outcome = .ok ⟨⟩) :
    Utf8.encode r.script.text ≠ [] := by
  have hfault := (Script.outcome_eq_ok_iff _).1 h
  unfold script at hfault ⊢
  rw [interpreterLine_eq, Script.fault?_cons, Step.fault?_guarded, Option.or_eq_none_iff] at hfault
  rw [interpreterLine_eq, hfault.1]
  intro hnil
  have htext := Utf8.encode_inj (hnil.trans Utf8.encode_nil.symm)
  cases htext

/-- No script has a fault of its own that is one of writing. -/
theorem not_emission_of_outcome {r : Request} {cause : IoFault} :
    r.script.outcome ≠ .error (.emission cause) := by
  intro h
  rw [Script.outcome_eq_of_fault?] at h
  cases hfault : r.script.fault? with
  | none =>
    rw [hfault] at h
    cases h
  | some f =>
    rw [hfault] at h
    exact not_isEmission_of_fault? hfault ⟨cause, Except.error.inj h⟩

/-- In a file that refuses every byte the fault of a script is reported if the
buffer holds all that stands in front of it. A script that completes has a byte to
refuse. -/
theorem writeTo_of_refusesAll (r : Request) {path : Path} {σ : Type} {host : Host (StateM σ)}
    {handle : host.Handle} {before after : σ} {cause : IoFault}
    (hcreate : host.create path before = (.ok handle, after))
    (hrefuses : host.RefusesAll handle cause after) :
    r.script.writeTo host path before =
      (match r.script.outcome with
        | .error f =>
          if (Utf8.encode r.script.text).length ≤ Script.bufferSize then .error f
          else .error (.unwritableScript path cause)
        | .ok _ => .error (.unwritableScript path cause), after) := by
  have hnothing : ([] : Bytes).length ≤ Script.bufferSize := Nat.zero_le _
  have hsend := Script.send_of_refusesAll hrefuses (.unwritableScript path) hnothing r.script
  rw [Script.writeTo_of_ok hcreate, hsend, List.nil_append, Prod.mk.injEq]
  refine ⟨?_, rfl⟩
  by_cases hfits : (Utf8.encode r.script.text).length ≤ Script.bufferSize
  · rw [Script.refusedOutcome_of_le hfits]
    cases houtcome : r.script.outcome with
    | error f => exact (if_pos hfits).symm
    | ok _ => exact if_neg (encode_ne_nil_of_completes houtcome)
  · rw [Script.refusedOutcome_of_lt (Nat.not_le.1 hfits)]
    cases r.script.outcome with
    | error f => exact (if_neg hfits).symm
    | ok _ => rfl

/-- **Scripts in files.** A destination that cannot be created is reported, and
nothing changes. A file has the bytes of the script afterwards and nothing else,
and the script ends as it does. A device that swallows everything changes
nothing about that. A device that refuses every byte is reported, unless the
script has a fault of its own and the buffer holds all the bytes in front of it;
so is any destination of any host that does the same. On no host is the fault that
of a sink. -/
theorem writeTo_script (r : Request) (path : Path) :
    let bytes := Utf8.encode r.script.text
    let refused (cause : IoFault) : Except Fault Unit :=
      match r.script.outcome with
      | .error f =>
        if bytes.length ≤ Script.bufferSize then .error f
        else .error (.unwritableScript path cause)
      | .ok _ => .error (.unwritableScript path cause)
    (∀ (fs : FileSystem) (cause : IoFault), fs.create path = .error cause →
      r.script.writeTo FileSystem.host path fs = (.error (.unwritableScript path cause), fs)) ∧
    (∀ (fs : FileSystem) (place : Place), fs.creationPlace path = .ok place →
      (fs.node? place = none ∨ ∃ old, fs.node? place = some (.file old)) →
        r.script.writeTo FileSystem.host path fs =
            (r.script.outcome, fs.put place (.file bytes)) ∧
          (fs.put place (.file bytes)).fileContent? path = some bytes) ∧
    (∀ (fs : FileSystem) (place : Place), fs.creationPlace path = .ok place →
      fs.node? place = some .nullDevice →
        r.script.writeTo FileSystem.host path fs = (r.script.outcome, fs)) ∧
    (∀ (fs : FileSystem) (place : Place), fs.creationPlace path = .ok place →
      fs.node? place = some .fullDevice →
        r.script.writeTo FileSystem.host path fs = (refused .noSpace, fs)) ∧
    (∀ (σ : Type) (host : Host (StateM σ)) (handle : host.Handle) (before after : σ)
        (cause : IoFault),
      host.create path before = (.ok handle, after) → host.RefusesAll handle cause after →
        r.script.writeTo host path before = (refused cause, after)) ∧
    (∀ (σ : Type) (host : Host (StateM σ)) (state : σ) (cause : IoFault),
      (r.script.writeTo host path state).1 ≠ .error (.emission cause)) := by
  intro bytes refused
  refine ⟨fun fs cause hcreate => ?_, fun fs place hplace hfile => ?_,
    fun fs place hplace hnull => ?_, fun fs place hplace hfull => ?_,
    fun σ host handle before after cause hcreate hrefuses => ?_, fun σ host state cause h => ?_⟩
  · exact Script.writeTo_of_error (FileSystem.host_create_of_error hcreate) r.script
  · have hcreate := FileSystem.create_file hplace hfile
    have hno : fs.node? place ≠ some .directory := by
      rcases hfile with hnone | ⟨old, hold⟩
      · simp [hnone]
      · simp [hold]
    refine ⟨?_, FileSystem.fileContent?_put hplace hno bytes⟩
    -- the file is empty when the first bytes come
    rw [Script.writeTo_of_ok (FileSystem.host_create_of_ok hcreate)]
    exact Script.send_of_takesAll (FileSystem.takesAll_file fs place) _ [] [] r.script
  · have hcreate := FileSystem.create_device hplace (.inl hnull)
    rw [Script.writeTo_of_ok (FileSystem.host_create_of_ok hcreate)]
    exact Script.send_of_takesAll (FileSystem.takesAll_nullDevice hnull) _ [] [] r.script
  · have hcreate := FileSystem.create_device hplace (.inr hfull)
    exact writeTo_of_refusesAll r (FileSystem.host_create_of_ok hcreate)
      (FileSystem.refusesAll_fullDevice hfull)
  · exact writeTo_of_refusesAll r hcreate hrefuses
  · rcases Script.writeTo_error_cases h with ⟨refusal, hrefusal⟩ | houtcome
    · cases hrefusal
    · exact not_emission_of_outcome houtcome

/-- A unit with a command that is refused, at a path where nothing can be created,
into a file with something in it, and into each of the devices; and a unit with
nothing in it on a host that refuses all. -/
theorem writeTo_script_refused :
    let fs := (FileSystem.fresh [Utf8.encode "tmp"]).withFile (Utf8.encode "out") (Utf8.encode "old")
    let u : ServiceUnit := ServiceUnit.addAll ∅ [⟨serviceSection, execStartKey, "@/bin/true x"⟩]
    let r : Request := ⟨u, "demo", "/bin/sh", false⟩
    let out : Place := [Utf8.encode "tmp", Utf8.encode "out"]
    let null : Place := [Utf8.encode "dev", Utf8.encode "null"]
    let full : Place := [Utf8.encode "dev", Utf8.encode "full"]
    let bytes := Utf8.encode r.script.text
    let bare : Request := ⟨∅, "demo", "/bin/sh", false⟩
    (fs.create (Utf8.encode "/none/out") = .error .notFound ∧
        r.script.writeTo FileSystem.host (Utf8.encode "/none/out") fs =
          (.error (.unwritableScript (Utf8.encode "/none/out") .notFound), fs)) ∧
      (fs.creationPlace (Utf8.encode "out") = .ok out ∧
        fs.node? out = some (.file (Utf8.encode "old")) ∧
        r.script.writeTo FileSystem.host (Utf8.encode "out") fs =
          (.error (.argvZero "@/bin/true x"), fs.put out (.file bytes)) ∧
        (fs.put out (.file bytes)).fileContent? (Utf8.encode "out") = some bytes) ∧
      (fs.creationPlace (Utf8.encode "/dev/null") = .ok null ∧ fs.node? null = some .nullDevice ∧
        r.script.writeTo FileSystem.host (Utf8.encode "/dev/null") fs =
          (.error (.argvZero "@/bin/true x"), fs)) ∧
      (fs.creationPlace (Utf8.encode "/dev/full") = .ok full ∧ fs.node? full = some .fullDevice ∧
        r.script.writeTo FileSystem.host (Utf8.encode "/dev/full") fs =
          (.error (.argvZero "@/bin/true x"), fs)) ∧
      bare.script.writeTo (Host.refusing .noSpace) (Utf8.encode "out") ⟨⟩ =
        (.error (.unwritableScript (Utf8.encode "out") .noSpace), ⟨⟩) := by
  intro fs u r out null full bytes bare
  have hnone : fs.create (Utf8.encode "/none/out") = .error .notFound := by rfl
  have hout : fs.creationPlace (Utf8.encode "out") = .ok out := by rfl
  have hold : fs.node? out = some (.file (Utf8.encode "old")) := by rfl
  have hnullplace : fs.creationPlace (Utf8.encode "/dev/null") = .ok null := by rfl
  have hnull : fs.node? null = some .nullDevice := by rfl
  have hfullplace : fs.creationPlace (Utf8.encode "/dev/full") = .ok full := by rfl
  have hfull : fs.node? full = some .fullDevice := by rfl
  have houtcome : r.script.outcome = .error (.argvZero "@/bin/true x") := by
    rw [Script.outcome_eq_of_fault?, fault?_script]
    rfl
  have hfits : bytes.length ≤ Script.bufferSize := by decide +kernel
  have hrefusal := (writeTo_script r (Utf8.encode "/none/out")).1 fs .notFound hnone
  obtain ⟨hwritten, hread⟩ :=
    (writeTo_script r (Utf8.encode "out")).2.1 fs out hout (.inr ⟨_, hold⟩)
  have hswallowed := (writeTo_script r (Utf8.encode "/dev/null")).2.2.1 fs null hnullplace hnull
  have hrefused := (writeTo_script r (Utf8.encode "/dev/full")).2.2.2.1 fs full hfullplace hfull
  have hcompletes : bare.script.outcome = .ok ⟨⟩ := by
    rw [Script.outcome_eq_of_fault?, fault?_script]
    rfl
  have hbare := (writeTo_script bare (Utf8.encode "out")).2.2.2.2.1 Unit (Host.refusing .noSpace)
    ⟨⟩ ⟨⟩ ⟨⟩ .noSpace rfl (Host.refusesAll_refusing .noSpace)
  rw [hcompletes] at hbare
  rw [houtcome] at hwritten hswallowed hrefused
  dsimp only at hrefused
  rw [if_pos hfits] at hrefused
  exact ⟨⟨hnone, hrefusal⟩, ⟨hout, hold, hwritten, hread⟩, ⟨hnullplace, hnull, hswallowed⟩,
    ⟨hfullplace, hfull, hrefused⟩, hbare⟩

end ServiceScript.Request
