import ServiceScript.Proofs.Script.Written
import ServiceScript.Proofs.Shell.Reader
import ServiceScript.Proofs.Unit.OneLine

/-!
# ServiceScript — what reaches the shell of the account

A command that is run as an account stands in a here-document, in front of the
line that ends it. A shell does not know which line was meant to be the end: it
takes the first one that is equal to the end line. So the here-document holds
the command line and nothing else **unless the command line is itself the end
line**; then it is empty, and the line that was meant as its end is left to the
shell that runs the script.

Main results:

* `HereDocument.read?_wrapped` — the fragment of a command as a shell reads it;
* `hereDocument_of_wrap` — exactly which commands of a unit file stay inside.
-/

namespace ServiceScript

/-- Every command that a unit gives, the one that is the service last. -/
def ServiceUnit.commands (u : ServiceUnit) : List Text :=
  u.execStartPre ++ (u.get? serviceSection execStartKey).toList

/-- No command of a unit that was read from a file has a line end in it. -/
theorem ServiceUnit.OneLine.commands {u : ServiceUnit} (hu : u.OneLine) {raw : Text}
    (h : raw ∈ u.commands) : '\n' ∉ raw := by
  rcases List.mem_append.1 h with h | h
  · exact hu.execStartPre raw h
  · exact hu.value _ _ raw (Option.mem_toList.1 h)

-- ---------------------------------------------------------------------------
-- The rule of the shell
-- ---------------------------------------------------------------------------

structure HereDocument where
  -- the lines that are fed to the command
  body : List Text
  -- the lines behind the end line, which the shell itself goes on with
  behind : List Text
deriving DecidableEq

/-- Reads a fragment whose first line begins a here-document: it goes up to the
first line that is the end line. There is none if no line is. -/
def HereDocument.read? (endLine fragment : Text) : Option HereDocument :=
  let lines := (fragment.splitOn '\n').tail
  if endLine ∈ lines then
    some ⟨lines.takeWhile (· ≠ endLine), (lines.dropWhile (· ≠ endLine)).tail⟩
  else none

namespace HereDocument

/-- Three lines without line ends in them are found again as the lines of the text. -/
theorem splitOn_wrapped {first line endLine : Text} (hfirst : '\n' ∉ first) (hline : '\n' ∉ line)
    (hend : '\n' ∉ endLine) :
    (first ++ '\n' :: (line ++ '\n' :: endLine)).splitOn '\n' = [first, line, endLine] := by
  rw [List.splitOn_append_cons_self_of_not_mem hfirst,
    List.splitOn_append_cons_self_of_not_mem hline, List.splitOn_eq_singleton hend]

/-- One line in front of the end line: it is the body, or the body is empty and
the end line is left over. -/
theorem read?_wrapped {first line endLine : Text} (hfirst : '\n' ∉ first) (hline : '\n' ∉ line)
    (hend : '\n' ∉ endLine) :
    read? endLine (first ++ '\n' :: (line ++ '\n' :: endLine)) =
      some (if line = endLine then ⟨[], [endLine]⟩ else ⟨[line], []⟩) := by
  rw [read?, splitOn_wrapped hfirst hline hend]
  by_cases h : line = endLine
  · rw [if_pos h]
    simp [h]
  · rw [if_neg h]
    simp [h]

end HereDocument

-- ---------------------------------------------------------------------------
-- Commands in here-documents
-- ---------------------------------------------------------------------------

/-- What is left of a command behind its modifiers has no line end if the command has
none. -/
theorem lineEnd_notMem_behindRun {raw : Text} (h : '\n' ∉ raw) : '\n' ∉ behindRun raw :=
  fun hc => h ((List.dropWhile_sublist _).mem hc)

/-- The line of a command has no line end if the command has none. -/
theorem lineEnd_notMem_commandLine {raw : Text} (h : '\n' ∉ raw) :
    '\n' ∉ (ExecCommand.parse raw).commandLine := by
  rw [ExecCommand.commandLine_parse, List.mem_append]
  rintro (hm | hm)
  · exact lineEnd_notMem_behindRun h hm
  · by_cases hg : '-' ∈ leadingRun raw
    · rw [if_pos hg] at hm
      exact absurd hm (by decide)
    · rw [if_neg hg] at hm
      exact absurd hm List.not_mem_nil

/-- A command line with its guard is never the end line. -/
theorem commandLine_eq_hereDocumentEnd_iff (raw : Text) :
    (ExecCommand.parse raw).commandLine = hereDocumentEnd ↔
      behindRun raw = hereDocumentEnd ∧ '-' ∉ leadingRun raw := by
  rw [ExecCommand.commandLine_parse]
  by_cases h : '-' ∈ leadingRun raw
  · -- the guard brings a semicolon, which the end line does not have
    have hsemicolon : ';' ∉ hereDocumentEnd := by decide
    rw [if_pos h]
    constructor
    · intro heq
      rw [← heq] at hsemicolon
      exact absurd (List.mem_append_right _ (by decide)) hsemicolon
    · exact fun hn => absurd h hn.2
  · rw [if_neg h, List.append_nil]
    exact (and_iff_left h).symm

/-- What is written of a command that runs as an account: the program that switches to
it, the line, and the end of the document. -/
theorem wrap_account_eq_ok {raw directive fragment : Text} {a : Account}
    (h : (ExecCommand.parse raw).wrap directive (some a) = .ok fragment) :
    fragment = (switchProgram ++ " " ++ Shell.word a.name ++ " <<'" ++ hereDocumentEnd ++ "'") ++
      '\n' :: ((ExecCommand.parse raw).commandLine ++ '\n' :: hereDocumentEnd) := by
  have heq := closeLine_wrap_eq raw directive (some a)
  rw [h] at heq
  cases hf : (commandFault? directive raw).or ((some a).bind fun a => nulFault? a.name a.name) with
  | some f =>
    rw [hf] at heq
    cases heq
  | none =>
    rw [hf] at heq
    -- the line end behind the fragment is the last of the written command
    have hclosed : fragment ++ "\n" = Written.command (some a.name)
        (ExecCommand.parse raw).commandLine := Except.ok.inj heq
    have hwritten : Written.command (some a.name) (ExecCommand.parse raw).commandLine =
        ((switchProgram ++ " " ++ Shell.word a.name ++ " <<'" ++ hereDocumentEnd ++ "'") ++
          '\n' :: ((ExecCommand.parse raw).commandLine ++ '\n' :: hereDocumentEnd)) ++ "\n" := by
      simp [Written.command, Written.switchHead, Written.switchTail]
    rw [hwritten] at hclosed
    exact List.append_cancel_right hclosed

/-- **Which commands stay in their here-document.** A shell that reads the
fragment of a command of a unit file feeds exactly the command line to the
account and has no line of the fragment left, unless the command is the end
line itself and has no `-`. Such a command feeds nothing to the account, and
its end line is left to the shell that runs the script. -/
theorem hereDocument_of_wrap {content raw directive fragment : Text} {a : Account}
    (ha : Account.ofUnit? (UnitFile.unit content) = some a)
    (hraw : raw ∈ (UnitFile.unit content).commands)
    (hwrap : (ExecCommand.parse raw).wrap directive (some a) = .ok fragment) :
    (HereDocument.read? hereDocumentEnd fragment =
        some ⟨[(ExecCommand.parse raw).commandLine], []⟩ ↔
      ¬ (behindRun raw = hereDocumentEnd ∧ '-' ∉ leadingRun raw)) ∧
    ((behindRun raw = hereDocumentEnd ∧ '-' ∉ leadingRun raw) →
      HereDocument.read? hereDocumentEnd fragment = some ⟨[], [hereDocumentEnd]⟩) := by
  have hunit := UnitFile.oneLine_unit content
  obtain ⟨user, huser, rfl⟩ := Option.map_eq_some_iff.1 ha
  have hname : '\n' ∉ user := hunit.value _ _ user huser
  have hline := lineEnd_notMem_commandLine (hunit.commands hraw)
  have hend : '\n' ∉ hereDocumentEnd := by decide
  -- a name of one line is quoted into a word of one line
  have hfirst : '\n' ∉ switchProgram ++ " " ++ Shell.word user ++ " <<'" ++ hereDocumentEnd ++
      "'" := by
    have hhead : '\n' ∉ (switchProgram ++ " " : Text) := by decide
    have htail : '\n' ∉ (" <<'" ++ (hereDocumentEnd ++ "'") : Text) := by decide
    have hword := Shell.lineEnd_notMem_word hname
    rw [List.append_assoc, List.append_assoc, List.mem_append, List.mem_append]
    simp only [hhead, hword, htail, or_false, not_false_eq_true]
  rw [wrap_account_eq_ok hwrap, HereDocument.read?_wrapped hfirst hline hend,
    ← commandLine_eq_hereDocumentEnd_iff]
  constructor
  · by_cases h : (ExecCommand.parse raw).commandLine = hereDocumentEnd
    · simp [h]
    · simp [h]
  · intro h
    rw [if_pos h]

theorem hereDocument_of_wrap_guarded :
    HereDocument.read? hereDocumentEnd
        "/bin/su alice <<'EOSUWRAPPEDCMD'\nEOSUWRAPPEDCMD; (exit 0);\nEOSUWRAPPEDCMD" =
      some ⟨["EOSUWRAPPEDCMD; (exit 0);"], []⟩ := by
  have ha : Account.ofUnit? (UnitFile.unit "[Service]\nUser=alice\nExecStart=-EOSUWRAPPEDCMD\n") =
      some ⟨"alice"⟩ := by decide
  have hraw : ("-EOSUWRAPPEDCMD" : Text) ∈
      (UnitFile.unit "[Service]\nUser=alice\nExecStart=-EOSUWRAPPEDCMD\n").commands := by decide
  have hwrap : (ExecCommand.parse "-EOSUWRAPPEDCMD").wrap execStartKey (some ⟨"alice"⟩) =
      .ok "/bin/su alice <<'EOSUWRAPPEDCMD'\nEOSUWRAPPEDCMD; (exit 0);\nEOSUWRAPPEDCMD" := rfl
  exact (hereDocument_of_wrap ha hraw hwrap).1.2 (by decide)

/-- Without its guard it does not: the account runs nothing, and the shell that
runs the script goes on with a line of the fragment. -/
theorem hereDocument_of_wrap_escaped :
    Account.ofUnit? (UnitFile.unit "[Service]\nUser=alice\nExecStart=EOSUWRAPPEDCMD\n") =
      some ⟨"alice"⟩ ∧
    ("EOSUWRAPPEDCMD" : Text) ∈
      (UnitFile.unit "[Service]\nUser=alice\nExecStart=EOSUWRAPPEDCMD\n").commands ∧
    (ExecCommand.parse "EOSUWRAPPEDCMD").wrap execStartKey (some ⟨"alice"⟩) =
      .ok "/bin/su alice <<'EOSUWRAPPEDCMD'\nEOSUWRAPPEDCMD\nEOSUWRAPPEDCMD" ∧
    HereDocument.read? hereDocumentEnd
        "/bin/su alice <<'EOSUWRAPPEDCMD'\nEOSUWRAPPEDCMD\nEOSUWRAPPEDCMD" =
      some ⟨[], ["EOSUWRAPPEDCMD"]⟩ ∧
    HereDocument.read? hereDocumentEnd
        "/bin/su alice <<'EOSUWRAPPEDCMD'\nEOSUWRAPPEDCMD\nEOSUWRAPPEDCMD" ≠
      some ⟨[(ExecCommand.parse "EOSUWRAPPEDCMD").commandLine], []⟩ :=
  ⟨by decide, by decide, rfl, by decide, by decide⟩

end ServiceScript
