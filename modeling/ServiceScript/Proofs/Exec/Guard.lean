import ServiceScript.Proofs.Exec.HereDocument
import ServiceScript.Proofs.Exec.Wrapping
import ServiceScript.Proofs.Shell.Lexing

/-!
# ServiceScript — the guard behind a command that may fail

The status of a command that may fail is made zero by a guard, which is put
behind the command as text. A shell takes it for commands only where the command
leaves nothing open: behind an open quote the guard is quoted, behind a backslash
its semicolon is a character of the last word, and behind a number sign that
begins a word it is a part of the comment. A value of a unit file has no line end
that would close the comment.

Main result: `guard_of_wrap` — exactly which commands have a guard that is read.
-/

namespace ServiceScript

/-- **Which guards are read.** The fragment of a command that may fail is its body
with the guard behind it. The shell is outside of quotes and comments where the
guard begins exactly if the body is made of closed pieces, and so it is for every
body without quotes, backslashes and number signs. -/
theorem guard_of_wrap {raw : Text} (hdash : '-' ∈ leadingRun raw) (hat : '@' ∉ leadingRun raw)
    (hbody : (behindRun raw).allBlank = false) (directive : Text) :
    (ExecCommand.parse raw).wrap directive none = .ok (behindRun raw ++ ignoreFailureGuard) ∧
    ((LexState.behind (.outside false) (behindRun raw)).isOutside = true ↔
      Whole false (behindRun raw)) ∧
    ((∀ c ∈ behindRun raw, c ∉ ("'\"\\#" : Text)) →
      (LexState.behind (.outside false) (behindRun raw)).isOutside = true) := by
  refine ⟨?_, LexState.isOutside_behind_iff false _, fun h => ?_⟩
  · have hnotBlank : ¬ (behindRun raw).allBlank = true := by
      rw [hbody]
      exact Bool.false_ne_true
    rw [ExecCommand.wrap_eq, if_neg hat, if_neg hnotBlank, ExecCommand.commandLine_parse,
      if_pos hdash]
  · exact LexState.isOutside_behind_of_whole (whole_of_forall_ne h false)

/-- A command with nothing that could be left open, and one with closed quotes, a
number sign in the middle of a word and an escaped one. -/
theorem guard_of_wrap_closed :
    ((ExecCommand.parse "-/bin/false").wrap execStartKey none = .ok "/bin/false; (exit 0);" ∧
      (∀ c ∈ behindRun "-/bin/false", c ∉ ("'\"\\#" : Text)) ∧
      (LexState.behind (.outside false) "/bin/false").isOutside = true) ∧
    (ExecCommand.parse "-/bin/sh -c 'exit 1' a#b \\#").wrap execStartKey none =
      .ok "/bin/sh -c 'exit 1' a#b \\#; (exit 0);" ∧
    (LexState.behind (.outside false) "/bin/sh -c 'exit 1' a#b \\#").isOutside = true ∧
    Whole false "/bin/sh -c 'exit 1' a#b \\#" := by
  have hdash : '-' ∈ leadingRun "-/bin/false" := by decide
  have hdash' : '-' ∈ leadingRun "-/bin/sh -c 'exit 1' a#b \\#" := by decide
  have hplain : ∀ c ∈ behindRun "-/bin/false", c ∉ ("'\"\\#" : Text) := by
    have hall : (behindRun "-/bin/false").all (fun c => decide (c ∉ ("'\"\\#" : Text))) = true := by
      decide
    exact fun c hc => of_decide_eq_true (List.all_eq_true.1 hall c hc)
  have houtside :
      (LexState.behind (.outside false) "/bin/sh -c 'exit 1' a#b \\#").isOutside = true := by decide
  obtain ⟨hwrap, -, hread⟩ := guard_of_wrap hdash (by decide) (by decide) execStartKey
  obtain ⟨hwrap', hiff, -⟩ := guard_of_wrap hdash' (by decide) (by decide) execStartKey
  exact ⟨⟨hwrap, hplain, hread hplain⟩, hwrap', houtside, hiff.1 houtside⟩

/-- A command of a unit file whose guard is not read: it stands in a comment. -/
theorem guard_of_wrap_commented :
    ("-/bin/false # tolerated" : Text) ∈
      (UnitFile.unit "[Service]\nExecStartPre=-/bin/false # tolerated\n").commands ∧
    '-' ∈ leadingRun "-/bin/false # tolerated" ∧ '@' ∉ leadingRun "-/bin/false # tolerated" ∧
    (behindRun "-/bin/false # tolerated").allBlank = false ∧
    (ExecCommand.parse "-/bin/false # tolerated").wrap execStartPreKey none =
      .ok ("/bin/false # tolerated" ++ ignoreFailureGuard) ∧
    LexState.behind (.outside false) "/bin/false # tolerated" = .comment ∧
    (LexState.behind (.outside false) "/bin/false # tolerated").isOutside = false :=
  ⟨by decide, by decide, by decide, by decide, rfl, by decide, by decide⟩

end ServiceScript
