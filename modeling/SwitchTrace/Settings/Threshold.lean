import SwitchTrace.Log
import SwitchTrace.Settings.Check

/-!
# Which lines of the log are shown

## Main definitions

* `Settings.threshold` — how much a line has to matter.
* `LevelFault` — levels that cannot be looked up, or are names of something else.
* `LogLine.isShown` — a line matters enough.

## Main results

* `Settings.threshold_of_levelOk` — settings with a known level have a threshold.
-/

namespace SwitchTrace

/-- Why a level gives no rank. -/
inductive LevelFault
  /-- Its name is that of the format of a line. -/
  | lineFormat
  /-- Its name is that of the table of the styles of a format. -/
  | styleTable
  /-- It has no name. -/
  | wording (fault : WordingFault)
deriving DecidableEq, Repr

/-- The rank from which on lines are shown. All levels have their names; some have two, and there
is one above all lines and one below. Two names are taken by other things, and any other name
counts as that of warnings. The user may ask for all lines, whatever the settings say. -/
def Settings.threshold (s : Settings) (verbose : Bool) : Except LevelFault Nat :=
  if verbose then .ok LogLevel.debug.rank
  else if s.logging.level.holdsLong then .error (.wording .longNumber)
  else
    match s.levelName with
    | "CRITICAL" | "FATAL" => .ok 50
    | "ERROR" => .ok LogLevel.error.rank
    | "INFO" => .ok LogLevel.info.rank
    | "DEBUG" => .ok LogLevel.debug.rank
    | "NOTSET" => .ok 0
    | "BASIC_FORMAT" => .error .lineFormat
    | "_STYLES" => .error .styleTable
    | _ => .ok LogLevel.warning.rank

/-- Settings with a known level have a threshold. -/
theorem Settings.threshold_of_levelOk {s : Settings} (hlong : s.logging.level.holdsLong = false)
    (h : s.levelOk = true) (verbose : Bool) : ∃ rank, s.threshold verbose = .ok rank := by
  cases verbose with
  | true => exact ⟨_, rfl⟩
  | false =>
    simp only [levelOk, settingsLevels, List.contains_cons, List.contains_nil, Bool.or_eq_true,
      beq_iff_eq, Bool.or_false] at h
    rcases h with h | h | h | h <;> exact ⟨_, by simp only [threshold, hlong, h]; rfl⟩

/-- A line is shown if it matters enough. -/
def LogLine.isShown (threshold : Nat) (line : LogLine) : Bool := threshold ≤ line.level.rank

end SwitchTrace
