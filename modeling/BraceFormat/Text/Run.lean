/-!
# Runs of one character

Layouts and padding write long runs of one character: the zeros a coefficient is shifted by, the
spaces of a wide field. A run is pushed onto its text one character at a time, so that the text
grows in place and a run costs its length and nothing more; `pushRun_toList` says that the
characters are the run of the list.

## Main definitions

* `Text.pushRun`: a text followed by a run of one character.
* `Text.run`: a run alone.

## Main results

* `Text.pushRun_toList`, `Text.run_toList`: the characters of a run.
* `Text.run_length`: a run of `n` characters has length `n`.
-/

namespace BraceFormat.Text

/-- The text `s` followed by `n` copies of `c`. -/
def pushRun (s : String) (c : Char) : Nat → String
  | 0 => s
  | n + 1 => pushRun (s.push c) c n

/-- `n` copies of `c`. -/
def run (c : Char) (n : Nat) : String :=
  pushRun "" c n

theorem pushRun_toList (s : String) (c : Char) (n : Nat) :
    (pushRun s c n).toList = s.toList ++ List.replicate n c := by
  induction n generalizing s with
  | zero => simp [pushRun]
  | succ n ih =>
    rw [pushRun, ih, String.toList_push, List.replicate_succ]
    simp

@[simp]
theorem run_toList (c : Char) (n : Nat) : (run c n).toList = List.replicate n c := by
  simp [run, pushRun_toList]

@[simp]
theorem run_length (c : Char) (n : Nat) : (run c n).length = n := by
  rw [← String.length_toList, run_toList, List.length_replicate]

end BraceFormat.Text
