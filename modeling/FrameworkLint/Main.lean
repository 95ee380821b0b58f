import FrameworkLint.SkipList

/-!
# The command line

The command tells a job whether to run: it fails if the version given by its
arguments is on the skip list in the environment, or if the list cannot be read.
-/

def main (arguments : List String) : IO UInt32 := do
  let list ← IO.getEnv "SKIP"
  match FrameworkLint.SkipList.skips list (FrameworkLint.SkipList.versionOfTexts arguments) with
  | .ok skipped => return if skipped then 1 else 0
  | .error _ =>
      IO.eprintln "the skip list holds a word that is not a version"
      return 1
