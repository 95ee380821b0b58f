import FrameworkLint.Message
import FrameworkLint.Version

/-!
# Settings

The facts about the surrounding installation that the rules depend on.
-/

namespace FrameworkLint

structure Settings where
  /-- The analysed program is written for Python 3. -/
  python3 : Bool := true
  pythonVersion : Version := .ofNumbers [3, 11]
  frameworkVersion : Version := .ofNumbers [5, 0, 6]
  /-- How many classes deep one search follows a hierarchy.  Every search has the whole depth:
  the layers around a check are not counted. -/
  depth : Nat := 700
  /-- The names under which the linter raises the messages that an identifier stands for. -/
  messageNames : String → List String := Message.names

end FrameworkLint
