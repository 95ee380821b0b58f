/-!
# Declared messages

A checker declares each message that it can raise.
-/

namespace FrameworkLint

structure Declaration where
  id : String
  /-- What is shown to the user; `%s` stands for an argument. -/
  text : String
  symbol : String
  description : String
  deriving DecidableEq

end FrameworkLint
