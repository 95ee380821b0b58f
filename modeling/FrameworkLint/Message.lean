/-!
# Names of messages

A rule says which message it drops by an identifier: a code, a symbol, or a symbol that was
given up.  A linter raises a message under its code or its symbol.  What an identifier stands
for is a matter of the linter, so the rules take it from the settings.  The table here is that
of one version.
-/

namespace FrameworkLint.Message

/-- The messages that are known, each by its code and its symbol. -/
def known : List (String × String) :=
  [("E1101", "no-member"), ("R0901", "too-many-ancestors"), ("W0232", "no-init"),
   ("R0903", "too-few-public-methods"), ("W0212", "protected-access"), ("C0103", "invalid-name"),
   ("R0904", "too-many-public-methods"), ("R0201", "no-self-use"), ("W0613", "unused-argument")]

/-- The symbols that were given up, each with the messages that took its place. -/
def replaced : List (String × List (String × String)) :=
  [("missing-docstring",
    [("C0114", "missing-module-docstring"), ("C0115", "missing-class-docstring"),
     ("C0116", "missing-function-docstring")])]

/-- The messages that an identifier stands for. -/
def denoted (identifier : String) : List (String × String) :=
  match replaced.lookup identifier with
  | some successors => successors
  | none => known.filter fun (code, symbol) => code == identifier || symbol == identifier

/-- The names under which the messages of an identifier are raised.  An identifier that stands
for no message is taken for a name. -/
def names (identifier : String) : List String :=
  match denoted identifier with
  | [] => [identifier]
  | messages => messages.flatMap fun (code, symbol) => [code, symbol]

end FrameworkLint.Message
