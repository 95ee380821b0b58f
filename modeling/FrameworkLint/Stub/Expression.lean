/-!
# Expressions in stubs

The few kinds of expressions that stubs use, and the text in which they are written.
-/

namespace FrameworkLint.Stub

inductive Expression
  | variable (name : String)
  | member (object : Expression) (name : String)
  | nothing
  | false
  | text (value : String)
  | emptyTuple
  | emptyDict
  | call (callee : Expression) (arguments : List Expression)
  /-- An argument that passes on all entries of a mapping as keyword arguments. -/
  | entries (mapping : Expression)
  | lambda (parameters : List String) (body : Expression)

namespace Expression

/-- The kind of an expression. -/
def kind : Expression → String
  | .variable _ => "Name"
  | .member _ _ => "Attribute"
  | .nothing => "Const"
  | .false => "Const"
  | .text _ => "Const"
  | .emptyTuple => "Tuple"
  | .emptyDict => "Dict"
  | .call _ _ => "Call"
  | .entries _ => "Keyword"
  | .lambda _ _ => "Lambda"

mutual

/-- The text of an expression.  Texts stand in single quotes. -/
def render : Expression → String
  | .variable name => name
  | .member object name => object.render ++ "." ++ name
  | .nothing => "None"
  | .false => "False"
  | .text value => "'" ++ value ++ "'"
  | .emptyTuple => "()"
  | .emptyDict => "\x7b\x7d"
  | .call callee arguments =>
      callee.render ++ "(" ++ ", ".intercalate (renderAll arguments) ++ ")"
  | .entries mapping => "**" ++ mapping.render
  | .lambda [] body => "lambda: " ++ body.render
  | .lambda (first :: rest) body =>
      "lambda " ++ ", ".intercalate (first :: rest) ++ ": " ++ body.render

def renderAll : List Expression → List String
  | [] => []
  | first :: rest => first.render :: renderAll rest

end

end Expression

/-- A parameter of a function. -/
inductive Parameter
  | required (name : String)
  | optional (name : String) (default : Expression)
  /-- Takes all further positional arguments. -/
  | positional (name : String)
  /-- Takes all further keyword arguments. -/
  | keywords (name : String)

namespace Parameter

def render : Parameter → String
  | .required name => name
  | .optional name default => name ++ "=" ++ default.render
  | .positional name => "*" ++ name
  | .keywords name => "**" ++ name

def renderAll (parameters : List Parameter) : String :=
  ", ".intercalate (parameters.map render)

end Parameter

end FrameworkLint.Stub
