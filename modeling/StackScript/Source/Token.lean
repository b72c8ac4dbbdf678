/-!
# Tokens of the source language

The words and signs of the language, with the text by which messages quote them.
-/

namespace StackScript

/-- A word or sign of the source language. -/
inductive Token where
  | ifWord
  | thenWord
  | elseWord
  | elseIfWord
  | endIfWord
  | forWord
  | toWord
  | stepWord
  | endForWord
  | gotoWord
  | whileWord
  | endWhileWord
  | subWord
  | endSubWord
  | andWord
  | orWord
  | dot
  | rightBracket
  | leftBracket
  | leftParen
  | rightParen
  | comma
  | colon
  | equal
  | notEqual
  | plus
  | minus
  | multiply
  | divide
  | lessThan
  | greaterThan
  | lessThanOrEqual
  | greaterThanOrEqual
deriving DecidableEq, Repr

namespace Token

def all : List (String × Token) := [
  ("If", .ifWord), ("Then", .thenWord), ("Else", .elseWord), ("ElseIf", .elseIfWord),
  ("EndIf", .endIfWord), ("For", .forWord), ("To", .toWord), ("Step", .stepWord),
  ("EndFor", .endForWord), ("Goto", .gotoWord), ("While", .whileWord),
  ("EndWhile", .endWhileWord), ("Sub", .subWord), ("EndSub", .endSubWord), ("And", .andWord),
  ("Or", .orWord), ("Dot", .dot), ("RightBracket", .rightBracket), ("LeftBracket", .leftBracket),
  ("LeftParen", .leftParen), ("RightParen", .rightParen), ("Comma", .comma), ("Colon", .colon),
  ("Equal", .equal), ("NotEqual", .notEqual), ("Plus", .plus), ("Minus", .minus),
  ("Multiply", .multiply), ("Divide", .divide), ("LessThan", .lessThan),
  ("GreaterThan", .greaterThan), ("LessThanOrEqual", .lessThanOrEqual),
  ("GreaterThanOrEqual", .greaterThanOrEqual)]

def text : Token → String
  | .ifWord => "If"
  | .thenWord => "Then"
  | .elseWord => "Else"
  | .elseIfWord => "ElseIf"
  | .endIfWord => "EndIf"
  | .forWord => "For"
  | .toWord => "To"
  | .stepWord => "Step"
  | .endForWord => "EndFor"
  | .gotoWord => "Goto"
  | .whileWord => "While"
  | .endWhileWord => "EndWhile"
  | .subWord => "Sub"
  | .endSubWord => "EndSub"
  | .andWord => "And"
  | .orWord => "Or"
  | .dot => "."
  | .rightBracket => "]"
  | .leftBracket => "["
  | .leftParen => "("
  | .rightParen => ")"
  | .comma => ","
  | .colon => ":"
  | .equal => "="
  | .notEqual => "<>"
  | .plus => "+"
  | .minus => "-"
  | .multiply => "*"
  | .divide => "/"
  | .lessThan => "<"
  | .greaterThan => ">"
  | .lessThanOrEqual => "<="
  | .greaterThanOrEqual => ">="

end Token

end StackScript
