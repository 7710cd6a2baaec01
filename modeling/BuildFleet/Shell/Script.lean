/-!
# Scripts

The commands of a POSIX shell as trees. The text of a substitution is kept as it
is written and read when its value is wanted.
-/

namespace BuildFleet.Shell

/-- How the value of a parameter is used. -/
inductive Rule where
  | value
  /-- The number of its characters. -/
  | length
  /-- What to do where the parameter has no value, by one of the marks `-`, `=`,
  `+` and `?`. An empty value can count as none. -/
  | otherwise (mark : Char) (emptyCounts : Bool) (word : List Char)
deriving DecidableEq, Repr

/-- A part of a word. -/
inductive Piece where
  | text (quoted : Bool) (characters : List Char)
  | parameter (quoted : Bool) (name : String) (rule : Rule)
  /-- The output of a script. -/
  | output (quoted : Bool) (script : List Char)
  /-- The value of an expression. -/
  | sum (quoted : Bool) (expression : List Char)
deriving DecidableEq, Repr

abbrev Word := List Piece

/-- What a descriptor is redirected to. -/
inductive Direction where
  | write (path : Word)
  | append (path : Word)
  | read (path : Word)
  /-- To what another descriptor leads to, or to nowhere. -/
  | duplicate (descriptor : Word)
deriving DecidableEq, Repr

structure Redirection where
  descriptor : Nat
  direction : Direction
deriving DecidableEq, Repr

inductive Command where
  | nothing
  | simple (line : Nat) (assignments : List (String × Word)) (words : List Word)
      (redirections : List Redirection)
  | sequence (first second : Command)
  /-- The second command is run if the first succeeds. -/
  | both (first second : Command)
  /-- The second command is run if the first fails. -/
  | either (first second : Command)
  | negation (command : Command)
  | pipeline (left right : Command)
  | background (command : Command)
  | subshell (command : Command)
  | conditional (test yes no : Command)
  /-- Run the body while the test succeeds, or until it does. -/
  | loop (untilSuccess : Bool) (test body : Command)
  /-- Run the body for each field; without words, for each argument. -/
  | each (name : String) (words : Option (List Word)) (body : Command)
  /-- Run the body if one of the patterns fits the word. -/
  | choose (word : Word) (patterns : List Word) (body otherwise : Command)
  | define (name : String) (body : Command)
  | redirected (command : Command) (redirections : List Redirection)
deriving DecidableEq, Repr

end BuildFleet.Shell
