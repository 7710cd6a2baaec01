/-!
# Expressions

The integer expressions of a shell: numbers, names of parameters, signs, products,
sums, comparisons and their combinations. Truth is one and falsehood zero.
-/

namespace BuildFleet.Shell

/-- Why an expression has no value. -/
inductive SumFault where
  | unreadable
  | divisionByZero
deriving DecidableEq, Repr

/-- The value of digits in a base. -/
def digitsValue (base : Nat) (digits : List Char) : Option Nat :=
  digits.foldl (fun value digit => do
    let digit ← if digit.isDigit then some (digit.toNat - 48)
      else if 'a' ≤ digit.toLower ∧ digit.toLower ≤ 'f' then some (digit.toLower.toNat - 87)
      else none
    if digit < base then some ((← value) * base + digit) else none) (some 0)

/-- A number in base ten, or in base eight or sixteen by how it starts. -/
def number? (text : List Char) : Option Nat :=
  match text with
  | [] => none
  | '0' :: 'x' :: digits | '0' :: 'X' :: digits =>
    if digits.isEmpty then none else digitsValue 16 digits
  | '0' :: digits => digitsValue 8 digits
  | digits => digitsValue 10 digits

/-- An integer with or without a sign. -/
def integer? (text : List Char) : Option Int :=
  match text with
  | '-' :: digits => (number? digits).map fun value => -(value : Int)
  | '+' :: digits => (number? digits).map fun value => (value : Int)
  | digits => (number? digits).map fun value => (value : Int)

/-- The operators, those that bind least first. Of operators that start alike the
longer one comes first. -/
def operatorLevels : List (List String) :=
  [["||"], ["&&"], ["==", "!="], ["<=", ">=", "<", ">"], ["+", "-"], ["*", "/", "%"]]

def truth (holds : Bool) : Int := if holds then 1 else 0

def applyOperator (operator : String) (left right : Int) : Except SumFault Int :=
  match operator with
  | "||" => .ok (truth (left ≠ 0 || right ≠ 0))
  | "&&" => .ok (truth (left ≠ 0 && right ≠ 0))
  | "==" => .ok (truth (left = right))
  | "!=" => .ok (truth (left ≠ right))
  | "<=" => .ok (truth (left ≤ right))
  | ">=" => .ok (truth (right ≤ left))
  | "<" => .ok (truth (left < right))
  | ">" => .ok (truth (right < left))
  | "+" => .ok (left + right)
  | "-" => .ok (left - right)
  | "*" => .ok (left * right)
  | "/" => if right = 0 then .error .divisionByZero else .ok (left.tdiv right)
  | _ => if right = 0 then .error .divisionByZero else .ok (left.tmod right)

def skipSpaces (text : List Char) : List Char := text.dropWhile Char.isWhitespace

/-- The operator of a level that a text starts with. -/
def leadingOperator? (operators : List String) (text : List Char) : Option (String × List Char) :=
  (operators.find? fun operator => operator.toList.isPrefixOf text).map fun operator =>
    (operator, text.drop operator.length)

mutual

/-- The value of an expression of the given levels. -/
def levelValue (lookup : String → Int) : Nat → List (List String) → List Char →
    Except SumFault (Int × List Char)
  | 0, _, _ => .error .unreadable
  | fuel + 1, [], text => primaryValue lookup fuel text
  | fuel + 1, operators :: tighter, text => do
    let (value, rest) ← levelValue lookup fuel tighter text
    levelValueAfter lookup fuel operators tighter value rest

def levelValueAfter (lookup : String → Int) : Nat → List String → List (List String) → Int →
    List Char → Except SumFault (Int × List Char)
  | 0, _, _, _, _ => .error .unreadable
  | fuel + 1, operators, tighter, left, text =>
    match leadingOperator? operators (skipSpaces text) with
    | none => .ok (left, text)
    | some (operator, rest) => do
      let (right, rest) ← levelValue lookup fuel tighter rest
      levelValueAfter lookup fuel operators tighter (← applyOperator operator left right) rest

def primaryValue (lookup : String → Int) : Nat → List Char → Except SumFault (Int × List Char)
  | 0, _ => .error .unreadable
  | fuel + 1, text =>
    match skipSpaces text with
    | '(' :: rest => do
      let (value, rest) ← levelValue lookup fuel operatorLevels rest
      match skipSpaces rest with
      | ')' :: rest => .ok (value, rest)
      | _ => .error .unreadable
    | '-' :: rest => do
      let (value, rest) ← primaryValue lookup fuel rest
      .ok (-value, rest)
    | '+' :: rest => primaryValue lookup fuel rest
    | '!' :: rest => do
      let (value, rest) ← primaryValue lookup fuel rest
      .ok (truth (value = 0), rest)
    | text =>
      let word := text.takeWhile fun character => character.isAlphanum || character == '_'
      let rest := text.drop word.length
      match word with
      | [] => .error .unreadable
      | first :: _ =>
        if first.isDigit then
          match number? word with
          | some value => .ok ((value : Int), rest)
          | none => .error .unreadable
        else .ok (lookup (String.ofList word), rest)

end

/-- The value of an expression. -/
def sumValue (lookup : String → Int) (text : List Char) : Except SumFault Int := do
  let (value, rest) ← levelValue lookup (16 * text.length + 16) operatorLevels text
  if (skipSpaces rest).isEmpty then .ok value else .error .unreadable

end BuildFleet.Shell
