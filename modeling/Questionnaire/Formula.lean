import Questionnaire.Formula.Token
/-!
Arithmetic formulas. A formula is a numeral, a name, a signed formula, or two formulas under one
of the four operations; `ofText` reads one by precedence, with `*` and `/` tighter than `+` and
`-` and all four to the left. The reader goes by recursive descent over the tokens; its fuel is
four levels for every token and never runs out.
-/
namespace Questionnaire

open Text

/-- The four operations. -/
inductive Operation where
  | add
  | subtract
  | multiply
  | divide
deriving DecidableEq, Repr

/-- The sign of an operation. -/
def Operation.sign : Operation → Char
  | .add => '+'
  | .subtract => '-'
  | .multiply => '*'
  | .divide => '/'

/-- An arithmetic formula. Numerals are kept as they were written. -/
inductive Formula where
  | number (numeral : Text)
  | name (n : Text)
  | negated (operand : Formula)
  | plus (operand : Formula)
  | binary (operation : Operation) (left right : Formula)
deriving DecidableEq, Repr

namespace Formula

/-- Why a text is no formula. -/
inductive Malformed where
  | empty (text : Text)
  | trailing (token : Token) (text : Text)
  | unexpectedEnd
  | unclosed
  | unexpected (token : Token)
deriving DecidableEq, Repr

/-- The message for a text that is no formula. -/
def Malformed.message : Malformed → Text
  | .empty text => "Empty expression: '".toList ++ text ++ ['\'']
  | .trailing token text =>
    "Unexpected token '".toList ++ token.spelling ++ "' in '".toList ++ text ++ ['\'']
  | .unexpectedEnd => "Unexpected end of expression".toList
  | .unclosed => "Missing closing parenthesis".toList
  | .unexpected token => "Unexpected token: ".toList ++ token.spelling

/-- The operation of the looser level that a token stands for. -/
def looseOperation? : Token → Option Operation
  | .symbol '+' => some .add
  | .symbol '-' => some .subtract
  | _ => none

/-- The operation of the tighter level that a token stands for. -/
def tightOperation? : Token → Option Operation
  | .symbol '*' => some .multiply
  | .symbol '/' => some .divide
  | _ => none

mutual
/-- A sum: products with `+` and `-` between them, and the tokens after it. -/
def sum : Nat → List Token → Except Malformed (Formula × List Token)
  | 0, _ => .error .unexpectedEnd
  | fuel + 1, tokens =>
    match product fuel tokens with
    | .error fault => .error fault
    | .ok (left, rest) => sumRest fuel left rest
/-- The rest of a sum whose products so far make up `left`. -/
def sumRest : Nat → Formula → List Token → Except Malformed (Formula × List Token)
  | 0, _, _ => .error .unexpectedEnd
  | _ + 1, left, [] => .ok (left, [])
  | fuel + 1, left, token :: rest =>
    match looseOperation? token with
    | none => .ok (left, token :: rest)
    | some operation =>
      match product fuel rest with
      | .error fault => .error fault
      | .ok (right, rest) => sumRest fuel (.binary operation left right) rest
/-- A product: signed operands with `*` and `/` between them. -/
def product : Nat → List Token → Except Malformed (Formula × List Token)
  | 0, _ => .error .unexpectedEnd
  | fuel + 1, tokens =>
    match signed fuel tokens with
    | .error fault => .error fault
    | .ok (left, rest) => productRest fuel left rest
/-- The rest of a product whose operands so far make up `left`. -/
def productRest : Nat → Formula → List Token → Except Malformed (Formula × List Token)
  | 0, _, _ => .error .unexpectedEnd
  | _ + 1, left, [] => .ok (left, [])
  | fuel + 1, left, token :: rest =>
    match tightOperation? token with
    | none => .ok (left, token :: rest)
    | some operation =>
      match signed fuel rest with
      | .error fault => .error fault
      | .ok (right, rest) => productRest fuel (.binary operation left right) rest
/-- An operand with any number of signs before it. -/
def signed : Nat → List Token → Except Malformed (Formula × List Token)
  | 0, _ => .error .unexpectedEnd
  | fuel + 1, .symbol '-' :: rest =>
    match signed fuel rest with
    | .error fault => .error fault
    | .ok (operand, rest) => .ok (.negated operand, rest)
  | fuel + 1, .symbol '+' :: rest =>
    match signed fuel rest with
    | .error fault => .error fault
    | .ok (operand, rest) => .ok (.plus operand, rest)
  | fuel + 1, tokens => operand fuel tokens
/-- A numeral, a name, or a sum in parentheses. -/
def operand : Nat → List Token → Except Malformed (Formula × List Token)
  | 0, _ => .error .unexpectedEnd
  | _ + 1, [] => .error .unexpectedEnd
  | _ + 1, .number numeral :: rest => .ok (.number numeral, rest)
  | _ + 1, .name n :: rest => .ok (.name n, rest)
  | fuel + 1, .symbol '(' :: rest =>
    match sum fuel rest with
    | .error fault => .error fault
    | .ok (inside, .symbol ')' :: rest) => .ok (inside, rest)
    | .ok _ => .error .unclosed
  | _ + 1, token :: _ => .error (.unexpected token)
end

/-- Fuel that suffices for a number of tokens. -/
def enoughFuel (count : Nat) : Nat := 4 * count + 4

/-- The formula that a text writes. -/
def ofText (t : Text) : Except Malformed Formula :=
  match tokens t with
  | [] => .error (.empty t)
  | first :: rest =>
    match sum (enoughFuel (rest.length + 1)) (first :: rest) with
    | .error fault => .error fault
    | .ok (formula, []) => .ok formula
    | .ok (_, token :: _) => .error (.trailing token t)

/-- The names in a formula from left to right, repeats included. -/
def names : Formula → List Text
  | .number _ => []
  | .name n => [n]
  | .negated operand => names operand
  | .plus operand => names operand
  | .binary _ left right => names left ++ names right

end Formula
end Questionnaire
