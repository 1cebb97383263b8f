import DesignExport.Json.Value
import DesignExport.Toml.Quoted
set_option autoImplicit false

/-! Numbers of TOML. An underscore may stand between two digits. -/

namespace DesignExport.Toml

/-- The value of a digit in a base. -/
def digitValue? (base : Nat) (char : Char) : Option Nat :=
  (hexValue? char).filter (· < base)

/-- Digits behind the first one, and the rest. An underscore without a digit
behind it is an error. -/
def moreDigits? (base : Nat) : List Char → Option (List Nat × List Char)
  | [] => some ([], [])
  | '_' :: char :: rest =>
      match digitValue? base char with
      | some value =>
          (moreDigits? base rest).map (fun (values, last) => (value :: values, last))
      | none => none
  | char :: rest =>
      match digitValue? base char with
      | some value =>
          (moreDigits? base rest).map (fun (values, last) => (value :: values, last))
      | none => if char = '_' then none else some ([], char :: rest)

/-- At least one digit. -/
def digits? (base : Nat) : List Char → Option (List Nat × List Char)
  | [] => none
  | char :: rest =>
      match digitValue? base char with
      | some value =>
          (moreDigits? base rest).map (fun (values, last) => (value :: values, last))
      | none => none

/-- The whole part of a decimal number. A zero in front stands alone. -/
def wholeDigits? : List Char → Option (List Nat × List Char)
  | '0' :: rest => some ([0], rest)
  | chars => digits? 10 chars

def valueIn (base : Nat) (digits : List Nat) : Nat :=
  digits.foldl (fun value digit => base * value + digit) 0

/-- Whole numbers have 64 bits. -/
def whole? (negative : Bool) (size : Nat) : Option Json.Number :=
  if negative then (if size ≤ Nat.pow 2 63 then some (.whole (-(size : Int))) else none)
  else if size < Nat.pow 2 63 then some (.whole size)
  else none

def takeSign : List Char → Bool × List Char
  | '-' :: rest => (true, rest)
  | '+' :: rest => (false, rest)
  | chars => (false, chars)

/-- Digits behind a point, if there is one. -/
def fraction? : List Char → Option (Option (List Nat) × List Char)
  | '.' :: rest => (digits? 10 rest).map (fun (digits, last) => (some digits, last))
  | chars => some (none, chars)

/-- An exponent, if there is one. -/
def exponent? : List Char → Option (Option Int × List Char)
  | [] => some (none, [])
  | mark :: rest =>
      if mark = 'e' || mark = 'E' then
        let (negative, digits) := takeSign rest
        (digits? 10 digits).map (fun (digits, last) =>
          let size : Int := valueIn 10 digits
          (some (if negative then -size else size), last))
      else some (none, mark :: rest)

/-- Exponents beyond this bound mean zero or infinity. -/
def exponentBound (digitCount : Nat) : Int :=
  400 + digitCount

def float (digits : List Nat) (exponent : Int) : Float :=
  let bound := exponentBound digits.length
  let within := max (-bound) (min bound exponent)
  Float.ofScientific (valueIn 10 digits) (within < 0) within.natAbs

/-- A number with a fraction or an exponent. It is not above all bounds; below all
bounds it may be. -/
def floating? (negative : Bool) (digits : List Nat) (exponent : Int) : Option Json.Number :=
  let size := float digits exponent
  if negative then some (.fraction (-size))
  else if size.isInf then none
  else some (.fraction size)

/-- A decimal number behind its sign. -/
def decimal? (negative : Bool) (chars : List Char) : Option (Json.Number × List Char) := do
  let (whole, rest) ← wholeDigits? chars
  let (fraction, rest) ← fraction? rest
  let (exponent, rest) ← exponent? rest
  let number ←
    match fraction, exponent with
    | none, none => whole? negative (valueIn 10 whole)
    | _, _ =>
        let places := fraction.getD []
        floating? negative (whole ++ places) (exponent.getD 0 - places.length)
  some (number, rest)

/-- A whole number in another base. -/
def based? (base : Nat) (chars : List Char) : Option (Json.Number × List Char) := do
  let (digits, rest) ← digits? base chars
  some (← whole? false (valueIn base digits), rest)

/-- Infinity and what is not a number. -/
def special? (negative : Bool) : List Char → Option (Json.Number × List Char)
  | 'i' :: 'n' :: 'f' :: rest =>
      some (.fraction (if negative then -(1.0 / 0.0) else 1.0 / 0.0), rest)
  | 'n' :: 'a' :: 'n' :: rest => some (.fraction (0.0 / 0.0), rest)
  | _ => none

/-- Other bases have no sign. -/
def number? : List Char → Option (Json.Number × List Char)
  | '0' :: 'x' :: rest => based? 16 rest
  | '0' :: 'o' :: rest => based? 8 rest
  | '0' :: 'b' :: rest => based? 2 rest
  | chars =>
      let (negative, unsigned) := takeSign chars
      match special? negative unsigned with
      | some found => some found
      | none => decimal? negative unsigned

end DesignExport.Toml
