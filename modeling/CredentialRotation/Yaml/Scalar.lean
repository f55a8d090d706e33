import CredentialRotation.Number.Numeral
import CredentialRotation.Number.Numeric

/-!
# What a plain scalar means

A plain scalar is a null, a truth value or a number where it is spelled
like one, and a string otherwise. `Plain.ofChars` decides which; the
printer asks the same question to know which strings need quotes.

Integers are decimal, hexadecimal, octal or binary. A decimal with a
leading zero is no number. An integer that takes more than sixty-four
bits but at most a hundred and twenty-eight is `wide`.
-/

namespace CredentialRotation.Yaml

open Number

/-- The meaning of a plain scalar. -/
inductive Plain
  | null
  | bool (b : Bool)
  | number (n : Numeric)
  | wide
  | text
deriving DecidableEq, Repr

/-- The words for null. -/
def isNullWord (cs : List Char) : Bool :=
  String.ofList cs ∈ ["null", "Null", "NULL", "~"]

/-- The words for the truth values. -/
def boolWord? (cs : List Char) : Option Bool :=
  let s := String.ofList cs
  if s ∈ ["true", "True", "TRUE"] then some true
  else if s ∈ ["false", "False", "FALSE"] then some false
  else none

/-- Digits with a leading zero, which are no number. -/
def isZeroLed (cs : List Char) : Bool :=
  let ds := match cs with
    | '+' :: r => r
    | '-' :: r => r
    | r => r
  ds.length > 1 && ds.head? == some '0' && ds.all Char.isDigit

/-- An integer without a sign. -/
def unsigned? (cs : List Char) : Option Nat :=
  match cs with
  | '0' :: 'x' :: r => natural? 16 r
  | '0' :: 'o' :: r => natural? 8 r
  | '0' :: 'b' :: r => natural? 2 r
  | r => if isZeroLed r then none else natural? 10 r

/-- An integer. -/
def integer? : List Char → Option Int
  | '+' :: r => (unsigned? r).map Int.ofNat
  | '-' :: r => (unsigned? r).map fun n => -Int.ofNat n
  | r => (unsigned? r).map Int.ofNat

/-- The words for an infinity. -/
def isInfinityWord (cs : List Char) : Bool :=
  String.ofList cs ∈ [".inf", ".Inf", ".INF"]

/-- A binary number: a word for an infinity or an undefined number, or a
numeral in range. -/
def binary? (cs : List Char) : Option Binary64 :=
  if String.ofList cs ∈ [".nan", ".NaN", ".NAN"] then some .nan
  else
    let finite? (r : List Char) : Option Binary64 :=
      ((Numeral.read? r).map Numeral.toBinary64).filter Binary64.isFinite
    match cs with
    | '+' :: '+' :: _ => none
    | '+' :: '-' :: _ => none
    | '+' :: r => if isInfinityWord r then some (.infinite false) else finite? r
    | '-' :: r => if isInfinityWord r then some (.infinite true) else finite? cs
    | r => if isInfinityWord r then some (.infinite false) else finite? r

/-- The meaning of an integer. -/
def Plain.ofInteger? (n : Int) : Option Plain :=
  if int64Min ≤ n ∧ n ≤ nat64Max then some (.number (.integer n))
  else if -(nat128Max / 2 + 1 : Nat) ≤ n ∧ n ≤ nat128Max then some .wide
  else none

/-- The meaning of a plain scalar. -/
def Plain.ofChars (cs : List Char) : Plain :=
  if cs.isEmpty || isNullWord cs then .null
  else
    match boolWord? cs with
    | some b => .bool b
    | none =>
      match (integer? cs).bind Plain.ofInteger? with
      | some p => p
      | none =>
        if isZeroLed cs then .text
        else
          match binary? cs with
          | some x => .number (.binary x)
          | none => .text

/-- Whether a string has to be quoted not to be read as something
else. -/
def isAmbiguous (cs : List Char) : Bool :=
  Plain.ofChars cs ≠ .text || isZeroLed cs

end CredentialRotation.Yaml
