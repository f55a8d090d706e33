import CredentialRotation.Number.Binary64

/-!
# Decimal numerals

A numeral is an optional sign, digits with an optional fraction, and an
optional exponent; at least one digit stands before the exponent. What
may stand for a number in a text field is a numeral or one of the words
for an infinity or an undefined number.
-/

namespace CredentialRotation.Number

/-- The value of a decimal numeral: `digits * 10 ^ exponent`. -/
structure Numeral where
  negative : Bool
  digits : Nat
  exponent : Int
deriving DecidableEq, Repr

namespace Numeral

/-- The number a run of decimal digits spells, zero for an empty run. -/
def run (cs : List Char) : Nat :=
  cs.foldl (fun n c => 10 * n + (c.toNat - 0x30)) 0

/-- The exponent a numeral ends with. -/
def exponent? : List Char → Option Int
  | [] => some 0
  | c :: cs => if c = 'e' ∨ c = 'E' then integer? 10 cs else none

/-- A numeral without a sign. -/
def unsigned? (cs : List Char) : Option (Nat × Int) :=
  let whole := cs.takeWhile Char.isDigit
  match cs.dropWhile Char.isDigit with
  | '.' :: rest =>
    let part := rest.takeWhile Char.isDigit
    if whole.isEmpty && part.isEmpty then none
    else
      (exponent? (rest.dropWhile Char.isDigit)).map fun e =>
        (run (whole ++ part), e - part.length)
  | rest => if whole.isEmpty then none else (exponent? rest).map fun e => (run whole, e)

/-- A numeral. -/
def read? : List Char → Option Numeral
  | '+' :: cs => (unsigned? cs).map fun (d, e) => ⟨false, d, e⟩
  | '-' :: cs => (unsigned? cs).map fun (d, e) => ⟨true, d, e⟩
  | cs => (unsigned? cs).map fun (d, e) => ⟨false, d, e⟩

/-- The number nearest to a numeral. -/
def toBinary64 (n : Numeral) : Binary64 :=
  .ofDecimal n.negative n.digits n.exponent

end Numeral

/-- The words for what is no finite number, in lower case. -/
def wordValue? (negative : Bool) (word : List Char) : Option Binary64 :=
  match String.ofList (word.map Char.toLower) with
  | "inf" => some (.infinite negative)
  | "infinity" => some (.infinite negative)
  | "nan" => some .nan
  | _ => none

/-- A number in a text field: a numeral, or a word for what is no finite
number, in any case and with an optional sign. -/
def binary64? (cs : List Char) : Option Binary64 :=
  match Numeral.read? cs with
  | some n => some n.toBinary64
  | none =>
    match cs with
    | '+' :: word => wordValue? false word
    | '-' :: word => wordValue? true word
    | word => wordValue? false word

end CredentialRotation.Number
