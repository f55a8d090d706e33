import CredentialRotation.Text.Blank
import CredentialRotation.Time.Calendar
import CredentialRotation.Time.Instant

/-!
# Instants in text

Instants are written as RFC 3339 has it: a date, a time of day with as
many groups of three digits of a fraction as it takes, and an offset,
which is always zero. Years outside `0 ..= 9999` carry a sign.

Reading is more generous than writing. It takes any offset, blanks
before each field, a lower-case or blank separator, and fractions of any
length, of which nine digits count. `Layout` lists the three shapes of
output in use.
-/

namespace CredentialRotation

open Number (decimalPadded)

namespace Instant

/-- A shape of output: what stands between date and time, and what comes
last. -/
structure Layout where
  separator : Char
  suffix : String

/-- The shape of documents, with `Z` for the offset. -/
def documentLayout : Layout := ⟨'T', "Z"⟩

/-- The shape of published details, with the offset in digits. -/
def detailLayout : Layout := ⟨'T', "+00:00"⟩

/-- The shape of messages. -/
def messageLayout : Layout := ⟨' ', " UTC"⟩

/-- A year: four digits, and a sign when they do not suffice. -/
def yearText (y : Int) : List Char :=
  if 0 ≤ y ∧ y ≤ 9999 then decimalPadded 4 y.toNat
  else (if y < 0 then '-' else '+') :: decimalPadded 4 y.natAbs

/-- A fraction of a second in three, six or nine digits, or nothing. -/
def fractionText (nanos : Nat) : List Char :=
  if nanos = 0 then []
  else if nanos % 1000000 = 0 then '.' :: decimalPadded 3 (nanos / 1000000)
  else if nanos % 1000 = 0 then '.' :: decimalPadded 6 (nanos / 1000)
  else '.' :: decimalPadded 9 nanos

/-- The characters of an instant in a layout. -/
def render (layout : Layout) (t : Instant) : List Char :=
  let date := Calendar.dateOfDay (t.secs / 86400)
  let time := (t.secs % 86400).toNat
  let (second, nanos) :=
    if t.isLeap then (time % 60 + 1, t.nanos - 1000000000) else (time % 60, t.nanos)
  yearText date.year ++ '-' :: decimalPadded 2 date.month ++ '-' :: decimalPadded 2 date.day
    ++ layout.separator :: decimalPadded 2 (time / 3600)
    ++ ':' :: decimalPadded 2 (time / 60 % 60) ++ ':' :: decimalPadded 2 second
    ++ fractionText nanos ++ layout.suffix.toList

/-- The text of an instant in documents. -/
def text (t : Instant) : String := String.ofList (t.render documentLayout)

/-- The text of an instant in published details. -/
def detailText (t : Instant) : String := String.ofList (t.render detailLayout)

/-- The text of an instant in messages. -/
def messageText (t : Instant) : String := String.ofList (t.render messageLayout)

/-! ## Reading -/

/-- The number of the digits a text starts with, at least one and at most
`most` of them, and what follows. -/
def digits? (most : Nat) (cs : List Char) : Option (Nat × List Char) :=
  let ds := (cs.take most).takeWhile Char.isDigit
  if ds.isEmpty then none
  else some (ds.foldl (fun n c => 10 * n + (c.toNat - 0x30)) 0, cs.drop ds.length)

/-- A field of at most two digits, after blanks. -/
def field? (cs : List Char) : Option (Nat × List Char) :=
  digits? 2 (Text.trimStart cs)

/-- A year, after blanks: at most four digits, or any number of them
after a sign. -/
def year? (cs : List Char) : Option (Int × List Char) :=
  match Text.trimStart cs with
  | '-' :: r => (digits? r.length r).map fun (n, r) => (-(n : Int), r)
  | '+' :: r => (digits? r.length r).map fun (n, r) => ((n : Int), r)
  | r => (digits? 4 r).map fun (n, r) => ((n : Int), r)

/-- What follows the character `c`, blanks allowed before it. -/
def mark? (c : Char) (cs : List Char) : Option (List Char) :=
  match Text.trimStart cs with
  | d :: r => if d = c then some r else none
  | [] => none

/-- A fraction of a second in nanoseconds. Digits past the ninth do not
count; no point, no fraction. -/
def fraction? (cs : List Char) : Option (Nat × List Char) :=
  match cs with
  | '.' :: r =>
    let ds := r.takeWhile Char.isDigit
    if ds.isEmpty then none
    else
      let nine := ds.take 9
      let n := nine.foldl (fun n c => 10 * n + (c.toNat - 0x30)) 0
      some (n * Nat.pow 10 (9 - nine.length), r.dropWhile Char.isDigit)
  | r => some (0, r)

/-- Two digits, the first of them below `top`. -/
def twoDigits? (top : Char) (cs : List Char) : Option (Int × List Char) :=
  match cs with
  | a :: b :: r =>
    if '0' ≤ a ∧ a ≤ top ∧ b.isDigit then
      some (((a.toNat - 0x30) * 10 + (b.toNat - 0x30) : Nat), r)
    else none
  | _ => none

/-- An offset in seconds: `Z`, the word `UTC`, or a sign with hours and
minutes, which blanks or colons may separate. -/
def offset? (cs : List Char) : Option (Int × List Char) :=
  match cs with
  | 'Z' :: r => some (0, r)
  | 'z' :: r => some (0, r)
  | _ =>
    if (cs.take 3).map Char.toUpper = ['U', 'T', 'C'] then some (0, cs.drop 3)
    else do
      let (sign, r) ← match cs with
        | '+' :: r => some ((1 : Int), r)
        | '-' :: r => some (-1, r)
        | '\u2212' :: r => some (-1, r)
        | _ => none
      let (h, r) ← twoDigits? '9' r
      let (m, r) ← twoDigits? '5' (r.dropWhile fun c => c = ':' || Text.isBlank c)
      some (sign * (h * 3600 + m * 60), r)

/-- The instant that a date, a time of day and an offset in seconds
denote. The sixtieth second of a minute is its leap second. -/
def ofFields? (date : Calendar.Date) (hour minute second nanos : Nat) (offset : Int) :
    Option Instant :=
  if date.isValid ∧ Calendar.minYear ≤ date.year ∧ date.year ≤ Calendar.maxYear
      ∧ hour ≤ 23 ∧ minute ≤ 59 ∧ second ≤ 60 ∧ -86400 < offset ∧ offset < 86400 then
    let (second, nanos) := if second = 60 then (59, nanos + 1000000000) else (second, nanos)
    let time : Int := (hour * 3600 + minute * 60 + second : Nat)
    ofParts? (Calendar.dayOfDate date * 86400 + time - offset) nanos
  else none

/-- The instant that a text denotes. -/
def read? (cs : List Char) : Option Instant := do
  let (year, r) ← year? cs
  let r ← mark? '-' r
  let (month, r) ← field? r
  let r ← mark? '-' r
  let (day, r) ← field? r
  let r ← match r with
    | 'T' :: r => some r
    | 't' :: r => some r
    | ' ' :: r => some r
    | _ => none
  let (hour, r) ← field? r
  let r ← mark? ':' r
  let (minute, r) ← field? r
  let r ← mark? ':' r
  let (second, r) ← field? r
  let (nanos, r) ← fraction? r
  let (offset, r) ← offset? (Text.trimStart r)
  if (Text.trimStart r).isEmpty then
    ofFields? ⟨year, month, day⟩ hour minute second nanos offset
  else none

/-- The instant that a string denotes. -/
def ofText? (s : String) : Option Instant := read? s.toList

end Instant

end CredentialRotation
