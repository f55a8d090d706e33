import CredentialRotation.Text.Unseen

/-!
# Descriptions

How a value is described in a log: its name and its fields, with texts in
quotation marks and secrets left out. A description is for people; what
cannot be seen in a text is written as an escape.
-/

namespace CredentialRotation

namespace Description

/-- A character inside quotation marks. -/
def quoteChar (c : Char) : List Char :=
  if c = '"' then ['\\', '"']
  else if c = '\\' then ['\\', '\\']
  else if c = '\n' then ['\\', 'n']
  else if c = '\r' then ['\\', 'r']
  else if c = '\t' then ['\\', 't']
  else if c = '\x00' then ['\\', '0']
  else if Unseen.isUnseen c then
    ['\\', 'u', '{'] ++ Nat.toDigits 16 c.toNat ++ ['}']
  else [c]

/-- A text in quotation marks. -/
def quote (s : String) : String :=
  String.ofList ('"' :: s.toList.flatMap quoteChar ++ ['"'])

/-- What a field holds. -/
inductive Content
  | hidden
  | text (s : String)
  | bare (s : String)

/-- What is written for the content of a field. -/
def Content.render : Content → String
  | .hidden => quote "<redacted>"
  | .text s => quote s
  | .bare s => s

/-- The fields of a record. -/
def fields (fs : List (String × Content)) : String :=
  ", ".intercalate (fs.map fun (name, x) => name ++ ": " ++ x.render)

/-- A record. -/
def record (name : String) (fs : List (String × Content)) : String :=
  name ++ " \x7b " ++ fields fs ++ " \x7d"

/-- A record of which only some fields are described. -/
def excerpt (name : String) (fs : List (String × Content)) : String :=
  name ++ " \x7b " ++ fields fs ++ ", .. \x7d"

end Description

end CredentialRotation
