import ProbeLifecycle.Text.Printable

/-!
# Quoted text

Error messages quote a setting between double quotation marks, with a
backslash before whatever could be mistaken or could not be seen.  Characters
that are not printable are written by their code point.
-/

namespace ProbeLifecycle.Text

def hexDigits (number : Nat) : List Char :=
  Nat.toDigits 16 number

def quoteChar (char : Char) : List Char :=
  if char = '"' then ['\\', '"']
  else if char = '\\' then ['\\', '\\']
  else if char = '\n' then ['\\', 'n']
  else if char = '\r' then ['\\', 'r']
  else if char = '\t' then ['\\', 't']
  else if char = '\x00' then ['\\', '0']
  else if isPrintable char then [char]
  else ['\\', 'u', '\x7b'] ++ hexDigits char.toNat ++ ['\x7d']

def quoted (text : String) : String :=
  .ofList ('"' :: text.toList.flatMap quoteChar ++ ['"'])

example : quoted "a\"b\x7f" = "\"a\\\"b\\u\x7b7f\x7d\"" := by decide

end ProbeLifecycle.Text
