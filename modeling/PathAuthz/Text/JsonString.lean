/-
  PathAuthz.Text.JsonString — text as a JSON string.

  Quotes, backslashes and control characters are escaped: the usual ones by a letter, the
  others by their code point in four hexadecimal digits. Everything else stands for itself,
  as the `serde_json` library writes it.
-/

namespace PathAuthz.Text.JsonString

def hexDigit (n : Nat) : Char := if n < 10 then Char.ofNat ('0'.toNat + n) else Char.ofNat ('a'.toNat + n - 10)

def escape (c : Char) : List Char :=
  if c = '"' then ['\\', '"']
  else if c = '\\' then ['\\', '\\']
  else if c = '\x08' then ['\\', 'b']
  else if c = '\x0c' then ['\\', 'f']
  else if c = '\n' then ['\\', 'n']
  else if c = '\r' then ['\\', 'r']
  else if c = '\t' then ['\\', 't']
  else if c.toNat < 0x20 then ['\\', 'u', '0', '0', hexDigit (c.toNat / 16), hexDigit (c.toNat % 16)]
  else [c]

def encode (s : String) : String := String.ofList ('"' :: s.toList.flatMap escape ++ ['"'])

/-- The string of a text, or the word for none. -/
def encodeOption : Option String → String
  | some s => encode s
  | none => "null"

end PathAuthz.Text.JsonString
