import VoiceCursor.Text.Printable

namespace VoiceCursor.Text

/-! Texts between double quotes, with escapes for what could not be read back or
could not be seen. -/

/-- The code point in hexadecimal, without leading zeros. -/
def escapeCode (c : Char) : List Char :=
  ['\\', 'u', '\x7B'] ++ Nat.toDigits 16 c.toNat ++ ['\x7D']

def escape (c : Char) : List Char :=
  if c = '\x00' then ['\\', '0']
  else if c = '\t' then ['\\', 't']
  else if c = '\r' then ['\\', 'r']
  else if c = '\n' then ['\\', 'n']
  else if c = '\\' ∨ c = '"' then ['\\', c]
  else if isPrintable c then [c]
  else escapeCode c

def quoted (text : String) : String :=
  .ofList (['"'] ++ text.toList.flatMap escape ++ ['"'])

end VoiceCursor.Text
