import RegisterTrace.Numeral
import RegisterTrace.Text.Unprintable

/-!
# Quoted text

Messages show a text that comes from a capture between double quotes, so that a reader can tell
where it starts and ends and which characters it holds.
-/

namespace RegisterTrace.Quoted

/-- A character as it stands between the quotes. -/
def escape (character : Char) : List Char :=
  match character with
  | '\x00' => ['\\', '0']
  | '\t' => ['\\', 't']
  | '\n' => ['\\', 'n']
  | '\r' => ['\\', 'r']
  | '"' => ['\\', '"']
  | '\\' => ['\\', '\\']
  | other =>
      if isUnprintable other then
        ['\\', 'u', '\x7b'] ++ Nat.toDigits 16 other.toNat ++ ['\x7d']
      else
        [other]

/-- A text between double quotes, with every character that would mislead a reader escaped. -/
def quote (text : String) : String :=
  String.ofList (['"'] ++ text.toList.flatMap escape ++ ['"'])

end RegisterTrace.Quoted
