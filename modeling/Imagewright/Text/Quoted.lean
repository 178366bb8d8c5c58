import Imagewright.Text.Digits
import Imagewright.Text.Printable
import Imagewright.Text.Surrogate

/-!
# Quoted text

A text as it is shown in messages: between quotes, with an escape for each character that has no
visible form.

## Main definitions

* `quote`: single quotes, unless the text holds a single quote and no double one.
* `LoneHalves.message`: why a text cannot be written as bytes.
-/
namespace Imagewright.Text

/-- The escape of a character without a visible form, as short as its code point allows. -/
def escapeCodePoint (n : Nat) : List Char :=
  if n < 0x100 then '\\' :: 'x' :: hexDigits 2 n
  else if n < 0x10000 then '\\' :: 'u' :: hexDigits 4 n
  else '\\' :: 'U' :: hexDigits 8 n

/-- Why a text cannot be written as bytes. -/
def LoneHalves.message (h : LoneHalves) : String :=
  let place :=
    if h.more == 0 then
      "character '" ++ String.ofList (escapeCodePoint h.first) ++ "' in position " ++
        toString h.start
    else "characters in position " ++ toString h.start ++ "-" ++ toString (h.start + h.more)
  "'utf-8' codec can't encode " ++ place ++ ": surrogates not allowed"

/-- One character between the quotes `mark`. -/
def quoteChar (mark c : Char) : List Char :=
  if c == mark || c == '\\' then ['\\', c]
  else if c == '\n' then ['\\', 'n']
  else if c == '\r' then ['\\', 'r']
  else if c == '\t' then ['\\', 't']
  else if isPrintable c then [c]
  else escapeCodePoint ((half? c).getD c.toNat)

/-- The mark that quotes a text: double if the text holds a single quote and no double one. -/
def quoteMark (cs : List Char) : Char :=
  if cs.contains '\'' && !cs.contains '"' then '"' else '\''

def quote (s : String) : String :=
  let mark := quoteMark s.toList
  String.ofList (mark :: s.toList.flatMap (quoteChar mark) ++ [mark])

end Imagewright.Text
