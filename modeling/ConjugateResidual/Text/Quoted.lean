import ConjugateResidual.Decimal.Scientific
import ConjugateResidual.Text.Printable

/-!
Quoted texts. The quote is single unless the text holds a single quote and no double one. The
quote in use and the backslash are escaped, and so is everything that has no printed form.
-/

namespace ConjugateResidual.Text

def hexadecimal (width code : Nat) : String :=
  let text := String.ofList (Nat.toDigits 16 code)
  String.ofList (List.replicate (width - text.length) '0') ++ text

def escape (quote char : Char) : String :=
  if char = quote ∨ char = '\\' then String.ofList ['\\', char]
  else if char = '\n' then "\\n"
  else if char = '\r' then "\\r"
  else if char = '\t' then "\\t"
  else if isPrintable char then char.toString
  else if char.toNat < 0x100 then "\\x" ++ hexadecimal 2 char.toNat
  else if char.toNat < 0x10000 then "\\u" ++ hexadecimal 4 char.toNat
  else "\\U" ++ hexadecimal 8 char.toNat

def quoteFor (chars : List Char) : Char :=
  if chars.contains '\'' && !chars.contains '"' then '"' else '\''

def quoted (text : String) : String :=
  let quote := quoteFor text.toList
  quote.toString ++ String.join (text.toList.map (escape quote)) ++ quote.toString

end ConjugateResidual.Text
