import DocScribe.Text.Printable
import DocScribe.Number.Digits

/-!
# Quoted text

A text between double quotes on one line of printable characters. Quotes and backslashes are
escaped, printable characters stand as they are, and everything else becomes an escape: a short one
where there is one, `\x` with two digits for control and stray bytes, `\u` with four or `\U` with
eight digits for the other code points.
-/

namespace DocScribe.Text

/-- The letter of a short escape. -/
def shortEscape? : Nat → Option UInt8
  | 0x07 => some 0x61
  | 0x08 => some 0x62
  | 0x09 => some 0x74
  | 0x0a => some 0x6e
  | 0x0b => some 0x76
  | 0x0c => some 0x66
  | 0x0d => some 0x72
  | _ => none

/-- One character inside quotes. -/
def quoteGlyph (g : Glyph) : Text :=
  match g.code? with
  | none => g.bytes.flatMap fun b => ("\\x" : Text) ++ Number.hex 2 b.toNat
  | some code =>
    if code == 0x22 || code == 0x5c then backslash :: g.bytes
    else if isPrintable code then g.bytes
    else
      match shortEscape? code with
      | some letter => [backslash, letter]
      | none =>
        if code < 0x20 || code == 0x7f then ("\\x" : Text) ++ Number.hex 2 code
        else if code < 0x10000 then ("\\u" : Text) ++ Number.hex 4 code
        else ("\\U" : Text) ++ Number.hex 8 code

/-- The text in double quotes. -/
def quoted (s : Text) : Text :=
  quote :: s.glyphs.flatMap quoteGlyph ++ [quote]

end DocScribe.Text
