/-!
# Letter case

Names of pixel formats are compared in upper case, names of codecs in lower case. The former follows
Unicode, where some letters outside ASCII have an upper case within it; the latter changes the
letters of ASCII alone.
-/

namespace LiveCamera.Text

/-- The upper case of a character where that is ASCII text, the character itself otherwise. Letters
whose upper case leaves ASCII never occur in a name this is compared with. -/
def upperCase (c : Char) : List Char :=
  if 'a' ≤ c ∧ c ≤ 'z' then [Char.ofNat (c.toNat - 32)]
  else match c.toNat with
    | 0x00DF => ['S', 'S']
    | 0x0131 => ['I']
    | 0x017F => ['S']
    | 0xFB00 => ['F', 'F']
    | 0xFB01 => ['F', 'I']
    | 0xFB02 => ['F', 'L']
    | 0xFB03 => ['F', 'F', 'I']
    | 0xFB04 => ['F', 'F', 'L']
    | 0xFB05 => ['S', 'T']
    | 0xFB06 => ['S', 'T']
    | _ => [c]

/-- A text in upper case, as far as its upper case is ASCII. -/
def upper (s : String) : String := String.ofList (s.toList.flatMap upperCase)

/-- A text with the letters of ASCII in lower case. -/
def lower (s : String) : String := String.ofList (s.toList.map Char.toLower)

end LiveCamera.Text
