/-!
Upper case, as far as it is written in ASCII letters.
-/

namespace KeyProtection.Text

/-- Characters above ASCII whose upper case is written in ASCII letters alone. -/
def wideLetters : List (Char × List Char) :=
  [('ß', ['S', 'S']), ('ı', ['I']), ('ſ', ['S']), ('ﬀ', ['F', 'F']), ('ﬁ', ['F', 'I']),
    ('ﬂ', ['F', 'L']), ('ﬃ', ['F', 'F', 'I']), ('ﬄ', ['F', 'F', 'L']), ('ﬅ', ['S', 'T']),
    ('ﬆ', ['S', 'T'])]

/-- The upper case of a character. A character above ASCII whose upper case is not in ASCII either
stays as it is. -/
def upperChar (char : Char) : List Char :=
  if char.toNat < 128 then [char.toUpper] else (wideLetters.lookup char).getD [char]

def upper (text : List Char) : List Char := text.flatMap upperChar

end KeyProtection.Text
