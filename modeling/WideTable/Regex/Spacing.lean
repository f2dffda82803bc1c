import WideTable.Text.Blank

namespace WideTable.Pattern

def skipAll (comment : Bool) : List Char → List Char
  | [] => []
  | c :: cs =>
    if comment then skipAll (c != '\n') cs
    else if Text.isBlank c then skipAll false cs
    else if c == '#' then skipAll true cs
    else c :: cs

-- Blanks and comments are skipped only while the pattern is spaced.
def skip (spaced : Bool) (cs : List Char) : List Char :=
  if spaced then skipAll false cs else cs

@[simp]
theorem skip_false (cs : List Char) : skip false cs = cs :=
  rfl

-- The next character that is not skipped. A `#` hides only itself and blanks here, and where all is
-- hidden the very next character counts.
def peek? (spaced : Bool) (cs : List Char) : Option Char :=
  if spaced then
    match cs.dropWhile Text.isBlank with
    | '#' :: rest => (rest.dropWhile Text.isBlank).head? <|> cs.head?
    | rest => rest.head? <|> cs.head?
  else
    cs.head?

def collectAll (comment : Bool) (p : Char → Bool) : List Char → List Char × List Char
  | [] => ([], [])
  | c :: cs =>
    if comment then collectAll (c != '\n') p cs
    else if Text.isBlank c then collectAll false p cs
    else if c == '#' then collectAll true p cs
    else if p c then
      let (found, rest) := collectAll false p cs
      (c :: found, rest)
    else ([], c :: cs)

-- The longest run of characters with `p`, without what is skipped between them, and what follows.
def collect (spaced : Bool) (p : Char → Bool) (cs : List Char) : List Char × List Char :=
  if spaced then collectAll false p cs else cs.span p

end WideTable.Pattern
