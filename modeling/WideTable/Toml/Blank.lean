namespace WideTable.Toml

def isPlain (c : Char) : Bool :=
  c == '\t' || (' ' ≤ c && c != '\x7f')

def isBlank (c : Char) : Bool :=
  c == ' ' || c == '\t'

def skipBlanks (cs : List Char) : List Char :=
  cs.dropWhile isBlank

def lineEnd? : List Char → Option (List Char)
  | '\n' :: cs => some cs
  | '\r' :: '\n' :: cs => some cs
  | _ => none

def skipSpace : List Char → List Char
  | '\r' :: '\n' :: cs => skipSpace cs
  | c :: cs => if c == '\n' || isBlank c then skipSpace cs else c :: cs
  | [] => []

def skipWith? (comment : Bool) : List Char → Option (List Char)
  | [] => some []
  | '\r' :: '\n' :: cs => skipWith? false cs
  | c :: cs =>
    if c == '\n' then skipWith? false cs
    else if comment then (if isPlain c then skipWith? true cs else none)
    else if isBlank c then skipWith? false cs
    else if c == '#' then skipWith? true cs
    else some (c :: cs)

def skip? (cs : List Char) : Option (List Char) :=
  skipWith? false cs

def closesLine (cs : List Char) : Bool :=
  match skipBlanks cs with
  | [] => true
  | '#' :: _ => true
  | cs => (lineEnd? cs).isSome

end WideTable.Toml
