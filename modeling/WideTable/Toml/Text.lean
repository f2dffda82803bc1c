import WideTable.Text.Hex
import WideTable.Toml.Blank

namespace WideTable.Toml

def readScalar? (width : Nat) (cs : List Char) : Option (Char × List Char) := do
  let digits := cs.take width
  let n ← Hex.number? digits
  if digits.length = width && decide n.isValidChar then return (.ofNat n, cs.drop width) else none

def readEscape? : List Char → Option (Char × List Char)
  | 'b' :: cs => some ('\x08', cs)
  | 't' :: cs => some ('\t', cs)
  | 'n' :: cs => some ('\n', cs)
  | 'f' :: cs => some ('\x0c', cs)
  | 'r' :: cs => some ('\r', cs)
  | 'e' :: cs => some ('\x1b', cs)
  | '"' :: cs => some ('"', cs)
  | '\\' :: cs => some ('\\', cs)
  | 'x' :: cs => readScalar? 2 cs
  | 'u' :: cs => readScalar? 4 cs
  | 'U' :: cs => readScalar? 8 cs
  | _ => none

-- A backslash at the end of a line hides all space up to the next character.
def hidden? (cs : List Char) : Option (List Char) :=
  (lineEnd? (skipBlanks cs)).map skipSpace

-- The last part takes the closing marks as well.
structure Part where
  text : List Char
  last : Bool := false

namespace Part

def closing : Part where
  text := []
  last := true

-- A string on several lines may end with one or two marks before the three that close it.
def closingLong (mark : Char) (cs : List Char) : Part × List Char :=
  let marks := (cs.take 2).takeWhile (· == mark)
  ({ text := marks, last := true }, cs.drop marks.length)

def readPlain? : List Char → Option (Part × List Char)
  | c :: cs => if isPlain c then some ({ text := [c] }, cs) else none
  | [] => none

def readEscaped? (cs : List Char) : Option (Part × List Char) :=
  (readEscape? cs).map fun (c, rest) => ({ text := [c] }, rest)

def readQuoted? : List Char → Option (Part × List Char)
  | '"' :: cs => some (closing, cs)
  | '\\' :: cs => readEscaped? cs
  | cs => readPlain? cs

def readLiteral? : List Char → Option (Part × List Char)
  | '\'' :: cs => some (closing, cs)
  | cs => readPlain? cs

def readLine? (cs : List Char) : Option (Part × List Char) :=
  match lineEnd? cs with
  | some rest => some ({ text := ['\n'] }, rest)
  | none => readPlain? cs

def readLongQuoted? : List Char → Option (Part × List Char)
  | '"' :: '"' :: '"' :: cs => some (closingLong '"' cs)
  | '\\' :: cs =>
    match hidden? cs with
    | some rest => some ({ text := [] }, rest)
    | none => readEscaped? cs
  | cs => readLine? cs

def readLongLiteral? : List Char → Option (Part × List Char)
  | '\'' :: '\'' :: '\'' :: cs => some (closingLong '\'' cs)
  | cs => readLine? cs

end Part

-- Every part takes a character.
def readParts? (part? : List Char → Option (Part × List Char)) :
    (fuel : Nat) → List Char → Option (List Char × List Char)
  | 0, _ => none
  | fuel + 1, cs => do
    let (part, cs) ← part? cs
    if part.last then
      return (part.text, cs)
    else
      let (text, cs) ← readParts? part? fuel cs
      return (part.text ++ text, cs)

def readString? (part? : List Char → Option (Part × List Char)) (cs : List Char) :
    Option (String × List Char) :=
  (readParts? part? (cs.length + 1) cs).map fun (text, rest) => (.ofList text, rest)

def readShort? : List Char → Option (String × List Char)
  | '"' :: cs => readString? Part.readQuoted? cs
  | '\'' :: cs => readString? Part.readLiteral? cs
  | _ => none

-- The first line of a long string does not count if it is empty.
def readText? : List Char → Option (String × List Char)
  | '"' :: '"' :: '"' :: cs => readString? Part.readLongQuoted? ((lineEnd? cs).getD cs)
  | '\'' :: '\'' :: '\'' :: cs => readString? Part.readLongLiteral? ((lineEnd? cs).getD cs)
  | cs => readShort? cs

end WideTable.Toml
