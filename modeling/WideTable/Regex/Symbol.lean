import WideTable.Regex.Basic
import WideTable.Regex.Flags
import WideTable.Regex.Spacing
import WideTable.Text.Casing
import WideTable.Text.Property

namespace WideTable.Pattern

inductive Shorthand
  | digit
  | space
  | word
  deriving DecidableEq, Repr

inductive Symbol
  -- `pair` if it is written as `\x` with two digits, which may name a byte.
  | literal (c : Char) (pair : Bool)
  | any
  | lineStart
  | lineStop
  | textStart
  | textStop
  | wordEdge (edge : WordEdge)
  | shorthand (kind : Shorthand) (negated : Bool)
  | property (query : Text.Property.Query) (negated : Bool)

namespace Symbol

def char? (n : Nat) : Option Char :=
  if n.isValidChar then some (Char.ofNat n) else none

-- Reads so many hexadecimal digits after the number `n` that was read before them.
def hexDigits? (spaced : Bool) : (count n : Nat) → List Char → Option (Nat × List Char)
  | 0, n, cs => some (n, cs)
  | count + 1, n, c :: cs => do
    hexDigits? spaced count (16 * n + (← Hex.value? c)) (skip spaced cs)
  | _ + 1, _, [] => none

def readHex? (spaced : Bool) (digits : Nat) (cs : List Char) : Option (Symbol × List Char) :=
  match skip spaced cs with
  | '\x7b' :: cs =>
    match collect spaced (· != '\x7d') cs with
    | (number, '\x7d' :: rest) => do
      return (literal (← char? (← Hex.number? number)) false, skip spaced rest)
    | _ => none
  | cs => do
    let (n, rest) ← hexDigits? spaced digits 0 cs
    return (literal (← char? n) (digits = 2), rest)

def isEdgeLetter (c : Char) : Bool :=
  c.isAlpha || c == '-'

def edge? : List Char → Option WordEdge
  | ['s', 't', 'a', 'r', 't'] => some .start
  | ['e', 'n', 'd'] => some .stop
  | ['s', 't', 'a', 'r', 't', '-', 'h', 'a', 'l', 'f'] => some .startHalf
  | ['e', 'n', 'd', '-', 'h', 'a', 'l', 'f'] => some .stopHalf
  | _ => none

-- A brace with no letter after it is left for a counted repetition.
def readEdge? (spaced : Bool) (cs : List Char) : Option (Symbol × List Char) :=
  match cs with
  | '\x7b' :: inner =>
    match skip spaced inner with
    | [] => none
    | c :: _ =>
      if isEdgeLetter c then
        match collect spaced isEdgeLetter inner with
        | (name, '\x7d' :: rest) => do return (wordEdge (← edge? name), rest)
        | _ => none
      else some (wordEdge .boundary, cs)
  | _ => some (wordEdge .boundary, cs)

def readProperty? (spaced negated : Bool) (cs : List Char) : Option (Symbol × List Char) :=
  match skip spaced cs with
  | [] => none
  | '\x7b' :: cs =>
    match collect spaced (· != '\x7d') cs with
    | (query, '\x7d' :: rest) => do return (property (← Text.Property.ofText? query) negated, rest)
    | _ => none
  | c :: cs => do
    return (property (← Text.Property.ofLetter? c) negated, skip spaced cs)

def isEscapable (c : Char) : Bool :=
  c.toNat < 0x80 && !c.isAlphanum && c != '<' && c != '>'

def readEscape? (spaced : Bool) : List Char → Option (Symbol × List Char)
  | [] => none
  | c :: cs =>
    match c with
    | 'x' => readHex? spaced 2 cs
    | 'u' => readHex? spaced 4 cs
    | 'U' => readHex? spaced 8 cs
    | 'p' => readProperty? spaced false cs
    | 'P' => readProperty? spaced true cs
    | 'b' => readEdge? spaced cs
    | _ =>
      match simple? c with
      | some symbol => some (symbol, cs)
      | none => if isEscapable c then some (literal c false, cs) else none
where
  simple? : Char → Option Symbol
    | 'd' => some (shorthand .digit false)
    | 'D' => some (shorthand .digit true)
    | 's' => some (shorthand .space false)
    | 'S' => some (shorthand .space true)
    | 'w' => some (shorthand .word false)
    | 'W' => some (shorthand .word true)
    | 'a' => some (literal '\x07' false)
    | 't' => some (literal '\t' false)
    | 'n' => some (literal '\n' false)
    | 'v' => some (literal '\x0b' false)
    | 'f' => some (literal '\x0c' false)
    | 'r' => some (literal '\r' false)
    | 'A' => some textStart
    | 'z' => some textStop
    | 'B' => some (wordEdge .inside)
    | '<' => some (wordEdge .start)
    | '>' => some (wordEdge .stop)
    | _ => none

end Symbol

namespace Flags

def all (f : Flags) : Text.CodeSet :=
  if f.unicode then Text.scalars else Text.octets

-- With the flag `i`, adds the codes that differ in case only.
def spread (f : Flags) (set : Text.CodeSet) : Text.CodeSet :=
  if f.caseless then set.closeUnder (if f.unicode then Text.foldPairs else Text.asciiFoldPairs)
  else set

def flip (f : Flags) (negated : Bool) (set : Text.CodeSet) : Text.CodeSet :=
  if negated then f.all \ set else set

def atomOf (f : Flags) (set : Text.CodeSet) : Regex :=
  .atom (if f.unicode then .char (set ∩ f.all) else .byte set)

end Flags

namespace Shorthand

-- Without the flag `u` only ASCII counts.
def codes (unicode : Bool) : Shorthand → Text.CodeSet
  | digit => if unicode then Text.Category.decimalNumber.codes else .ofRanges [(0x30, 0x39)]
  | space => if unicode then Text.Trait.whiteSpace else .ofRanges [(0x09, 0x0d), (0x20, 0x20)]
  | word =>
    if unicode then Text.words
    else .ofRanges [(0x30, 0x39), (0x41, 0x5a), (0x5f, 0x5f), (0x61, 0x7a)]

end Shorthand

namespace Symbol

-- Without `u`, only ASCII and what names a byte has a code.
def literalCode? (f : Flags) (c : Char) (pair : Bool) : Option Nat :=
  if f.unicode || pair || c.toNat < 0x80 then some c.toNat else none

def codes? (f : Flags) : Symbol → Option Text.CodeSet
  | literal c pair => (literalCode? f c pair).map .single
  | shorthand kind negated => some (f.flip negated (kind.codes f.unicode))
  | property query negated =>
    if f.unicode then some (f.flip (query.negated != negated) (f.spread query.codes)) else none
  | _ => none

def literalRegex (f : Flags) (c : Char) (pair : Bool) : Regex :=
  match literalCode? f c pair with
  | none => .bytes (String.utf8EncodeChar c)
  | some code =>
    let set := f.spread (.single code)
    if set ≠ .single code then f.atomOf set
    else if f.unicode then .bytes (String.utf8EncodeChar c)
    else .bytes [code.toUInt8]

def lineEnds (f : Flags) : Text.CodeSet :=
  if f.dotAll then ∅ else .ofCodes (if f.crlf then [0x0a, 0x0d] else [0x0a])

-- Without `u`, a symbol stands for single bytes, and a character beyond ASCII for the bytes of its UTF-8
-- form.
def regex? (f : Flags) (symbol : Symbol) : Option Regex :=
  match symbol with
  | literal c pair => some (literalRegex f c pair)
  | any => some (f.atomOf (f.all \ lineEnds f))
  | lineStart => some (.atom (.look (if f.multiLine then .lineStart f.crlf else .textStart)))
  | lineStop => some (.atom (.look (if f.multiLine then .lineStop f.crlf else .textStop)))
  | textStart => some (.atom (.look .textStart))
  | textStop => some (.atom (.look .textStop))
  | wordEdge edge => some (.atom (.look (.wordEdge f.unicode edge)))
  | shorthand .. | property .. => (symbol.codes? f).map f.atomOf

end Symbol
end WideTable.Pattern
