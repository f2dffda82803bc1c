import WideTable.Regex.Basic

namespace WideTable

-- The flat form has no needless parts. Literals that follow each other are one literal, branches that
-- take a single character or byte each are one class, what all branches begin with stands before the
-- choice, and nothing is repeated that takes no bytes.
inductive Form
  | empty
  | literal (bytes : Bytes)
  | bytes (set : Text.CodeSet)
  | chars (set : Text.CodeSet)
  | look (look : Look)
  | rep (form : Form) (least : Nat) (most : Option Nat) (lazy : Bool)
  | group (number : Nat) (form : Form)
  | row (parts : List Form)
  | choice (branches : List Form)

namespace Form

mutual

def same : Form → Form → Bool
  | empty, empty => true
  | literal bs, literal cs => bs == cs
  | bytes s, bytes t => s == t
  | chars s, chars t => s == t
  | look l, look m => l == m
  | rep f least most lazy, rep g least' most' lazy' =>
    least == least' && most == most' && lazy == lazy' && same f g
  | group n f, group m g => n == m && same f g
  | row fs, row gs => sameAll fs gs
  | choice fs, choice gs => sameAll fs gs
  | _, _ => false

def sameAll : List Form → List Form → Bool
  | [], [] => true
  | f :: fs, g :: gs => same f g && sameAll fs gs
  | _, _ => false

end

mutual

-- Whether matches never take a byte.
def isVoid : Form → Bool
  | empty | look _ => true
  | literal _ | bytes _ | chars _ => false
  | rep f _ _ _ => isVoid f
  | group _ f => isVoid f
  | row fs => allVoid fs
  | choice fs => allVoid fs

def allVoid : List Form → Bool
  | [] => true
  | f :: fs => isVoid f && allVoid fs

end

def never : Form :=
  bytes ∅

def ofBytes (set : Text.CodeSet) : Form :=
  match set.ranges with
  | [(a, b)] => if a = b then literal [a.toUInt8] else bytes set
  | _ => bytes set

def ofChars (set : Text.CodeSet) : Form :=
  match set.ranges with
  | [] => never
  | [(a, b)] => if a = b then literal (String.utf8EncodeChar (Char.ofNat a)) else chars set
  | _ => chars set

def ofAtom : Atom → Form
  | .look l => look l
  | .byte set => ofBytes set
  | .char set => ofChars set

def literalThen (bs : Bytes) : Form → Form
  | empty => literal bs
  | literal cs => literal (bs ++ cs)
  | row (literal cs :: fs) => row (literal (bs ++ cs) :: fs)
  | row fs => row (literal bs :: fs)
  | f => row [literal bs, f]

def partThen (f : Form) : Form → Form
  | empty => f
  | row fs => row (f :: fs)
  | g => row [f, g]

def andThen : Form → Form → Form
  | empty, g => g
  | literal bs, g => literalThen bs g
  | row fs, g =>
    fs.foldr (fun f g => match f with | literal bs => literalThen bs g | _ => partThen f g) g
  | f, g => partThen f g

def join (fs : List Form) : Form :=
  fs.foldr andThen empty

def branches : Form → List Form
  | choice fs => fs
  | f => [f]

def char? : Form → Option Nat
  | literal bs =>
    match Utf8.first? bs with
    | some (c, n) => if n = bs.length then some c.toNat else none
    | none => none
  | _ => none

def byte? : Form → Option Nat
  | literal [b] => some b.toNat
  | _ => none

def isAscii (set : Text.CodeSet) : Bool :=
  set.ranges.all (·.2 < 0x80)

def charSet? : Form → Option Text.CodeSet
  | chars set => some set
  | bytes set => if isAscii set then some set else none
  | _ => none

def byteSet? : Form → Option Text.CodeSet
  | bytes set => some set
  | chars set => if isAscii set then some set else none
  | _ => none

def classOf? (fs : List Form) : Option Form :=
  (fs.mapM char?).map (ofChars ∘ .ofCodes) <|> (fs.mapM byte?).map (ofBytes ∘ .ofCodes) <|>
  (fs.mapM charSet?).map (ofChars ∘ .unions) <|> (fs.mapM byteSet?).map (ofBytes ∘ .unions)

def anyOf (fs : List Form) : Form :=
  match fs.flatMap branches with
  | [] => never
  | [f] => f
  | fs => (classOf? fs).getD (choice fs)

def row? : Form → Option (List Form)
  | row fs => some fs
  | _ => none

def agreement : List Form → List Form → Nat
  | f :: fs, g :: gs => if same f g then agreement fs gs + 1 else 0
  | _, _ => 0

-- What all rows begin with, before the choice between their rests.
def factor? (rows : List (List Form)) : Option Form :=
  match rows with
  | [] => none
  | first :: others =>
    let n := (others.map (agreement first)).foldl min first.length
    if n = 0 then none
    else some (join (first.take n ++ [anyOf (rows.map fun fs => join (fs.drop n))]))

def oneOf (fs : List Form) : Form :=
  match fs with
  | [f] => f
  | _ =>
    match anyOf fs with
    | choice fs => ((fs.mapM row?).bind factor?).getD (choice fs)
    | f => f

-- What takes no bytes is there at most once.
def repeated (f : Form) (least : Nat) (most : Option Nat) (lazy : Bool) : Form :=
  let (least, most) :=
    if f.isVoid then (min least 1, some (min (most.getD 1) 1)) else (least, most)
  if most = some 0 then empty
  else if least = 1 ∧ most = some 1 then f
  else rep f least most lazy

-- The branches of a regex end with one that matches nowhere.
def ofBranches : Regex → List Form
  | .empty => [empty]
  | .atom (.byte set) => if set.isEmpty then [] else [ofBytes set]
  | .atom a => [ofAtom a]
  | .seq r s => [(oneOf (ofBranches r)).andThen (oneOf (ofBranches s))]
  | .alt r s => oneOf (ofBranches r) :: ofBranches s
  | .rep r least most lazy => [(oneOf (ofBranches r)).repeated least most lazy]
  | .group number r => [group number (oneOf (ofBranches r))]

def ofRegex (r : Regex) : Form :=
  oneOf (ofBranches r)

mutual

-- Whether each match has to meet the condition before it takes a byte.
def opensWith (l : Look) : Form → Bool
  | look m => l = m
  | rep f least _ _ => 0 < least && opensWith l f
  | group _ f => opensWith l f
  | row fs => rowOpensWith l fs
  | choice fs => allOpenWith l fs
  | _ => false

def rowOpensWith (l : Look) : List Form → Bool
  | [] => false
  | f :: fs => opensWith l f || (isVoid f && rowOpensWith l fs)

def allOpenWith (l : Look) : List Form → Bool
  | [] => true
  | f :: fs => opensWith l f && allOpenWith l fs

end

mutual

def closesWith (l : Look) : Form → Bool
  | look m => l = m
  | rep f least _ _ => 0 < least && closesWith l f
  | group _ f => closesWith l f
  | row fs => rowClosesWith l fs
  | choice fs => allCloseWith l fs
  | _ => false

def rowClosesWith (l : Look) : List Form → Bool
  | [] => false
  | f :: fs => rowClosesWith l fs || (allVoid fs && closesWith l f)

def allCloseWith (l : Look) : List Form → Bool
  | [] => true
  | f :: fs => closesWith l f && allCloseWith l fs

end

mutual

-- The least number of bytes that a match takes; none where a part matches nowhere.
def least? : Form → Option Nat
  | empty | look _ => some 0
  | literal bs => some bs.length
  | bytes set => if set.isEmpty then none else some 1
  | chars _ => some 1
  | rep f least _ _ => (least? f).map (least * ·)
  | group _ f => least? f
  | row fs => sumLeast? fs
  | choice fs => minLeast? fs

def sumLeast? : List Form → Option Nat
  | [] => some 0
  | f :: fs => do return (← least? f) + (← sumLeast? fs)

def minLeast? : List Form → Option Nat
  | [] => none
  | [f] => least? f
  | f :: fs => do return min (← least? f) (← minLeast? fs)

end

end Form
end WideTable
