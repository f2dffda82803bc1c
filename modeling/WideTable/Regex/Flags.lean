namespace WideTable.Pattern

structure Flags where
  caseless  : Bool := false
  multiLine : Bool := false
  dotAll    : Bool := false
  swapGreed : Bool := false
  unicode   : Bool := true
  crlf      : Bool := false
  -- Blanks and comments between the parts of a pattern are skipped.
  spaced    : Bool := false
  deriving DecidableEq, Repr

namespace Flags

def set? (f : Flags) (on : Bool) : Char → Option Flags
  | 'i' => some { f with caseless := on }
  | 'm' => some { f with multiLine := on }
  | 's' => some { f with dotAll := on }
  | 'U' => some { f with swapGreed := on }
  | 'u' => some { f with unicode := on }
  | 'R' => some { f with crlf := on }
  | 'x' => some { f with spaced := on }
  | _ => none

structure Setting where
  flags : Flags
  -- The list holds at least a sign.
  given : Bool
  -- The list is the head of a group, and not an item on its own.
  opens : Bool
  rest  : List Char

-- Flags after the one `-` that may occur are turned off. Neither a flag nor the `-` may be repeated, and
-- a flag has to follow the `-`.
def read? (f : Flags) (cs : List Char) : Option Setting :=
  go f [] cs
where
  go (f : Flags) (seen : List Char) : List Char → Option Setting
    | [] => none
    | c :: cs =>
      if c = ')' ∨ c = ':' then
        if seen.head? = some '-' then none
        else some ⟨f, !seen.isEmpty, c = ':', cs⟩
      else if c ∈ seen then none
      else if c = '-' then go f (c :: seen) cs
      else do go (← f.set? ('-' ∉ seen) c) (c :: seen) cs

end Flags
end WideTable.Pattern
