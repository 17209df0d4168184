import TemplateCheck.Template.Fault

/-!
# Escapes in texts

A backslash in a quoted text stands in front of a character that has another meaning there. A
character may also be given by its number, with eight bits in octal or hexadecimal digits or with
16 bits in hexadecimal ones. Characters beyond the first 65536 may be given by two halves, one right
after the other.
-/

namespace TemplateCheck.Template.Escape

/-- A character of a text: a plain one, or a 16-bit unit given by number. -/
inductive Unit16 where
  | plain (c : Char)
  | numbered (n : Nat)
deriving Repr, DecidableEq

/-- The value of a hexadecimal digit. -/
def hexDigit? (c : Char) : Option Nat :=
  if c.isDigit then some (c.toNat - '0'.toNat)
  else if 'a' ≤ c ∧ c ≤ 'f' then some (c.toNat - 'a'.toNat + 10)
  else if 'A' ≤ c ∧ c ≤ 'F' then some (c.toNat - 'A'.toNat + 10)
  else none

/-- The number that hexadecimal digits, perhaps with a plus sign in front, stand for. -/
def hexNumber? (cs : List Char) : Option Nat :=
  let digits :=
    match cs with
    | '+' :: ds => ds
    | ds => ds
  if digits.isEmpty then none
  else digits.foldlM (fun n c => (hexDigit? c).map (n * 16 + ·)) 0

/-- The character that a letter after a backslash means. -/
def meaning? (c : Char) : Option Char :=
  if c = '"' ∨ c = '\\' ∨ c = '/' ∨ c = '\x27' then some c
  else if c = 'b' then some '\x08'
  else if c = 'f' then some '\x0c'
  else if c = 'n' then some '\n'
  else if c = 'r' then some '\r'
  else if c = 't' then some '\t'
  else none

/-- Is it an octal digit? -/
def isOctal (c : Char) : Bool := '0' ≤ c && c ≤ '7'

/-- The number that octal digits stand for, if it has eight bits. -/
def octalNumber? (cs : List Char) : Option Nat :=
  let n := cs.foldl (fun n c => n * 8 + (c.toNat - '0'.toNat)) 0
  if n < 256 then some n else none

/-- What stands behind a backslash: the units that it stands for together with the backslash, and
how many characters it has. A letter without a meaning leaves the backslash as it is. -/
def escaped? : List Char → Option (List Unit16 × Nat)
  | [] => none
  | 'u' :: cs =>
    if cs.length < 4 then none
    else (hexNumber? (cs.take 4)).map fun n => ([.numbered n], 5)
  | 'x' :: cs =>
    if cs.length < 2 then none
    else (hexNumber? (cs.take 2)).map fun n => ([.plain (Char.ofNat n)], 3)
  | c :: cs =>
    if isOctal c then
      let digits := c :: (cs.take 2).takeWhile isOctal
      (octalNumber? digits).map fun n => ([.plain (Char.ofNat n)], digits.length)
    else
      match meaning? c with
      | some m => some ([.plain m], 1)
      | none => some ([.plain '\\', .plain c], 1)

/-- The units that a text with escapes stands for. -/
def units : List Char → Option (List Unit16)
  | [] => some []
  | c :: cs =>
    if c = '\\' then
      match escaped? cs with
      | none => none
      | some (here, n) => (units (cs.drop n)).map (here ++ ·)
    else (units cs).map (.plain c :: ·)
termination_by cs => cs.length
decreasing_by
  · rw [List.length_drop, List.length_cons]; omega
  · rw [List.length_cons]; omega

/-- Is the unit half of a character? -/
def isHalf (n : Nat) : Bool := 0xD800 ≤ n && n ≤ 0xDFFF

/-- The characters that units stand for; `half` is the first half of one that is not complete
yet. -/
def characters (half : Option Nat) : List Unit16 → Option (List Char)
  | [] => if half.isSome then none else some []
  | .plain c :: rest => if half.isSome then none else (characters none rest).map (c :: ·)
  | .numbered n :: rest =>
    match half with
    | none =>
      if isHalf n then characters (some n) rest
      else (characters none rest).map (Char.ofNat n :: ·)
    | some h =>
      if h < 0xDC00 ∧ 0xDC00 ≤ n ∧ isHalf n then
        let code := 0x10000 + (h - 0xD800) * 0x400 + (n - 0xDC00)
        (characters none rest).map (Char.ofNat code :: ·)
      else none

/-- The text that a quoted text with escapes stands for. -/
def decode (cs : List Char) : Except FaultKind String :=
  match (units cs).bind (characters none) with
  | some cs => .ok (String.ofList cs)
  | none => .error .badEscape

end TemplateCheck.Template.Escape
