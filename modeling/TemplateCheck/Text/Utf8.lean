/-!
# UTF-8

Decoding of bytes into text, with the place and length of the first fault.

* `Utf8.Fault` — where decoding stopped and why;
* `Utf8.step` — one character off the front of a byte list;
* `Utf8.decode` — a whole byte list, accepted or refused with its first fault.

An overlong form, a surrogate and a value beyond U+10FFFF are refused at the first byte
that cannot continue a character, so the length of a fault is that of the longest prefix
that could still have become one.
-/

namespace TemplateCheck.Text.Utf8

/-! ### Faults -/

/-- Why and where a byte list is not UTF-8. -/
inductive Fault where
  /-- The `length` bytes from `index` on begin no character. -/
  | invalid (length index : Nat)
  /-- The bytes end inside the character that begins at `index`. -/
  | incomplete (index : Nat)
deriving Repr, DecidableEq

/-- The wording of a fault. -/
def Fault.message : Fault → String
  | .invalid length index => s!"invalid utf-8 sequence of {length} bytes from index {index}"
  | .incomplete index => s!"incomplete utf-8 byte sequence from index {index}"

/-! ### One character -/

/-- What stands at the front of a byte list. -/
inductive Step where
  /-- A character of `width` bytes. -/
  | char (c : Char) (width : Nat)
  /-- A prefix of `length` bytes that begins no character. -/
  | invalid (length : Nat)
  /-- The bytes end inside a character. -/
  | incomplete
deriving Repr, DecidableEq

/-- A byte that may continue a character, in the range `lo … hi`. -/
def continues (lo hi : Nat) (b : UInt8) : Bool :=
  lo ≤ b.toNat && b.toNat ≤ hi

/-- The range of the second byte after the lead byte `lead`, and the character's width.
The ranges leave out overlong forms, surrogates and values beyond U+10FFFF. -/
def shape (lead : Nat) : Option (Nat × Nat × Nat) :=
  if 0xC2 ≤ lead ∧ lead ≤ 0xDF then some (2, 0x80, 0xBF)
  else if lead = 0xE0 then some (3, 0xA0, 0xBF)
  else if 0xE1 ≤ lead ∧ lead ≤ 0xEC then some (3, 0x80, 0xBF)
  else if lead = 0xED then some (3, 0x80, 0x9F)
  else if 0xEE ≤ lead ∧ lead ≤ 0xEF then some (3, 0x80, 0xBF)
  else if lead = 0xF0 then some (4, 0x90, 0xBF)
  else if 0xF1 ≤ lead ∧ lead ≤ 0xF3 then some (4, 0x80, 0xBF)
  else if lead = 0xF4 then some (4, 0x80, 0x8F)
  else none

/-- The character or fault at the front of a byte list whose first byte is `lead`. -/
def step (lead : UInt8) (rest : List UInt8) : Step :=
  let a := lead.toNat
  if a < 0x80 then .char (Char.ofNat a) 1
  else
    match shape a with
    | none => .invalid 1
    | some (width, lo, hi) =>
      match rest with
      | [] => .incomplete
      | b :: rest =>
        if !continues lo hi b then .invalid 1
        else if width = 2 then .char (Char.ofNat ((a - 0xC0) * 64 + (b.toNat - 0x80))) 2
        else
          match rest with
          | [] => .incomplete
          | c :: rest =>
            if !continues 0x80 0xBF c then .invalid 2
            else if width = 3 then
              .char (Char.ofNat
                (((a - 0xE0) * 64 + (b.toNat - 0x80)) * 64 + (c.toNat - 0x80))) 3
            else
              match rest with
              | [] => .incomplete
              | d :: _ =>
                if !continues 0x80 0xBF d then .invalid 3
                else
                  .char (Char.ofNat
                    ((((a - 0xF0) * 64 + (b.toNat - 0x80)) * 64 + (c.toNat - 0x80)) * 64
                      + (d.toNat - 0x80))) 4

/-! ### Whole texts -/

/-- Decode from byte `index` on; `skip` bytes belong to the character decoded last. -/
def decodeFrom (index skip : Nat) : List UInt8 → Except Fault (List Char)
  | [] => .ok []
  | b :: rest =>
    match skip with
    | skip + 1 => decodeFrom (index + 1) skip rest
    | 0 =>
      match step b rest with
      | .char c width => (decodeFrom (index + 1) (width - 1) rest).map (c :: ·)
      | .invalid length => .error (.invalid length index)
      | .incomplete => .error (.incomplete index)

/-- The text that a byte list encodes, or its first fault. -/
def decode (bytes : List UInt8) : Except Fault String :=
  (decodeFrom 0 0 bytes).map String.ofList

/-- The bytes of a text. -/
def encode (s : String) : List UInt8 :=
  s.toUTF8.toList

end TemplateCheck.Text.Utf8
