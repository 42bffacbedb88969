import DeviceHost.Numeral.Digits

/-!
# UTF-8

Bodies of requests, answers and files arrive as octets. `decode` turns octets into characters and
marks each octet that belongs to no well-formed sequence by `none`; `text?` accepts only octets
without such a mark. `flaw?` says where the first ill-formed sequence starts and how long it is,
which is what the refusal of a body reports.

A sequence of two, three or four octets is well-formed if its second octet lies in the range that
the first one allows and the others are follow-up octets: no overlong form, no surrogate, nothing
above U+10FFFF.
-/

namespace DeviceHost.Utf8

/-- A follow-up octet: `10xxxxxx`. -/
def isTail (b : UInt8) : Bool := 0x80 ≤ b && b ≤ 0xBF

/-- A sequence that has begun: what its next octet may be, how many follow after that one, and the
bits read so far. -/
structure Pending where
  /-- the least octet that may come next -/
  low : UInt8
  /-- the greatest octet that may come next -/
  high : UInt8
  /-- how many octets follow the next one -/
  more : Nat
  /-- the bits of the octets read so far -/
  bits : Nat
  deriving Repr, DecidableEq

/-- What a leading octet begins: a sequence of two, three or four. The bounds of the second octet
shut out overlong forms, surrogates and what lies above U+10FFFF. -/
def begin? (a : UInt8) : Option Pending :=
  if 0xC2 ≤ a ∧ a ≤ 0xDF then some ⟨0x80, 0xBF, 0, a.toNat % 32⟩
  else if a = 0xE0 then some ⟨0xA0, 0xBF, 1, 0⟩
  else if a = 0xED then some ⟨0x80, 0x9F, 1, 13⟩
  else if 0xE1 ≤ a ∧ a ≤ 0xEF then some ⟨0x80, 0xBF, 1, a.toNat % 16⟩
  else if a = 0xF0 then some ⟨0x90, 0xBF, 2, 0⟩
  else if 0xF1 ≤ a ∧ a ≤ 0xF3 then some ⟨0x80, 0xBF, 2, a.toNat % 8⟩
  else if a = 0xF4 then some ⟨0x80, 0x8F, 2, 4⟩
  else none

/-- The characters found so far, last one first, and the sequence that is under way. -/
structure Progress where
  /-- the characters found, last one first; `none` for octets that stand for none -/
  found : List (Option Char)
  /-- the sequence under way -/
  pending : Option Pending
  deriving Repr, DecidableEq

/-- Read an octet where a sequence may begin. -/
def Progress.lead (found : List (Option Char)) (b : UInt8) : Progress :=
  if b < 0x80 then ⟨some (Char.ofNat b.toNat) :: found, none⟩
  else match begin? b with
    | some p => ⟨found, some p⟩
    | none => ⟨none :: found, none⟩

/-- Read one octet. -/
def Progress.step (s : Progress) (b : UInt8) : Progress :=
  match s.pending with
  | none => .lead s.found b
  | some p =>
    if p.low ≤ b ∧ b ≤ p.high then
      let bits := p.bits * 64 + b.toNat % 64
      match p.more with
      | 0 => ⟨some (Char.ofNat bits) :: s.found, none⟩
      | n + 1 => ⟨s.found, some ⟨0x80, 0xBF, n, bits⟩⟩
    else .lead (none :: s.found) b

/-- The characters of a finished text; a sequence still under way is ill-formed. -/
def Progress.chars (s : Progress) : List (Option Char) :=
  (if s.pending.isSome then none :: s.found else s.found).reverse

/-- The characters that octets stand for; `none` marks octets of no well-formed sequence. -/
def decode (bs : List UInt8) : List (Option Char) :=
  (bs.foldl Progress.step ⟨[], none⟩).chars

/-- All characters, if no octet is ill-formed. -/
def allSome : List Char → List (Option Char) → Option (List Char)
  | acc, [] => some acc.reverse
  | acc, some c :: r => allSome (c :: acc) r
  | _, none :: _ => none

/-- The text that octets stand for, if they are well-formed. -/
def chars? (bs : List UInt8) : Option (List Char) :=
  allSome [] (decode bs)

/-- The text that octets stand for, if they are well-formed. -/
def text? (bs : List UInt8) : Option String :=
  (chars? bs).map String.ofList

/-- The text that shows octets: each ill-formed sequence is shown by a replacement character. -/
def shown (bs : List UInt8) : String :=
  String.ofList ((decode bs).map fun o => o.getD '\ufffd')

/-- The octets of one character. -/
def encodeChar (c : Char) : List UInt8 :=
  let n := c.toNat
  if n < 0x80 then [UInt8.ofNat n]
  else if n < 0x800 then [UInt8.ofNat (0xC0 + n / 64), UInt8.ofNat (0x80 + n % 64)]
  else if n < 0x10000 then
    [UInt8.ofNat (0xE0 + n / 4096), UInt8.ofNat (0x80 + n / 64 % 64), UInt8.ofNat (0x80 + n % 64)]
  else
    [UInt8.ofNat (0xF0 + n / 262144), UInt8.ofNat (0x80 + n / 4096 % 64),
      UInt8.ofNat (0x80 + n / 64 % 64), UInt8.ofNat (0x80 + n % 64)]

/-- The octets of a text. -/
def encode (cs : List Char) : List UInt8 :=
  cs.flatMap encodeChar

/-- The octets of a string. -/
def ofString (s : String) : List UInt8 :=
  encode s.toList

/-! ### Where a text is ill-formed -/

/-- The first ill-formed sequence: where it starts and how many octets it has. A sequence that is
cut off by the end of the text has no length. -/
structure Flaw where
  /-- how many octets before it are well-formed -/
  offset : Nat
  /-- its length; `none` if the text ends inside it -/
  length : Option Nat
  deriving Repr, DecidableEq

/-- The wording of a flaw. -/
def Flaw.message (f : Flaw) : String :=
  let start := Numeral.natText f.offset
  match f.length with
  | some n => s!"invalid utf-8 sequence of {Numeral.natText n} bytes from index {start}"
  | none => s!"incomplete utf-8 byte sequence from index {start}"

/-- How many octets are read before one that may not come next; `none` if the text ends first. -/
def flawLengthFrom (read : Nat) (p : Pending) : List UInt8 → Option Nat
  | [] => none
  | b :: r =>
    if p.low ≤ b ∧ b ≤ p.high then flawLengthFrom (read + 1) ⟨0x80, 0xBF, p.more - 1, 0⟩ r
    else some read

/-- How long the ill-formed sequence at the front of octets is: its leading octet with the follow-up
octets that are still allowed after it. -/
def flawLength : List UInt8 → Option Nat
  | [] => none
  | a :: r =>
    match begin? a with
    | some p => flawLengthFrom 1 p (r.take (p.more + 1))
    | none => some 1

/-- The first ill-formed sequence of octets, if there is one. -/
def flaw? (bs : List UInt8) : Option Flaw :=
  let whole := (decode bs).takeWhile Option.isSome
  let offset := (whole.flatMap fun o => (o.map encodeChar).getD []).length
  if offset < bs.length then some ⟨offset, flawLength (bs.drop offset)⟩ else none

end DeviceHost.Utf8
