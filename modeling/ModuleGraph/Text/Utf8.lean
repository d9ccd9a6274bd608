import ModuleGraph.Text.Basic

/-! UTF-8: the bytes of a text, and the text of a byte sequence. Bytes are refused at the first
sequence that is no code point; the fault names that sequence and what is wrong with it. -/

namespace ModuleGraph.Text.Utf8

abbrev Bytes := List UInt8

inductive Reason where
  | invalidStart
  | invalidContinuation
  | unexpectedEnd
  deriving DecidableEq, Repr

def Reason.message : Reason → String
  | .invalidStart => "invalid start byte"
  | .invalidContinuation => "invalid continuation byte"
  | .unexpectedEnd => "unexpected end of data"

/-- The refused sequence has `length` bytes from `start` on and begins with `first`. -/
structure Fault where
  first : UInt8
  start : Nat
  length : Nat
  reason : Reason
  deriving DecidableEq, Repr

def hexByte (b : UInt8) : String :=
  let ds := Nat.toDigits 16 b.toNat
  String.ofList (List.replicate (2 - ds.length) '0' ++ ds)

def Fault.message (f : Fault) : String :=
  if f.length = 1 then
    "'utf-8' codec can't decode byte 0x" ++ hexByte f.first
      ++ s!" in position {f.start}: {f.reason.message}"
  else
    let last := f.start + f.length - 1
    s!"'utf-8' codec can't decode bytes in position {f.start}-{last}: {f.reason.message}"

def encodeChar (c : Char) : Bytes :=
  let n := c.toNat
  if n < 0x80 then [n.toUInt8]
  else if n < 0x800 then [(0xc0 + n / 64).toUInt8, (0x80 + n % 64).toUInt8]
  else if n < 0x10000 then
    [(0xe0 + n / 4096).toUInt8, (0x80 + n / 64 % 64).toUInt8, (0x80 + n % 64).toUInt8]
  else
    [(0xf0 + n / 262144).toUInt8, (0x80 + n / 4096 % 64).toUInt8, (0x80 + n / 64 % 64).toUInt8,
     (0x80 + n % 64).toUInt8]

def encode (s : Text) : Bytes := s.flatMap encodeChar

def followers? (b : UInt8) : Option Nat :=
  if b < 0x80 then some 0
  else if b < 0xc2 then none
  else if b < 0xe0 then some 1
  else if b < 0xf0 then some 2
  else if b < 0xf5 then some 3
  else none

/-- Whether `b` may stand as the byte number `i` after `lead`. The first follower leaves out
the overlong forms, the surrogates and what lies beyond the last code point. -/
def continues (lead : UInt8) (i : Nat) (b : UInt8) : Bool :=
  0x80 ≤ b && b < 0xc0 &&
    (i != 0 ||
      ((lead != 0xe0 || 0xa0 ≤ b) && (lead != 0xed || b < 0xa0) &&
        (lead != 0xf0 || 0x90 ≤ b) && (lead != 0xf4 || b < 0x90)))

def takeFollowers (lead : UInt8) : (i count : Nat) → Bytes → Except (Nat × Reason) (List UInt8)
  | _, 0, _ => .ok []
  | i, _ + 1, [] => .error (i + 1, .unexpectedEnd)
  | i, count + 1, b :: rest =>
    if continues lead i b then (b :: ·) <$> takeFollowers lead (i + 1) count rest
    else .error (i + 1, .invalidContinuation)

def assemble (lead : UInt8) (more : List UInt8) : Char :=
  let head := match more.length with
    | 0 => lead.toNat
    | 1 => lead.toNat - 0xc0
    | 2 => lead.toNat - 0xe0
    | _ => lead.toNat - 0xf0
  Char.ofNat (more.foldl (fun n b => n * 64 + (b.toNat - 0x80)) head)

def decodeFrom : (fuel start : Nat) → Bytes → Except Fault Text
  | 0, _, _ => .ok []
  | _, _, [] => .ok []
  | fuel + 1, start, lead :: rest =>
    match followers? lead with
    | none => .error ⟨lead, start, 1, .invalidStart⟩
    | some count =>
      match takeFollowers lead 0 count rest with
      | .error (length, reason) => .error ⟨lead, start, length, reason⟩
      | .ok more =>
        (assemble lead more :: ·) <$> decodeFrom fuel (start + 1 + count) (rest.drop count)

def decode (bytes : Bytes) : Except Fault Text := decodeFrom bytes.length 0 bytes

end ModuleGraph.Text.Utf8
