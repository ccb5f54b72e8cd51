/-!
# UTF-8

Characters written as octets, and octets read back by a machine that takes one octet at a time.
An octet sequence that is not well formed can be refused, or read with a replacement character for
every ill-formed part. An ill-formed part is as long as the longest start of a character that the
octets still allow; the octet that rules it out is read afresh.
-/

namespace ApiShape.Text.Utf8

/-- The octets of a text. -/
def encode (cs : List Char) : List UInt8 :=
  cs.flatMap String.utf8EncodeChar

/-- A character begun: the bits read so far, the octets still owed, and the range of the next. -/
structure Pending where
  bits : Nat
  owed : Nat
  low : Nat
  high : Nat

/-- What a first octet says about the character it begins, if it can begin one of several octets. -/
def Pending.ofLead? (b : Nat) : Option Pending :=
  if 0xC2 ≤ b ∧ b ≤ 0xDF then some ⟨b - 0xC0, 1, 0x80, 0xBF⟩
  else if b = 0xE0 then some ⟨0, 2, 0xA0, 0xBF⟩
  else if b = 0xED then some ⟨0xD, 2, 0x80, 0x9F⟩
  else if 0xE1 ≤ b ∧ b ≤ 0xEF then some ⟨b - 0xE0, 2, 0x80, 0xBF⟩
  else if b = 0xF0 then some ⟨0, 3, 0x90, 0xBF⟩
  else if 0xF1 ≤ b ∧ b ≤ 0xF3 then some ⟨b - 0xF0, 3, 0x80, 0xBF⟩
  else if b = 0xF4 then some ⟨4, 3, 0x80, 0x8F⟩
  else none

/-- What is read from an octet that stands between characters. -/
inductive Start where
  | char (c : Char)
  | pending (p : Pending)
  | invalid

/-- An octet between characters is a character of its own, begins one, or is no part of any. -/
def start (b : UInt8) : Start :=
  if b.toNat < 0x80 then .char (Char.ofNat b.toNat)
  else match Pending.ofLead? b.toNat with
    | some p => .pending p
    | none => .invalid

/-- The characters of an octet sequence, with `none` for each ill-formed part. -/
def units : Option Pending → List UInt8 → List (Option Char)
  | none, [] => []
  | some _, [] => [none]
  | none, b :: rest =>
    match start b with
    | .char c => some c :: units none rest
    | .pending p => units (some p) rest
    | .invalid => none :: units none rest
  | some p, b :: rest =>
    if p.low ≤ b.toNat ∧ b.toNat ≤ p.high then
      let bits := p.bits * 64 + (b.toNat - 0x80)
      if p.owed ≤ 1 then some (Char.ofNat bits) :: units none rest
      else units (some ⟨bits, p.owed - 1, 0x80, 0xBF⟩) rest
    else
      match start b with
      | .char c => none :: some c :: units none rest
      | .pending q => none :: units (some q) rest
      | .invalid => none :: none :: units none rest

/-- The text of a well-formed octet sequence. -/
def decode? (bytes : List UInt8) : Option (List Char) :=
  (units none bytes).mapM id

/-- The text of any octet sequence, with U+FFFD in the place of each ill-formed part. -/
def decodeLossy (bytes : List UInt8) : List Char :=
  (units none bytes).map (·.getD '\uFFFD')

end ApiShape.Text.Utf8
