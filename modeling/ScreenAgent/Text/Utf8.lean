namespace ScreenAgent.Text.Utf8

/-- A lead byte: how many bytes follow it, the range of the first of them, and the bits it carries. -/
structure Lead where
  following : Nat
  low : Nat
  high : Nat
  bits : Nat

/-- What a byte of 128 or more announces when it stands at the start of a character. -/
def lead? (b : Nat) : Option Lead :=
  if 0xC2 ≤ b ∧ b ≤ 0xDF then some ⟨1, 0x80, 0xBF, b - 0xC0⟩
  else if b = 0xE0 then some ⟨2, 0xA0, 0xBF, 0⟩
  else if b = 0xED then some ⟨2, 0x80, 0x9F, 0xD⟩
  else if 0xE1 ≤ b ∧ b ≤ 0xEF then some ⟨2, 0x80, 0xBF, b - 0xE0⟩
  else if b = 0xF0 then some ⟨3, 0x90, 0xBF, 0⟩
  else if 0xF1 ≤ b ∧ b ≤ 0xF3 then some ⟨3, 0x80, 0xBF, b - 0xF0⟩
  else if b = 0xF4 then some ⟨3, 0x80, 0x8F, 4⟩
  else none

/-- What has been read of a character: nothing, or some of its bytes. -/
inductive State
  | start
  | inside (following low high bits : Nat)

/-- What one byte completes: some characters, where `none` is a part that can not be read. -/
def begin (b : Nat) : List (Option Char) × State :=
  if b < 0x80 then ([some (Char.ofNat b)], .start)
  else match lead? b with
    | some l => ([], .inside l.following l.low l.high l.bits)
    | none => ([none], .start)

/-- Reads one byte. A byte that can not continue the character begun ends it unread and starts
afresh. -/
def step : State → Nat → List (Option Char) × State
  | .start, b => begin b
  | .inside following low high bits, b =>
    if low ≤ b ∧ b ≤ high then
      if following ≤ 1 then ([some (Char.ofNat (bits * 64 + (b - 0x80)))], .start)
      else ([], .inside (following - 1) 0x80 0xBF (bits * 64 + (b - 0x80)))
    else let (out, s) := begin b; (none :: out, s)

/-- The characters of a byte sequence, `none` for each part that can not be read. -/
def read : State → List UInt8 → List (Option Char)
  | .start, [] => []
  | .inside .., [] => [none]
  | s, b :: r => let (out, s) := step s b.toNat; out ++ read s r

def decode? (bytes : List UInt8) : Option (List Char) := (read .start bytes).mapM id

def decodeLossy (bytes : List UInt8) : List Char :=
  (read .start bytes).map fun c => c.getD '\uFFFD'

def encode (s : List Char) : List UInt8 := s.flatMap String.utf8EncodeChar

end ScreenAgent.Text.Utf8
