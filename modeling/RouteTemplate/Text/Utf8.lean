/-!
# RouteTemplate.Text.Utf8 — reading bytes as UTF-8

`Utf8.bytes` writes a text as bytes and `Utf8.decode` reads it back.  A reading that fails says how
many bytes in front of the fault are well formed, and how many bytes the fault itself takes: the
longest beginning of a character there, or one byte when the first byte begins none.  A fault that
is cut off by the end of the input has no length.
-/

namespace RouteTemplate.Utf8

/-- The UTF-8 encoding of a text. -/
def bytes (cs : List Char) : List UInt8 :=
  cs.flatMap String.utf8EncodeChar

/-- Where bytes stop being UTF-8. -/
structure Fault where
  /-- Number of bytes before the fault, all of which are well formed. -/
  validUpTo : Nat
  /-- Number of bytes of the fault; `none` when the input ends inside a character. -/
  length : Option Nat
deriving DecidableEq, Repr

/-- The text of a fault, as it ends the message of an undecodable value. -/
def Fault.message (f : Fault) : String :=
  match f.length with
  | some n => s!"invalid utf-8 sequence of {n} bytes from index {f.validUpTo}"
  | none => s!"incomplete utf-8 byte sequence from index {f.validUpTo}"

/-- A byte that continues a character. -/
def isContinuation (b : UInt8) : Bool := 0x80 ≤ b.toNat && b.toNat ≤ 0xBF

/-- What a first byte of a character of several bytes calls for. -/
structure Lead where
  /-- Least second byte. -/
  lo : Nat
  /-- Greatest second byte. -/
  hi : Nat
  /-- Number of continuation bytes after the second byte. -/
  more : Nat
  /-- The bits that the first byte itself holds. -/
  bits : Nat

/-- The lead bytes; overlong forms, surrogates and values above `0x10FFFF` are excluded by the range
of the second byte. -/
def lead? (b : UInt8) : Option Lead :=
  let n := b.toNat
  if n < 0xC2 then none
  else if n ≤ 0xDF then some ⟨0x80, 0xBF, 0, n - 0xC0⟩
  else if n = 0xE0 then some ⟨0xA0, 0xBF, 1, 0⟩
  else if n = 0xED then some ⟨0x80, 0x9F, 1, 0xD⟩
  else if n ≤ 0xEF then some ⟨0x80, 0xBF, 1, n - 0xE0⟩
  else if n = 0xF0 then some ⟨0x90, 0xBF, 2, 0⟩
  else if n ≤ 0xF3 then some ⟨0x80, 0xBF, 2, n - 0xF0⟩
  else if n = 0xF4 then some ⟨0x80, 0x8F, 2, 4⟩
  else none

/-- Whether a byte may stand second after a lead byte. -/
def Lead.admits (l : Lead) (b : UInt8) : Bool := l.lo ≤ b.toNat && b.toNat ≤ l.hi

/-- A number with six more bits, those of a continuation byte, at its end. -/
def extend (n : Nat) (b : UInt8) : Nat := n * 64 + b.toNat % 64

/-- Reads bytes as UTF-8, `pos` bytes having been read before. -/
def decodeFrom (pos : Nat) : List UInt8 → Except Fault (List Char)
  | [] => .ok []
  | b :: r =>
    if b.toNat < 0x80 then
      (decodeFrom (pos + 1) r).map (Char.ofNat b.toNat :: ·)
    else
      match lead? b with
      | none => .error ⟨pos, some 1⟩
      | some l =>
        match r with
        | [] => .error ⟨pos, none⟩
        | b₁ :: r₁ =>
          if !l.admits b₁ then .error ⟨pos, some 1⟩
          else if l.more = 0 then
            (decodeFrom (pos + 2) r₁).map (Char.ofNat (extend l.bits b₁) :: ·)
          else
            match r₁ with
            | [] => .error ⟨pos, none⟩
            | b₂ :: r₂ =>
              if !isContinuation b₂ then .error ⟨pos, some 2⟩
              else if l.more = 1 then
                (decodeFrom (pos + 3) r₂).map (Char.ofNat (extend (extend l.bits b₁) b₂) :: ·)
              else
                match r₂ with
                | [] => .error ⟨pos, none⟩
                | b₃ :: r₃ =>
                  if !isContinuation b₃ then .error ⟨pos, some 3⟩
                  else
                    (decodeFrom (pos + 4) r₃).map
                      (Char.ofNat (extend (extend (extend l.bits b₁) b₂) b₃) :: ·)

/-- Reads bytes as UTF-8. -/
def decode (bs : List UInt8) : Except Fault (List Char) := decodeFrom 0 bs

@[simp] theorem bytes_nil : bytes [] = [] := rfl

@[simp] theorem bytes_cons (c : Char) (cs : List Char) :
    bytes (c :: cs) = String.utf8EncodeChar c ++ bytes cs := rfl

@[simp] theorem bytes_append (s t : List Char) : bytes (s ++ t) = bytes s ++ bytes t := by
  simp [bytes]

end RouteTemplate.Utf8
