/-!
Bytes read as text, with the place and the length of the first sequence that is not well formed.
-/

namespace Plotline

/-- Why bytes are no text: at byte `index` stands either `length` bytes that begin no character, or the
beginning of one that the end cuts off. -/
inductive Utf8Fault
  | invalid (index length : Nat)
  | incomplete (index : Nat)
  deriving DecidableEq, Repr

namespace Utf8Fault

def message : Utf8Fault → String
  | invalid index length => s!"invalid utf-8 sequence of {length} bytes from index {index}"
  | incomplete index => s!"incomplete utf-8 byte sequence from index {index}"

end Utf8Fault

namespace Utf8

/-- How the bytes after `lead` have to look: one range for each of them. -/
def continuations (lead : Nat) : Option (List (Nat × Nat)) :=
  if lead < 0x80 then some []
  else if 0xc2 ≤ lead && lead ≤ 0xdf then some [(0x80, 0xbf)]
  else if lead == 0xe0 then some [(0xa0, 0xbf), (0x80, 0xbf)]
  else if lead == 0xed then some [(0x80, 0x9f), (0x80, 0xbf)]
  else if 0xe1 ≤ lead && lead ≤ 0xef then some [(0x80, 0xbf), (0x80, 0xbf)]
  else if lead == 0xf0 then some [(0x90, 0xbf), (0x80, 0xbf), (0x80, 0xbf)]
  else if 0xf1 ≤ lead && lead ≤ 0xf3 then some [(0x80, 0xbf), (0x80, 0xbf), (0x80, 0xbf)]
  else if lead == 0xf4 then some [(0x80, 0x8f), (0x80, 0xbf), (0x80, 0xbf)]
  else none

/-- Compares the bytes with the ranges; `seen` bytes of the character have been accepted. -/
private def followed (index seen : Nat) : List (Nat × Nat) → List UInt8 → Option Utf8Fault
  | [], _ => none
  | _ :: _, [] => some (.incomplete index)
  | (low, high) :: ranges, b :: bytes =>
    if low ≤ b.toNat && b.toNat ≤ high then followed index (seen + 1) ranges bytes
    else some (.invalid index seen)

/-- The first fault at or after `index`, the place of the first byte; `skip` bytes belong to a character
already accepted. -/
def firstFault (index skip : Nat) : List UInt8 → Option Utf8Fault
  | [] => none
  | b :: bytes =>
    match skip with
    | skip + 1 => firstFault (index + 1) skip bytes
    | 0 =>
      match continuations b.toNat with
      | none => some (.invalid index 1)
      | some ranges =>
        match followed index 1 ranges bytes with
        | some fault => some fault
        | none => firstFault (index + 1) ranges.length bytes

def read (bytes : ByteArray) : Except Utf8Fault String :=
  match String.fromUTF8? bytes with
  | some text => .ok text
  | none => .error ((firstFault 0 0 bytes.toList).getD (.incomplete 0))

end Utf8

end Plotline
