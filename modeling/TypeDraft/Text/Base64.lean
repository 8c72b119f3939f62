/-!
# Base64

Bytes written with sixty-four characters, three bytes as four characters. Characters outside the
alphabet are passed over; the text must be ASCII and end on a whole group.
-/

namespace TypeDraft.Text

def base64Value? (c : Char) : Option Nat :=
  if 'A' ≤ c ∧ c ≤ 'Z' then some (c.toNat - 'A'.toNat)
  else if 'a' ≤ c ∧ c ≤ 'z' then some (c.toNat - 'a'.toNat + 26)
  else if '0' ≤ c ∧ c ≤ '9' then some (c.toNat - '0'.toNat + 52)
  else if c = '+' then some 62
  else if c = '/' then some 63
  else none

/-- The bytes of the group in progress that are complete: `held` of its characters have been read,
and `bits` is their value. -/
private def groupFrom (out : List UInt8) (held bits pads : Nat) : List Char → Option (List UInt8)
  | [] => if held = 0 then some out.reverse else none
  | c :: cs =>
    if c = '=' then
      if 2 ≤ held ∧ held + pads + 1 ≥ 4 then some out.reverse
      else groupFrom out held bits (pads + 1) cs
    else
      match base64Value? c with
      | none => groupFrom out held bits pads cs
      | some v =>
        let bits := bits * 64 + v
        match held with
        | 0 => groupFrom out 1 v 0 cs
        | 1 => groupFrom (UInt8.ofNat (bits / 16) :: out) 2 (bits % 16) 0 cs
        | 2 => groupFrom (UInt8.ofNat (bits / 4) :: out) 3 (bits % 4) 0 cs
        | _ => groupFrom (UInt8.ofNat bits :: out) 0 0 0 cs

def decodeBase64 (cs : List Char) : Option (List UInt8) :=
  if cs.all fun c => c.toNat < 128 then groupFrom [] 0 0 0 cs else none

end TypeDraft.Text
