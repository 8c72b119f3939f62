/-!
# Surrogate code units

Two escaped surrogates in a row stand for one character. One that stands alone has no character of
its own; it is carried by a private-use character at a fixed distance, so that a text which holds
one can still be read, compared and written back.
-/

namespace TypeDraft.Text

def isHighSurrogate (n : Nat) : Bool := 0xd800 ≤ n && n < 0xdc00

def isLowSurrogate (n : Nat) : Bool := 0xdc00 ≤ n && n < 0xe000

def joinSurrogates (high low : Nat) : Char :=
  Char.ofNat (0x10000 + (high - 0xd800) * 0x400 + (low - 0xdc00))

/-- The character that carries a code unit; a lone surrogate is carried by a private-use one. -/
def ofCodeUnit (n : Nat) : Char :=
  if isHighSurrogate n || isLowSurrogate n then Char.ofNat (0x100000 + n) else Char.ofNat n

/-- The lone surrogate that a character carries, if it carries one. -/
def loneSurrogate? (c : Char) : Option Nat :=
  if 0x10d800 ≤ c.toNat ∧ c.toNat < 0x10e000 then some (c.toNat - 0x100000) else none

/-- Appends a code unit to a text whose last character comes first: a low surrogate completes the
high one before it. -/
def pushCodeUnit (n : Nat) (out : List Char) : List Char :=
  match out with
  | [] => [ofCodeUnit n]
  | c :: rest =>
    match loneSurrogate? c with
    | some high =>
      if isHighSurrogate high && isLowSurrogate n then joinSurrogates high n :: rest
      else ofCodeUnit n :: out
    | none => ofCodeUnit n :: out

/-- The code units of a character, as they are escaped. -/
def codeUnits (c : Char) : List Nat :=
  match loneSurrogate? c with
  | some n => [n]
  | none =>
    if c.toNat < 0x10000 then [c.toNat]
    else [0xd800 + (c.toNat - 0x10000) / 0x400, 0xdc00 + (c.toNat - 0x10000) % 0x400]

end TypeDraft.Text
