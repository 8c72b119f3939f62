/-!
# Reading UTF-8

Bytes are read one character at a time. A failure names the bytes at fault: a byte that starts no
character, a character that breaks off before its last byte, or one that the text ends inside.
-/

namespace TypeDraft.Text

inductive Utf8Cause where
  | invalidStart
  | invalidContinuation
  | unexpectedEnd
  deriving DecidableEq

def Utf8Cause.message : Utf8Cause → String
  | invalidStart => "invalid start byte"
  | invalidContinuation => "invalid continuation byte"
  | unexpectedEnd => "unexpected end of data"

/-- What stands at the head of a byte list: a character and its length in bytes, or a fault and
how many bytes it spans. -/
inductive Utf8Head where
  | char (c : Char) (size : Nat)
  | fault (cause : Utf8Cause) (size : Nat)

private def isTail (b : Nat) : Bool := 0x80 ≤ b && b < 0xc0

/-- Whether a second byte may follow a first one: overlong forms, surrogates and code points past
the last plane are excluded here. -/
private def mayFollow (first second : Nat) : Bool :=
  isTail second &&
    !(first == 0xe0 && second < 0xa0) && !(first == 0xed && 0xa0 ≤ second) &&
    !(first == 0xf0 && second < 0x90) && !(first == 0xf4 && 0x90 ≤ second)

/-- Reads the character at the head of a non-empty byte list. -/
def utf8Head (first : Nat) (rest : List UInt8) : Utf8Head :=
  let size := if first < 0xe0 then 2 else if first < 0xf0 then 3 else 4
  if first < 0x80 then .char (Char.ofNat first) 1
  else if first < 0xc2 ∨ 0xf4 < first then .fault .invalidStart 1
  else
    let truncated := Utf8Head.fault .unexpectedEnd (rest.length + 1)
    match rest with
    | [] => truncated
    | b :: rest =>
      let b := b.toNat
      if !mayFollow first b then .fault .invalidContinuation 1
      else if size = 2 then .char (Char.ofNat ((first - 0xc0) * 64 + (b - 0x80))) 2
      else
        match rest with
        | [] => truncated
        | c :: rest =>
          let c := c.toNat
          if !isTail c then .fault .invalidContinuation 2
          else if size = 3 then
            .char (Char.ofNat (((first - 0xe0) * 64 + (b - 0x80)) * 64 + (c - 0x80))) 3
          else
            match rest with
            | [] => truncated
            | d :: _ =>
              let d := d.toNat
              if !isTail d then .fault .invalidContinuation 3
              else
                .char (Char.ofNat
                  ((((first - 0xf0) * 64 + (b - 0x80)) * 64 + (c - 0x80)) * 64 + (d - 0x80))) 4

/-- Reads on, `skip` bytes belonging to the character or fault last read. -/
private def replaceFrom (out : List Char) : (skip : Nat) → List UInt8 → List Char
  | _, [] => out.reverse
  | skip + 1, _ :: bs => replaceFrom out skip bs
  | 0, b :: bs =>
    match utf8Head b.toNat bs with
    | .char c size => replaceFrom (c :: out) (size - 1) bs
    | .fault _ size => replaceFrom ('\ufffd' :: out) (size - 1) bs

/-- The text of some bytes, each fault shown as one replacement character. -/
def decodeReplacing (bs : List UInt8) : String := String.ofList (replaceFrom [] 0 bs)

structure Utf8Error where
  first : Nat
  last : Nat
  /-- The first byte at fault. -/
  byte : UInt8
  cause : Utf8Cause
  deriving DecidableEq

private def hexDigits (n : Nat) : String :=
  let digits := Nat.toDigits 16 n
  String.ofList (List.replicate (2 - digits.length) '0' ++ digits)

def Utf8Error.message (e : Utf8Error) : String :=
  "'utf-8' codec can't decode " ++
    (if e.first = e.last then
      "byte 0x" ++ hexDigits e.byte.toNat ++ " in position " ++ toString e.first
    else "bytes in position " ++ toString e.first ++ "-" ++ toString e.last) ++
    ": " ++ e.cause.message

def decodeFrom (out : List Char) (at_ : Nat) :
    (skip : Nat) → List UInt8 → Except Utf8Error (List Char)
  | _, [] => .ok out.reverse
  | skip + 1, _ :: bs => decodeFrom out (at_ + 1) skip bs
  | 0, b :: bs =>
    match utf8Head b.toNat bs with
    | .char c size => decodeFrom (c :: out) (at_ + 1) (size - 1) bs
    | .fault cause size => .error ⟨at_, at_ + size - 1, b, cause⟩

def decodeUtf8 (bs : List UInt8) : Except Utf8Error String :=
  (decodeFrom [] 0 0 bs).map String.ofList

/-- A fault that runs to the end of the bytes, counted from its own first byte: what is reported
when bytes arrive piecewise and the last ones never become a character. -/
def Utf8Error.fromTail (e : Utf8Error) : Utf8Error :=
  match e.cause with
  | .unexpectedEnd => { e with first := 0, last := e.last - e.first }
  | _ => e

end TypeDraft.Text
