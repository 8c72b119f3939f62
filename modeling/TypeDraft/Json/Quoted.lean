import TypeDraft.Text.Surrogate

/-!
# Quoted strings of JSON

A string stands between double quotes. The quote, the backslash and the control characters are
escaped; in the plain-ASCII form every other character outside ASCII is escaped too.
-/

namespace TypeDraft.Json

/-- Whether a written text may hold characters outside ASCII. -/
inductive Charset where
  | ascii | unicode
  deriving DecidableEq

def hex4 (n : Nat) : List Char :=
  [n / 0x1000 % 16, n / 0x100 % 16, n / 0x10 % 16, n % 16].map Nat.digitChar

def escapeUnit (n : Nat) : List Char := '\\' :: 'u' :: hex4 n

def escapeChar (charset : Charset) (c : Char) : List Char :=
  match c with
  | '"' => ['\\', '"']
  | '\\' => ['\\', '\\']
  | '\n' => ['\\', 'n']
  | '\r' => ['\\', 'r']
  | '\t' => ['\\', 't']
  | '\x0c' => ['\\', 'f']
  | '\x08' => ['\\', 'b']
  | c =>
    if c.toNat < 0x20 then escapeUnit c.toNat
    else if charset = .ascii ∧ 0x7f ≤ c.toNat then (Text.codeUnits c).flatMap escapeUnit
    else [c]

def quoteChars (charset : Charset) (cs : List Char) : List Char :=
  '"' :: cs.flatMap (escapeChar charset) ++ ['"']

def quote (charset : Charset) (s : String) : String :=
  String.ofList (quoteChars charset s.toList)

end TypeDraft.Json
