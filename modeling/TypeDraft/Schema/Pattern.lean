import TypeDraft.Calendar
import TypeDraft.Json.Decode
import TypeDraft.Name.Word

/-!
# Patterns of strings

Four forms that a string may have as a whole: an e-mail address, a UUID, an ISO date or date-time,
and a URL. Strings share a pattern if they all have its form.
-/

namespace TypeDraft

inductive StringPattern where
  | email | uuid | date | url
  deriving DecidableEq

namespace StringPattern

def name : StringPattern → String
  | email => "email"
  | uuid => "uuid"
  | date => "date"
  | url => "url"

open Text (withoutFinalBreak)

def isAddressChar (c : Char) : Bool := !Text.isBlank c && c != '@'

/-- Some characters, one at sign, then a dot with something on both sides; no blank and no further
at sign. A line feed at the end is let pass. -/
def isEmail (s : String) : Bool :=
  let cs := withoutFinalBreak s.toList
  let mailbox := cs.takeWhile isAddressChar
  match cs.dropWhile isAddressChar with
  | '@' :: host =>
    !mailbox.isEmpty && host.all isAddressChar && (host.drop 1).dropLast.contains '.'
  | _ => false

def isHex (c : Char) : Bool := (Numeral.hexValue? c).isSome

/-- The test that each character of a UUID has to pass. -/
def uuidForm : List (Char → Bool) :=
  let hex (n : Nat) : List (Char → Bool) := List.replicate n isHex
  let dash : Char → Bool := fun c => c == '-'
  let version : Char → Bool := fun c => '1' ≤ c && c ≤ '5'
  let variant : Char → Bool := fun c => ['8', '9', 'a', 'b', 'A', 'B'].contains c
  hex 8 ++ dash :: hex 4 ++ dash :: version :: hex 3 ++ dash :: variant :: hex 3 ++ dash :: hex 12

def fits (form : List (Char → Bool)) (cs : List Char) : Bool :=
  form.length == cs.length && (form.zip cs).all fun t => t.1 t.2

/-- Groups of 8, 4, 4, 4 and 12 hexadecimal digits, with a version from one to five and the usual
variant. A line feed at the end is let pass. -/
def isUuid (s : String) : Bool := fits uuidForm (withoutFinalBreak s.toList)

def twoDigits? (a b : Char) : Option Nat :=
  if a.isDigit && b.isDigit then some (Numeral.digitsValue [a, b]) else none

/-- Nothing, or `Z`, or a sign with hours and minutes that are less than a day together. -/
def isZone (cs : List Char) : Bool :=
  match cs with
  | [] => true
  | ['Z'] => true
  | [s, a, b, ':', c, d] =>
    (s == '+' || s == '-') &&
      match twoDigits? a b, twoDigits? c d with
      | some h, some m => h * 60 + m < 24 * 60
      | _, _ => false
  | _ => false

/-- A point with three or six digits may follow the seconds. -/
def isFractionAndZone (cs : List Char) : Bool :=
  match cs with
  | '.' :: r =>
    let digits := r.takeWhile Char.isDigit
    (digits.length == 3 || digits.length == 6) && isZone (r.dropWhile Char.isDigit)
  | r => isZone r

/-- Hours and minutes, perhaps seconds, and a zone. -/
def isTimeOfDay (cs : List Char) : Bool :=
  match cs with
  | a :: b :: ':' :: c :: d :: rest =>
    match twoDigits? a b, twoDigits? c d with
    | some h, some m =>
      h < 24 && m < 60 &&
        match rest with
        | ':' :: e :: f :: rest =>
          match twoDigits? e f with
          | some s => s < 60 && isFractionAndZone rest
          | none => false
        | rest => isZone rest
    | _, _ => false
  | _ => false

/-- A day of the calendar, alone or with a time of day after `T` or a blank. Nothing may follow, not
even a line feed. -/
def isIsoDate (s : String) : Bool :=
  match s.toList with
  | y₁ :: y₂ :: y₃ :: y₄ :: '-' :: m₁ :: m₂ :: '-' :: d₁ :: d₂ :: rest =>
    match twoDigits? y₁ y₂, twoDigits? y₃ y₄, twoDigits? m₁ m₂, twoDigits? d₁ d₂ with
    | some c, some y, some m, some d =>
      (Date.ofParts (c * 100 + y) m d matches .ok _) &&
        match rest with
        | [] => true
        | t :: rest => (t == 'T' || t == ' ') && isTimeOfDay rest
    | _, _, _, _ => false
  | _ => false

/-- A web address: the scheme and at least one character of its line. -/
def isUrl (s : String) : Bool :=
  let cs := s.toList
  let rest :=
    if "http://".toList.isPrefixOf cs then cs.drop 7
    else if "https://".toList.isPrefixOf cs then cs.drop 8
    else []
  match rest with
  | [] => false
  | c :: _ => c != '\n'

def fitsPattern : StringPattern → String → Bool
  | email => isEmail
  | uuid => isUuid
  | date => isIsoDate
  | url => isUrl

def all : List StringPattern := [email, uuid, date, url]

/-- The first pattern that every one of some strings has; no strings have none. -/
def shared? (strings : List String) : Option StringPattern :=
  if strings.isEmpty then none else all.find? fun p => strings.all p.fitsPattern

end StringPattern

end TypeDraft
