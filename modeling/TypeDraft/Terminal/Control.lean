import TypeDraft.Json.Repair

/-!
# Control sequences

What is printed where there is no terminal goes out without the sequences that would steer one: an
escape character, an opening bracket, parameters and a letter.
-/

namespace TypeDraft.Terminal

def isParameter (c : Char) : Bool := c == ';' || c == '?' || c.isDigit

/-- A control sequence goes. -/
def dropSequence : Json.RepairRule
  | '\x1b' :: '[' :: cs =>
    match cs.dropWhile isParameter with
    | c :: _ => if c.isAlpha then some ([], (cs.takeWhile isParameter).length + 3) else none
    | [] => none
  | _ => none

/-- A text as it goes to the standard output, with a line end behind it. -/
def echo (s : String) : String :=
  String.ofList (Json.replaceAll dropSequence (s ++ "\n").toList)

end TypeDraft.Terminal
