import TypeDraft.Name.Word

/-!
# Tokens of declarations

The text of a module of type declarations as words, quoted strings and marks. Blanks and comments
only separate. What is no token of such a module is kept as a stray one, which nothing accepts.
-/

namespace TypeDraft.TypeScript

inductive Mark where
  | openBrace | closeBrace | openBracket | closeBracket | openParen | closeParen
  | colon | semicolon | comma | question | bar | equals
  deriving DecidableEq

def Mark.ofChar? : Char → Option Mark
  | '\x7b' => some openBrace
  | '\x7d' => some closeBrace
  | '[' => some openBracket
  | ']' => some closeBracket
  | '(' => some openParen
  | ')' => some closeParen
  | ':' => some colon
  | ';' => some semicolon
  | ',' => some comma
  | '?' => some question
  | '|' => some bar
  | '=' => some equals
  | _ => none

inductive Token where
  | word (s : String)
  /-- A string between double quotes, with its escapes undone. -/
  | quoted (s : String)
  | mark (m : Mark)
  | stray
  deriving DecidableEq

def isWordHead (c : Char) : Bool := Name.isLetter c || c == '$'

def isWordChar (c : Char) : Bool := Name.isLetterOrDigit c || c == '$'

def isGap (c : Char) : Bool := c == ' ' || c == '\n' || c == '\r' || c == '\t'

/-- Whether a character ends the line that it stands in; a quoted string may not hold it. -/
def isLineBreak (c : Char) : Bool := c == '\n' || c == '\r'

/-- What a backslash and a character stand for. Escapes by code are not among these. -/
def unescape? (c : Char) : Option Char :=
  if c = 'n' then some '\n'
  else if c = 'r' then some '\r'
  else if c = 't' then some '\t'
  else if c = 'f' then some '\x0c'
  else if c = 'b' then some '\x08'
  else if c.isAlphanum || isLineBreak c then none
  else some c

def hexDigit? (c : Char) : Option Nat :=
  if c.isDigit then some (c.toNat - '0'.toNat)
  else if 'a' ≤ c ∧ c ≤ 'f' then some (c.toNat - 'a'.toNat + 10)
  else if 'A' ≤ c ∧ c ≤ 'F' then some (c.toNat - 'A'.toNat + 10)
  else none

/-- What has been begun where a text is read on. -/
inductive LexMode where
  | gap
  | word (cs : List Char)
  | slash
  | comment
  /-- In a comment, right behind an asterisk. -/
  | asterisk
  | quoted (cs : List Char)
  | escape (cs : List Char)
  /-- In an escape by code, with the number read so far and the digits that are left. -/
  | code (cs : List Char) (n : Nat) (left : Nat)

namespace LexMode

/-- A character where nothing has been begun. -/
def stepGap (c : Char) : LexMode × List Token :=
  if isGap c then (gap, [])
  else if isWordHead c then (word [c], [])
  else if c = '"' then (quoted [], [])
  else if c = '/' then (slash, [])
  else (gap, [((Mark.ofChar? c).map Token.mark).getD .stray])

def stepCode (cs : List Char) (n left : Nat) (c : Char) : LexMode × List Token :=
  match hexDigit? c with
  | none => (gap, [.stray])
  | some d =>
    let n := 16 * n + d
    if 0 < left then (code cs n (left - 1), [])
    else if n.isValidChar then (quoted (cs ++ [Char.ofNat n]), [])
    else (gap, [.stray])

/-- Reads one character; the tokens that it completes are returned. -/
def step : LexMode → Char → LexMode × List Token
  | gap, c => stepGap c
  | word cs, c =>
    if isWordChar c then (word (cs ++ [c]), [])
    else ((stepGap c).1, .word (String.ofList cs) :: (stepGap c).2)
  | slash, c => if c = '*' then (comment, []) else (gap, [.stray])
  | comment, c => (if c = '*' then asterisk else comment, [])
  | asterisk, c => (if c = '/' then gap else if c = '*' then asterisk else comment, [])
  | quoted cs, c =>
    if c = '"' then (gap, [.quoted (String.ofList cs)])
    else if c = '\\' then (escape cs, [])
    else if isLineBreak c then (gap, [.stray])
    else (quoted (cs ++ [c]), [])
  | escape cs, c =>
    if c = 'u' then (code cs 0 3, [])
    else
      match unescape? c with
      | some d => (quoted (cs ++ [d]), [])
      | none => (gap, [.stray])
  | code cs n left, c => stepCode cs n left c

def finish : LexMode → List Token
  | gap => []
  | word cs => [.word (String.ofList cs)]
  | _ => [.stray]

end LexMode

def tokensFrom (m : LexMode) : List Char → List Token
  | [] => m.finish
  | c :: cs => (m.step c).2 ++ tokensFrom (m.step c).1 cs

def tokens (cs : List Char) : List Token := tokensFrom .gap cs

/-! ## Pieces of a text -/

/-- Whether a word that stands before a text ends there. -/
def Separated (rest : List Char) : Prop := ∀ c ∈ rest.head?, isWordChar c = false

/-- A piece of text has some tokens, if no word at its end runs on. -/
def Spells (cs : List Char) (ts : List Token) : Prop :=
  ∀ rest, Separated rest → tokens (cs ++ rest) = ts ++ tokens rest

/-- A piece of text has some tokens, whatever follows. -/
def SpellsFully (cs : List Char) (ts : List Token) : Prop :=
  ∀ rest, tokens (cs ++ rest) = ts ++ tokens rest

theorem separated_cons {c : Char} {rest : List Char} (h : isWordChar c = false) :
    Separated (c :: rest) := by
  intro d hd
  simp only [List.head?_cons, Option.mem_def, Option.some.injEq] at hd
  exact hd ▸ h

theorem separated_nil : Separated [] := by
  intro c hc
  cases hc

theorem SpellsFully.spells {cs : List Char} {ts : List Token} (h : SpellsFully cs ts) :
    Spells cs ts := fun rest _ => h rest

theorem Spells.tokens_eq {cs : List Char} {ts : List Token} (h : Spells cs ts) :
    tokens cs = ts := by
  have hrest := h [] separated_nil
  have hnil : tokens [] = [] := rfl
  rwa [List.append_nil, hnil, List.append_nil] at hrest

theorem spellsFully_nil : SpellsFully [] [] := fun _ => rfl

theorem SpellsFully.append {as bs : List Char} {ts us : List Token} (ha : SpellsFully as ts)
    (hb : SpellsFully bs us) : SpellsFully (as ++ bs) (ts ++ us) := by
  intro rest
  rw [List.append_assoc, ha, hb, List.append_assoc]

theorem SpellsFully.append_spells {as bs : List Char} {ts us : List Token}
    (ha : SpellsFully as ts) (hb : Spells bs us) : Spells (as ++ bs) (ts ++ us) := by
  intro rest hrest
  rw [List.append_assoc, ha, hb rest hrest, List.append_assoc]

/-- A piece may end in a word where the next one does not go on with it. -/
theorem Spells.append {as : List Char} {c : Char} {bs : List Char} {ts us : List Token}
    (ha : Spells as ts) (hc : isWordChar c = false) (hb : SpellsFully (c :: bs) us) :
    SpellsFully (as ++ c :: bs) (ts ++ us) := by
  intro rest
  have hs : Separated (c :: bs ++ rest) := separated_cons hc
  rw [List.append_assoc, ha _ hs, hb, List.append_assoc]

theorem Spells.append_spells {as : List Char} {c : Char} {bs : List Char} {ts us : List Token}
    (ha : Spells as ts) (hc : isWordChar c = false) (hb : Spells (c :: bs) us) :
    Spells (as ++ c :: bs) (ts ++ us) := by
  intro rest hrest
  have hs : Separated (c :: bs ++ rest) := separated_cons hc
  rw [List.append_assoc, ha _ hs, hb rest hrest, List.append_assoc]

/-! ## Words -/

/-- A text that is read as one word. -/
def IsWord (s : String) : Prop := Name.headThenAll isWordHead isWordChar s.toList = true

instance (s : String) : Decidable (IsWord s) := inferInstanceAs (Decidable (_ = true))

theorem isGap_of_isWordHead {c : Char} (h : isWordHead c = true) : isGap c = false := by
  apply Bool.eq_false_iff.mpr
  intro hgap
  simp only [isGap, Bool.or_eq_true, beq_iff_eq] at hgap
  rcases hgap with ((rfl | rfl) | rfl) | rfl <;> revert h <;> decide

theorem tokensFrom_word {cs : List Char} (hcs : cs.all isWordChar = true) (before rest : List Char) :
    tokensFrom (.word before) (cs ++ rest) = tokensFrom (.word (before ++ cs)) rest := by
  induction cs generalizing before with
  | nil => rw [List.nil_append, List.append_nil]
  | cons c cs ih =>
      rw [List.all_cons, Bool.and_eq_true] at hcs
      have hstep : LexMode.step (.word before) c = (.word (before ++ [c]), []) := by
        rw [LexMode.step, if_pos hcs.1]
      rw [List.cons_append, tokensFrom, hstep, List.nil_append, ih hcs.2, List.append_assoc,
        List.singleton_append]

theorem tokensFrom_word_of_separated {rest : List Char} (h : Separated rest) (cs : List Char) :
    tokensFrom (.word cs) rest = .word (String.ofList cs) :: tokens rest := by
  cases rest with
  | nil => rfl
  | cons c rest =>
      have hc : isWordChar c = false := h c rfl
      rw [tokensFrom, LexMode.step, if_neg (by simp [hc])]
      rfl

theorem spells_word {s : String} (h : IsWord s) : Spells s.toList [.word s] := by
  intro rest hrest
  cases hs : s.toList with
  | nil =>
      rw [IsWord, hs] at h
      cases h
  | cons c cs =>
      rw [IsWord, hs, Name.headThenAll, Bool.and_eq_true] at h
      have hstep : LexMode.step .gap c = (.word [c], []) := by
        rw [LexMode.step, LexMode.stepGap, if_neg (by simp [isGap_of_isWordHead h.1]), if_pos h.1]
      have hword : String.ofList (c :: cs) = s := by rw [← hs, String.ofList_toList]
      rw [tokens, List.cons_append, tokensFrom, hstep, List.nil_append, tokensFrom_word h.2,
        tokensFrom_word_of_separated hrest, List.singleton_append, hword]
      rfl

/-! ## Quoted strings -/

/-- Some characters within quotes stand for one character. -/
def Escapes (cs : List Char) (c : Char) : Prop :=
  ∀ before rest, tokensFrom (.quoted before) (cs ++ rest) = tokensFrom (.quoted (before ++ [c])) rest

theorem tokensFrom_quoted {escape : Char → List Char} {cs : List Char}
    (h : ∀ c ∈ cs, Escapes (escape c) c) (before rest : List Char) :
    tokensFrom (.quoted before) (cs.flatMap escape ++ rest) =
      tokensFrom (.quoted (before ++ cs)) rest := by
  induction cs generalizing before with
  | nil => rw [List.flatMap_nil, List.nil_append, List.append_nil]
  | cons c cs ih =>
      rw [List.flatMap_cons, List.append_assoc, h c List.mem_cons_self,
        ih fun d hd => h d (List.mem_cons_of_mem c hd), List.append_assoc, List.singleton_append]

theorem spellsFully_quoted {escape : Char → List Char} {s : String}
    (h : ∀ c ∈ s.toList, Escapes (escape c) c) :
    SpellsFully ('"' :: s.toList.flatMap escape ++ ['"']) [.quoted s] := by
  intro rest
  have hopen : LexMode.step .gap '"' = (.quoted [], []) := rfl
  have hclose : ∀ cs, LexMode.step (.quoted cs) '"' = (.gap, [.quoted (String.ofList cs)]) :=
    fun _ => rfl
  rw [tokens, List.cons_append, List.cons_append, List.append_assoc, tokensFrom, hopen,
    List.nil_append, tokensFrom_quoted h, List.singleton_append, tokensFrom, hclose,
    List.nil_append, String.ofList_toList]
  rfl

end TypeDraft.TypeScript
