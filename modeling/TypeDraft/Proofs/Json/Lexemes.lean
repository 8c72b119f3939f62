import Mathlib.Data.List.Chain
import TypeDraft.Json.Decode
import TypeDraft.Json.Repair

/-!
# JSON-like text as lexemes

A JSON-like text is a sequence of lexemes, each a token with the white space before it. `Writes`
says which lexemes write a value when keys and strings may stand in quotes of either kind, keys
also bare, and a comma may trail behind the last part of an array or object. What may stand for
an atom, and between the quotes for a string, is left open.
-/

namespace TypeDraft.Json

/-! ## Runs of characters -/

/-- What is said of the characters of a list is tried on those alone, not on all characters. -/
instance decidableForallMem {p : Char → Prop} [DecidablePred p] (cs : List Char) :
    Decidable (∀ c ∈ cs, p c) :=
  List.decidableBAll p cs

theorem takeWhile_append_of_head {α : Type} {p : α → Bool} {as bs : List α}
    (has : ∀ c ∈ as, p c = true) (hbs : ∀ c ∈ bs.head?, p c = false) : (as ++ bs).takeWhile p = as := by
  have hnil : bs.takeWhile p = [] := by
    cases bs with
    | nil => rfl
    | cons b bs => exact List.takeWhile_cons_of_neg (by simp [hbs b rfl])
  rw [List.takeWhile_append_of_pos has, hnil, List.append_nil]

theorem dropWhile_append_of_head {α : Type} {p : α → Bool} {as bs : List α}
    (has : ∀ c ∈ as, p c = true) (hbs : ∀ c ∈ bs.head?, p c = false) : (as ++ bs).dropWhile p = bs := by
  rw [List.dropWhile_append_of_pos has]
  cases bs with
  | nil => rfl
  | cons b bs => exact List.dropWhile_cons_of_neg (by simp [hbs b rfl])

/-- The end of a run at the head of a text is found again. -/
theorem append_inj_of_head {α : Type} {p : α → Bool} {as bs as' bs' : List α}
    (has : ∀ c ∈ as, p c = true) (hbs : ∀ c ∈ bs.head?, p c = false)
    (has' : ∀ c ∈ as', p c = true) (hbs' : ∀ c ∈ bs'.head?, p c = false)
    (h : as ++ bs = as' ++ bs') : as = as' ∧ bs = bs' := by
  constructor
  · rw [← takeWhile_append_of_head has hbs, h, takeWhile_append_of_head has' hbs']
  · rw [← dropWhile_append_of_head has hbs, h, dropWhile_append_of_head has' hbs']

/-! ## Tokens -/

inductive QuoteMark where
  | single | double
  deriving DecidableEq

def QuoteMark.char : QuoteMark → Char
  | single => '\''
  | double => '"'

inductive KeyForm where
  | quoted (q : QuoteMark)
  | bare
  deriving DecidableEq

/-- Whether a value stands behind a key or not. -/
inductive Setting where
  | field | item
  deriving DecidableEq

inductive Mark where
  | openArray | closeArray | openObject | closeObject | comma
  /-- A comma before a closing mark. -/
  | trailingComma
  deriving DecidableEq

def Mark.char : Mark → Char
  | openArray => '['
  | closeArray => ']'
  | openObject => '\x7b'
  | closeObject => '\x7d'
  | comma | trailingComma => ','

inductive Token where
  | mark (m : Mark)
  /-- A key, with the white space before its colon and the colon. -/
  | key (form : KeyForm) (body gap : List Char)
  | string (setting : Setting) (quote : QuoteMark) (body : List Char)
  | word (cs : List Char)
  deriving DecidableEq

def inQuotes (q : QuoteMark) (body : List Char) : List Char := q.char :: (body ++ [q.char])

def KeyForm.text (form : KeyForm) (body : List Char) : List Char :=
  match form with
  | .quoted q => inQuotes q body
  | .bare => body

def Token.text : Token → List Char
  | mark m => [m.char]
  | key form body gap => form.text body ++ (gap ++ [':'])
  | string _ q body => inQuotes q body
  | word cs => cs

/-- What stands between the quotes of a token. -/
def Token.body? : Token → Option (List Char)
  | key _ body _ | string _ _ body => some body
  | _ => none

structure Lexeme where
  gap : List Char
  token : Token
  deriving DecidableEq

def Lexeme.text (l : Lexeme) : List Char := l.gap ++ l.token.text

def textOf (ls : List Lexeme) : List Char := ls.flatMap Lexeme.text

@[simp] theorem textOf_nil : textOf [] = [] := rfl

@[simp] theorem textOf_cons (l : Lexeme) (ls : List Lexeme) :
    textOf (l :: ls) = l.text ++ textOf ls := List.flatMap_cons

@[simp] theorem textOf_append (ls ms : List Lexeme) : textOf (ls ++ ms) = textOf ls ++ textOf ms :=
  List.flatMap_append

/-! ## Values as lexemes -/

def IsGap (g : List Char) : Prop := ∀ c ∈ g, isSpace c = true

instance (g : List Char) : Decidable (IsGap g) :=
  inferInstanceAs (Decidable (∀ c ∈ g, isSpace c = true))

/-- A letter or an underscore, then letters, digits and underscores. -/
def IsBareWord : List Char → Prop
  | [] => False
  | c :: cs => isBareStart c = true ∧ ∀ d ∈ cs, isBarePart d = true

instance : (cs : List Char) → Decidable (IsBareWord cs)
  | [] => inferInstanceAs (Decidable False)
  | c :: cs => inferInstanceAs (Decidable (isBareStart c = true ∧ ∀ d ∈ cs, isBarePart d = true))

/-- Whether a key may have a form: a bare one must be a word, and the colon stands right behind a
single-quoted one. -/
def KeyForm.Allows (body gap : List Char) : KeyForm → Prop
  | quoted .double => True
  | quoted .single => gap = []
  | bare => IsBareWord body

instance (body gap : List Char) : (form : KeyForm) → Decidable (form.Allows body gap)
  | .quoted .double => inferInstanceAs (Decidable True)
  | .quoted .single => inferInstanceAs (Decidable (gap = []))
  | .bare => inferInstanceAs (Decidable (IsBareWord body))

section

variable (IsAtom : List Char → Value → Prop) (IsBody : List Char → String → Prop)

mutual

/-- Some lexemes write a value. The fields of an object are listed as they are written. -/
inductive Writes : Setting → Value → List Lexeme → Prop
  | word {s g cs v} : IsGap g → IsAtom cs v → Writes s v [⟨g, .word cs⟩]
  | string {s g q body t} : IsGap g → IsBody body t → Writes s (.str t) [⟨g, .string s q body⟩]
  | emptyArray {s g g'} : IsGap g → IsGap g' →
      Writes s (.arr []) [⟨g, .mark .openArray⟩, ⟨g', .mark .closeArray⟩]
  | array {s g v vs ls ms} : IsGap g → Writes .item v ls → WritesItemsAfter vs ms →
      Writes s (.arr (v :: vs)) (⟨g, .mark .openArray⟩ :: (ls ++ ms))
  | emptyObject {s g g'} : IsGap g → IsGap g' →
      Writes s (.obj []) [⟨g, .mark .openObject⟩, ⟨g', .mark .closeObject⟩]
  | object {s g g' form body gap k v fs ls ms} : IsGap g → IsGap g' → IsGap gap →
      form.Allows body gap → IsBody body k → Writes .field v ls → WritesFieldsAfter fs ms →
      Writes s (.obj ((k, v) :: fs))
        (⟨g, .mark .openObject⟩ :: ⟨g', .key form body gap⟩ :: (ls ++ ms))

/-- The items of an array after one of them, and the end of the array. -/
inductive WritesItemsAfter : List Value → List Lexeme → Prop
  | close {g} : IsGap g → WritesItemsAfter [] [⟨g, .mark .closeArray⟩]
  | trailing {g g'} : IsGap g → IsGap g' →
      WritesItemsAfter [] [⟨g, .mark .trailingComma⟩, ⟨g', .mark .closeArray⟩]
  | next {g v vs ls ms} : IsGap g → Writes .item v ls → WritesItemsAfter vs ms →
      WritesItemsAfter (v :: vs) (⟨g, .mark .comma⟩ :: (ls ++ ms))

/-- The fields of an object after one of them, and the end of the object. -/
inductive WritesFieldsAfter : List (String × Value) → List Lexeme → Prop
  | close {g} : IsGap g → WritesFieldsAfter [] [⟨g, .mark .closeObject⟩]
  | trailing {g g'} : IsGap g → IsGap g' →
      WritesFieldsAfter [] [⟨g, .mark .trailingComma⟩, ⟨g', .mark .closeObject⟩]
  | next {g g' form body gap k v fs ls ms} : IsGap g → IsGap g' → IsGap gap →
      form.Allows body gap → IsBody body k → Writes .field v ls → WritesFieldsAfter fs ms →
      WritesFieldsAfter ((k, v) :: fs)
        (⟨g, .mark .comma⟩ :: ⟨g', .key form body gap⟩ :: (ls ++ ms))

end

end

/-! ## What stands beside what -/

/-- What a token is as far as its neighbours go. -/
inductive Role where
  | mark (m : Mark)
  | key
  | string (setting : Setting)
  | word
  deriving DecidableEq

def Token.role : Token → Role
  | mark m => .mark m
  | key .. => .key
  | string s _ _ => .string s
  | word _ => .word

namespace Role

def opensValue (s : Setting) : Role → Bool
  | mark .openArray | mark .openObject | word => true
  | string s' => s' == s
  | _ => false

def isClose : Role → Bool
  | mark .closeArray | mark .closeObject => true
  | _ => false

/-- Whether a token may stand behind a value. -/
def followsValue : Role → Bool
  | mark .comma | mark .trailingComma | mark .closeArray | mark .closeObject => true
  | _ => false

/-- Whether a token may end a value. -/
def endsValue : Role → Bool
  | mark .closeArray | mark .closeObject | word | string _ => true
  | _ => false

/-- Whether a token may stand behind another. -/
def precedes (r r' : Role) : Bool :=
  match r with
  | mark .openArray => r'.opensValue .item || r' == mark .closeArray
  | mark .openObject => r' == key || r' == mark .closeObject
  | mark .comma => r'.opensValue .item || r' == key
  | mark .trailingComma => r'.isClose
  | key => r'.opensValue .field
  | mark .closeArray | mark .closeObject | string _ | word => r'.followsValue

theorem precedes_of_opensValue {r : Role} (h : r.opensValue .item = true) :
    (mark .openArray).precedes r = true ∧ (mark .comma).precedes r = true := by
  simp [precedes, h]

theorem followsValue_of_endsValue {r r' : Role} (hr : r.endsValue = true)
    (h : r.precedes r' = true) : r'.followsValue = true := by
  cases r with
  | mark m => cases m <;> first | exact h | cases hr
  | key => cases hr
  | string s => exact h
  | word => exact h

theorem not_isClose_of_comma {r : Role} (h : (mark .comma).precedes r = true) :
    r.isClose = false := by
  cases r with
  | mark m => cases m <;> first | rfl | cases h
  | _ => rfl

theorem precedes_of_endsValue {r r' : Role} (hr : r.endsValue = true)
    (hr' : r'.followsValue = true) : r.precedes r' = true := by
  cases r with
  | mark m => cases m <;> first | exact hr' | cases hr
  | key => cases hr
  | string s => exact hr'
  | word => exact hr'

end Role

def Lexeme.role (l : Lexeme) : Role := l.token.role

def Lexeme.Precedes (l m : Lexeme) : Prop := l.role.precedes m.role = true

/-- The characters of numbers and of names of values. -/
def isWordPart (c : Char) : Bool := c.isAlphanum || c == '-' || c == '+' || c == '.'

/-- Whether a token is made as it should be, whatever stands beside it. -/
def Token.IsProper : Token → Prop
  | mark _ => True
  | key form body gap => IsGap gap ∧ form.Allows body gap
  | string .. => True
  | word cs => cs ≠ [] ∧ ∀ c ∈ cs, isWordPart c = true

def Lexeme.IsProper (l : Lexeme) : Prop := IsGap l.gap ∧ l.token.IsProper

/-- Lexemes that are well made and well placed. -/
structure WellPlaced (ls : List Lexeme) : Prop where
  proper : ∀ l ∈ ls, l.IsProper
  chain : ls.IsChain Lexeme.Precedes

theorem WellPlaced.append {ls ms : List Lexeme} (hl : WellPlaced ls) (hm : WellPlaced ms)
    (h : ∀ l ∈ ls.getLast?, ∀ m ∈ ms.head?, l.Precedes m) : WellPlaced (ls ++ ms) where
  proper := List.forall_mem_append.mpr ⟨hl.proper, hm.proper⟩
  chain := List.isChain_append.mpr ⟨hl.chain, hm.chain, h⟩

theorem WellPlaced.cons {l : Lexeme} {ls : List Lexeme} (hl : l.IsProper) (hls : WellPlaced ls)
    (h : ∀ m ∈ ls.head?, l.Precedes m) : WellPlaced (l :: ls) where
  proper := List.forall_mem_cons.mpr ⟨hl, hls.proper⟩
  chain := List.isChain_cons.mpr ⟨h, hls.chain⟩

theorem wellPlaced_singleton {l : Lexeme} (hl : l.IsProper) : WellPlaced [l] where
  proper := by simpa using hl
  chain := List.isChain_singleton l

theorem WellPlaced.tail {l : Lexeme} {ls : List Lexeme} (h : WellPlaced (l :: ls)) :
    WellPlaced ls where
  proper := (List.forall_mem_cons.mp h.proper).2
  chain := h.chain.of_cons

/-! ## How values are placed -/

/-- Whether lexemes stand as those of a value do. -/
structure IsValueRun (s : Setting) (ls : List Lexeme) : Prop extends WellPlaced ls where
  nonempty : ls ≠ []
  opens : ∀ l ∈ ls.head?, l.role.opensValue s = true
  ends : ∀ l ∈ ls.getLast?, l.role.endsValue = true

/-- Whether lexemes stand as those from behind a part of an array or object to the end of it. -/
structure IsTailRun (ls : List Lexeme) : Prop extends WellPlaced ls where
  nonempty : ls ≠ []
  follows : ∀ l ∈ ls.head?, l.role.followsValue = true
  ends : ∀ l ∈ ls.getLast?, l.role.endsValue = true

section

variable {s s' : Setting} {ls ms : List Lexeme}

theorem IsValueRun.append_tail (hl : IsValueRun s ls) (hm : IsTailRun ms) :
    WellPlaced (ls ++ ms) :=
  hl.toWellPlaced.append hm.toWellPlaced fun l hmem m hmem' =>
    Role.precedes_of_endsValue (hl.ends l hmem) (hm.follows m hmem')

theorem IsTailRun.getLast?_append (hm : IsTailRun ms) (l : Lexeme) (ls : List Lexeme) :
    (l :: (ls ++ ms)).getLast? = ms.getLast? := by
  rw [← List.cons_append, List.getLast?_append_of_ne_nil _ hm.nonempty]

theorem IsValueRun.head?_append (hl : IsValueRun s ls) (ms : List Lexeme) :
    (ls ++ ms).head? = ls.head? := List.head?_append_of_ne_nil _ hl.nonempty

/-- A key with its value, and what follows them. -/
theorem IsValueRun.field_append_tail {g body gap : List Char} {form : KeyForm} (hg : IsGap g)
    (hgap : IsGap gap) (hform : form.Allows body gap) (hl : IsValueRun .field ls)
    (hm : IsTailRun ms) : WellPlaced (⟨g, .key form body gap⟩ :: (ls ++ ms)) := by
  have hkey : Lexeme.IsProper ⟨g, .key form body gap⟩ := ⟨hg, hgap, hform⟩
  refine (hl.append_tail hm).cons hkey ?_
  rw [hl.head?_append]
  exact hl.opens

theorem isValueRun_singleton {l : Lexeme} (hl : l.IsProper) (hopens : l.role.opensValue s = true)
    (hends : l.role.endsValue = true) : IsValueRun s [l] where
  toWellPlaced := wellPlaced_singleton hl
  nonempty := List.cons_ne_nil l []
  opens := by simpa using hopens
  ends := by simpa using hends

theorem isTailRun_singleton {l : Lexeme} (hl : l.IsProper)
    (hfollows : l.role.followsValue = true) (hends : l.role.endsValue = true) :
    IsTailRun [l] where
  toWellPlaced := wellPlaced_singleton hl
  nonempty := List.cons_ne_nil l []
  follows := by simpa using hfollows
  ends := by simpa using hends

theorem isValueRun_pair {l m : Lexeme} (hl : l.IsProper) (hm : m.IsProper) (h : l.Precedes m)
    (hopens : l.role.opensValue s = true) (hends : m.role.endsValue = true) :
    IsValueRun s [l, m] where
  toWellPlaced := (wellPlaced_singleton hm).cons hl (by simpa using h)
  nonempty := List.cons_ne_nil l [m]
  opens := by simpa using hopens
  ends := by simpa using hends

theorem isTailRun_pair {l m : Lexeme} (hl : l.IsProper) (hm : m.IsProper) (h : l.Precedes m)
    (hfollows : l.role.followsValue = true) (hends : m.role.endsValue = true) :
    IsTailRun [l, m] where
  toWellPlaced := (wellPlaced_singleton hm).cons hl (by simpa using h)
  nonempty := List.cons_ne_nil l [m]
  follows := by simpa using hfollows
  ends := by simpa using hends

end

section

variable {IsAtom : List Char → Value → Prop} {IsBody : List Char → String → Prop}

/-- Whether what stands for an atom is a word. -/
def AtomsAreWords (IsAtom : List Char → Value → Prop) : Prop :=
  ∀ cs v, IsAtom cs v → (Token.word cs).IsProper

mutual

theorem Writes.isValueRun (hatom : AtomsAreWords IsAtom) {s : Setting} {v : Value}
    {ls : List Lexeme} : Writes IsAtom IsBody s v ls → IsValueRun s ls
  | .word hg ha => isValueRun_singleton ⟨hg, hatom _ _ ha⟩ rfl rfl
  | .string hg hb =>
    isValueRun_singleton ⟨hg, trivial⟩ (by simp [Lexeme.role, Token.role, Role.opensValue]) rfl
  | .emptyArray hg hg' => isValueRun_pair ⟨hg, trivial⟩ ⟨hg', trivial⟩ rfl rfl rfl
  | .array hg hv hvs => by
    have hl := hv.isValueRun hatom
    have hm := hvs.isTailRun hatom
    refine ⟨(hl.append_tail hm).cons ⟨hg, trivial⟩ ?_, List.cons_ne_nil _ _,
      by simp [Lexeme.role, Token.role, Role.opensValue], ?_⟩
    · rw [hl.head?_append]
      exact fun m hmem => (Role.precedes_of_opensValue (hl.opens m hmem)).1
    · rw [hm.getLast?_append]
      exact hm.ends
  | .emptyObject hg hg' => isValueRun_pair ⟨hg, trivial⟩ ⟨hg', trivial⟩ rfl rfl rfl
  | .object hg hg' hgap hform hk hv hfs => by
    have hl := hv.isValueRun hatom
    have hm := hfs.isTailRun hatom
    refine ⟨(hl.field_append_tail hg' hgap hform hm).cons ⟨hg, trivial⟩ ?_, List.cons_ne_nil _ _,
      by simp [Lexeme.role, Token.role, Role.opensValue], ?_⟩
    · simp [Lexeme.Precedes, Lexeme.role, Token.role, Role.precedes]
    · rw [List.getLast?_cons_cons, hm.getLast?_append]
      exact hm.ends

theorem WritesItemsAfter.isTailRun (hatom : AtomsAreWords IsAtom) {vs : List Value}
    {ls : List Lexeme} : WritesItemsAfter IsAtom IsBody vs ls → IsTailRun ls
  | .close hg => isTailRun_singleton ⟨hg, trivial⟩ rfl rfl
  | .trailing hg hg' => isTailRun_pair ⟨hg, trivial⟩ ⟨hg', trivial⟩ rfl rfl rfl
  | .next hg hv hvs => by
    have hl := hv.isValueRun hatom
    have hm := hvs.isTailRun hatom
    refine ⟨(hl.append_tail hm).cons ⟨hg, trivial⟩ ?_, List.cons_ne_nil _ _,
      by simp [Lexeme.role, Token.role, Role.followsValue], ?_⟩
    · rw [hl.head?_append]
      exact fun m hmem => (Role.precedes_of_opensValue (hl.opens m hmem)).2
    · rw [hm.getLast?_append]
      exact hm.ends

theorem WritesFieldsAfter.isTailRun (hatom : AtomsAreWords IsAtom)
    {fs : List (String × Value)} {ls : List Lexeme} :
    WritesFieldsAfter IsAtom IsBody fs ls → IsTailRun ls
  | .close hg => isTailRun_singleton ⟨hg, trivial⟩ rfl rfl
  | .trailing hg hg' => isTailRun_pair ⟨hg, trivial⟩ ⟨hg', trivial⟩ rfl rfl rfl
  | .next hg hg' hgap hform hk hv hfs => by
    have hl := hv.isValueRun hatom
    have hm := hfs.isTailRun hatom
    refine ⟨(hl.field_append_tail hg' hgap hform hm).cons ⟨hg, trivial⟩ ?_, List.cons_ne_nil _ _,
      by simp [Lexeme.role, Token.role, Role.followsValue], ?_⟩
    · simp [Lexeme.Precedes, Lexeme.role, Token.role, Role.precedes]
    · rw [List.getLast?_cons_cons, hm.getLast?_append]
      exact hm.ends

end

/-- Whether something holds of every token that a value may be written with. -/
structure HoldsOfTokens (IsAtom : List Char → Value → Prop) (IsBody : List Char → String → Prop)
    (P : Token → Prop) : Prop where
  mark : ∀ m, P (.mark m)
  key : ∀ {form body gap k}, IsGap gap → IsBody body k → P (.key form body gap)
  string : ∀ {s q body t}, IsBody body t → P (.string s q body)
  word : ∀ {cs v}, IsAtom cs v → P (.word cs)

mutual

theorem Writes.forall_token {P : Token → Prop} (hP : HoldsOfTokens IsAtom IsBody P) {s : Setting}
    {v : Value} {ls : List Lexeme} : Writes IsAtom IsBody s v ls → ∀ l ∈ ls, P l.token
  | .word hg ha => by simpa using hP.word ha
  | .string hg hb => by simpa using hP.string hb
  | .emptyArray hg hg' => by simp [hP.mark]
  | .array hg hv hvs => List.forall_mem_cons.mpr ⟨hP.mark _,
      List.forall_mem_append.mpr ⟨hv.forall_token hP, hvs.forall_token hP⟩⟩
  | .emptyObject hg hg' => by simp [hP.mark]
  | .object hg hg' hgap hform hk hv hfs => List.forall_mem_cons.mpr ⟨hP.mark _,
      List.forall_mem_cons.mpr ⟨hP.key hgap hk,
        List.forall_mem_append.mpr ⟨hv.forall_token hP, hfs.forall_token hP⟩⟩⟩

theorem WritesItemsAfter.forall_token {P : Token → Prop} (hP : HoldsOfTokens IsAtom IsBody P)
    {vs : List Value} {ls : List Lexeme} :
    WritesItemsAfter IsAtom IsBody vs ls → ∀ l ∈ ls, P l.token
  | .close hg => by simp [hP.mark]
  | .trailing hg hg' => by simp [hP.mark]
  | .next hg hv hvs => List.forall_mem_cons.mpr ⟨hP.mark _,
      List.forall_mem_append.mpr ⟨hv.forall_token hP, hvs.forall_token hP⟩⟩

theorem WritesFieldsAfter.forall_token {P : Token → Prop} (hP : HoldsOfTokens IsAtom IsBody P)
    {fs : List (String × Value)} {ls : List Lexeme} :
    WritesFieldsAfter IsAtom IsBody fs ls → ∀ l ∈ ls, P l.token
  | .close hg => by simp [hP.mark]
  | .trailing hg hg' => by simp [hP.mark]
  | .next hg hg' hgap hform hk hv hfs => List.forall_mem_cons.mpr ⟨hP.mark _,
      List.forall_mem_cons.mpr ⟨hP.key hgap hk,
        List.forall_mem_append.mpr ⟨hv.forall_token hP, hfs.forall_token hP⟩⟩⟩

end

/-- What holds of every text that stands for a string holds of what the tokens have in quotes. -/
theorem Writes.forall_body {P : List Char → Prop} (hbody : ∀ body t, IsBody body t → P body)
    {s : Setting} {v : Value} {ls : List Lexeme} (h : Writes IsAtom IsBody s v ls) :
    ∀ l ∈ ls, ∀ body ∈ l.token.body?, P body := by
  refine h.forall_token (P := fun t => ∀ body ∈ t.body?, P body) ⟨nofun, ?_, ?_, nofun⟩
  · intro form body gap k _ hb
    simpa [Token.body?] using hbody _ _ hb
  · intro s q body t hb
    simpa [Token.body?] using hbody _ _ hb

end

/-! ## Strict lexemes -/

/-- Whether a token is one of JSON proper: it is in double quotes and no trailing comma. -/
def Token.IsStrict : Token → Prop
  | mark m => m ≠ .trailingComma
  | key form _ _ => form = .quoted .double
  | string _ q _ => q = .double
  | word _ => True

def IsStrict (ls : List Lexeme) : Prop := ∀ l ∈ ls, l.token.IsStrict

@[simp] theorem isStrict_nil : IsStrict [] := nofun

@[simp] theorem isStrict_cons {l : Lexeme} {ls : List Lexeme} :
    IsStrict (l :: ls) ↔ l.token.IsStrict ∧ IsStrict ls := List.forall_mem_cons

@[simp] theorem isStrict_append {ls ms : List Lexeme} :
    IsStrict (ls ++ ms) ↔ IsStrict ls ∧ IsStrict ms := List.forall_mem_append

end TypeDraft.Json
