import TypeDraft.Proofs.TypeScript.Tokens

/-!
# Types, as they are read

A type is read token by token with a stack of open parentheses. Array brackets bind closer than
bars. The one object type that may stand within a type is that of an open dictionary.
-/

namespace TypeDraft.TypeScript

inductive Ty where
  /-- A type that needs no declaration, or a reference to one. -/
  | named (name : String)
  /-- An object of any fields. -/
  | dictionary
  | array (item : Ty)
  | union (alternatives : List Ty)
  deriving Inhabited

namespace Ty

/-- The type of some alternatives; one alone is no union. -/
def ofAlternatives : List Ty → Ty
  | [t] => t
  | ts => union ts

mutual

def names : Ty → List String
  | named name => [name]
  | dictionary => []
  | array item => item.names
  | union ts => namesOfAll ts
termination_by structural t => t

def namesOfAll : List Ty → List String
  | [] => []
  | t :: ts => t.names ++ namesOfAll ts
termination_by structural ts => ts

end

theorem mem_namesOfAll {ts : List Ty} {name : String} :
    name ∈ namesOfAll ts ↔ ∃ t ∈ ts, name ∈ t.names := by
  induction ts with
  | nil => simp [namesOfAll]
  | cons t ts ih => simp [namesOfAll, ih]

theorem mem_names_ofAlternatives {ts : List Ty} {name : String} :
    name ∈ (ofAlternatives ts).names ↔ ∃ t ∈ ts, name ∈ t.names := by
  rw [← mem_namesOfAll]
  match ts with
  | [] => rfl
  | [t] => simp [ofAlternatives, namesOfAll]
  | _ :: _ :: _ => rfl

end Ty

/-- What may come next in a type. -/
inductive Expectation where
  | operand | operator
  /-- Array brackets are open. -/
  | bracket
  /-- The rest of a dictionary type, token by token. -/
  | spelled (rest : List Token)

/-- The tokens of a dictionary type behind its brace. -/
def dictionaryTokens : List Token :=
  [.mark .openBracket, .word "key", .mark .colon, .word "string", .mark .closeBracket,
    .mark .colon, .word "any", .mark .closeBrace]

/-- A type that has been read in part. Alternatives stand last first. -/
structure TypeReading where
  /-- For each open parenthesis, what was read before it; the innermost comes first. -/
  outer : List (List Ty)
  done : List Ty
  expects : Expectation

namespace TypeReading

def start : TypeReading := ⟨[], [], .operand⟩

def stepOperand (r : TypeReading) : Token → Option TypeReading
  | .word name => some ⟨r.outer, .named name :: r.done, .operator⟩
  | .mark .openParen => some ⟨r.done :: r.outer, [], .operand⟩
  | .mark .openBrace => some ⟨r.outer, r.done, .spelled dictionaryTokens⟩
  | _ => none

def stepOperator (r : TypeReading) : Token → Option TypeReading
  | .mark .bar => some ⟨r.outer, r.done, .operand⟩
  | .mark .openBracket => some ⟨r.outer, r.done, .bracket⟩
  | .mark .closeParen =>
    match r.outer with
    | [] => none
    | before :: outer => some ⟨outer, .ofAlternatives r.done.reverse :: before, .operator⟩
  | _ => none

/-- Closes array brackets behind the last alternative. -/
def stepBracket (r : TypeReading) : Token → Option TypeReading
  | .mark .closeBracket =>
    match r.done with
    | [] => none
    | t :: done => some ⟨r.outer, .array t :: done, .operator⟩
  | _ => none

def stepSpelled (r : TypeReading) : List Token → Token → Option TypeReading
  | [], _ => none
  | [u], t => if t = u then some ⟨r.outer, .dictionary :: r.done, .operator⟩ else none
  | u :: us, t => if t = u then some ⟨r.outer, r.done, .spelled us⟩ else none

def step (r : TypeReading) (t : Token) : Option TypeReading :=
  match r.expects with
  | .operand => r.stepOperand t
  | .operator => r.stepOperator t
  | .bracket => r.stepBracket t
  | .spelled rest => r.stepSpelled rest t

def run (r : TypeReading) (ts : List Token) : Option TypeReading := ts.foldlM step r

/-- The type, if nothing is left open. -/
def result? (r : TypeReading) : Option Ty :=
  match r.outer, r.expects with
  | [], .operator => some (.ofAlternatives r.done.reverse)
  | _, _ => none

theorem run_append (r : TypeReading) (ts us : List Token) :
    r.run (ts ++ us) = (r.run ts).bind fun r => r.run us := List.foldlM_append

theorem run_cons (r : TypeReading) (t : Token) (ts : List Token) :
    r.run (t :: ts) = (r.step t).bind fun r => r.run ts := rfl

end TypeReading

def readType? (ts : List Token) : Option Ty := (TypeReading.start.run ts).bind TypeReading.result?

/-! ## Reading what is put together -/

/-- Some tokens are read as alternatives, wherever a type may begin. -/
def ReadsAs (ts : List Token) (alternatives : List Ty) : Prop :=
  ∀ outer done, TypeReading.run ⟨outer, done, .operand⟩ ts =
    some ⟨outer, alternatives.reverse ++ done, .operator⟩

theorem readsAs_word (name : String) : ReadsAs [.word name] [.named name] := fun _ _ => rfl

theorem ReadsAs.bar {ts us : List Token} {as bs : List Ty} (ht : ReadsAs ts as)
    (hu : ReadsAs us bs) : ReadsAs (ts ++ .mark .bar :: us) (as ++ bs) := by
  intro outer done
  have hbar : TypeReading.step ⟨outer, as.reverse ++ done, .operator⟩ (.mark .bar) =
      some ⟨outer, as.reverse ++ done, .operand⟩ := rfl
  rw [TypeReading.run_append, ht, Option.bind_some, TypeReading.run_cons, hbar, Option.bind_some,
    hu, List.reverse_append, List.append_assoc]

theorem ReadsAs.array {ts : List Token} {t : Ty} (ht : ReadsAs ts [t]) :
    ReadsAs (ts ++ [.mark .openBracket, .mark .closeBracket]) [.array t] := by
  intro outer done
  rw [TypeReading.run_append, ht]
  rfl

theorem ReadsAs.arrayInParens {ts : List Token} {as : List Ty} (ht : ReadsAs ts as) :
    ReadsAs (.mark .openParen :: ts ++
      [.mark .closeParen, .mark .openBracket, .mark .closeBracket])
      [.array (.ofAlternatives as)] := by
  intro outer done
  have hopen : TypeReading.step ⟨outer, done, .operand⟩ (.mark .openParen) =
      some ⟨done :: outer, [], .operand⟩ := rfl
  have hclose : TypeReading.run ⟨done :: outer, as.reverse ++ [], .operator⟩
      [.mark .closeParen, .mark .openBracket, .mark .closeBracket] =
      some ⟨outer, .array (.ofAlternatives (as.reverse ++ []).reverse) :: done, .operator⟩ := rfl
  rw [List.cons_append, TypeReading.run_cons, hopen, Option.bind_some, TypeReading.run_append,
    ht, Option.bind_some, hclose, List.append_nil, List.reverse_reverse]
  rfl

theorem ReadsAs.readType?_eq {ts : List Token} {as : List Ty} (h : ReadsAs ts as) :
    readType? ts = some (.ofAlternatives as) := by
  rw [readType?, TypeReading.start, h, Option.bind_some, TypeReading.result?, List.append_nil,
    List.reverse_reverse]

end TypeDraft.TypeScript
