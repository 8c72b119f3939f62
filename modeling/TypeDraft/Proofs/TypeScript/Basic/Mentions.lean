import TypeDraft.Proofs.TypeScript.Basic.Drafting

/-!
# What types mention

The names that a written type refers to are its words, but for those that need no declaration.
Arrays keep the order in which names are first mentioned, and so do unions, for only repetitions are
dropped from them. A type that is made of parts has them back from its text.
-/

namespace TypeDraft.TypeScript.Basic

/-! ## Words -/

/-- The words that need no declaration; a dictionary type calls its keys by one. -/
def builtInWords : List String := ["null", "boolean", "number", "string", "any", "key"]

/-- The words among some tokens that have to be declared. -/
def wordsOf (ts : List Token) : List String :=
  ts.filterMap fun
    | .word name => if name ∈ builtInWords then none else some name
    | _ => none

/-- The names that a written type refers to, in the order in which they stand. -/
def Parts.mentions (t : Parts) : List String := wordsOf (TypeScript.tokens t.text.toList)

def Definition.mentions (e : Definition) : List String := e.fields.flatMap fun f => f.type.mentions

theorem wordsOf_append (ts us : List Token) : wordsOf (ts ++ us) = wordsOf ts ++ wordsOf us :=
  List.filterMap_append

/-- The name at a leaf, if it has to be declared. -/
def leafNames : Ty → List String
  | .named name => if name ∈ builtInWords then [] else [name]
  | _ => []

/-- The names that one part refers to. -/
def partMentions (p : String) : List String := wordsOf (tokens p.toList)

theorem IsPart.partMentions_eq {p : String} {leaf : Ty} (h : IsPart p leaf) :
    partMentions p = leafNames leaf := by
  have hparen : SpellsFully ['('] [.mark .openParen] := fun _ => rfl
  have hbrackets : SpellsFully ['[', ']'] [.mark .openBracket, .mark .closeBracket] := fun _ => rfl
  have hclose : SpellsFully [')', '[', ']']
      [.mark .closeParen, .mark .openBracket, .mark .closeBracket] := fun _ => rfl
  induction h with
  | @word name h =>
      rw [partMentions, (spells_word h).tokens_eq, leafNames, wordsOf]
      by_cases hname : name ∈ builtInWords <;> simp [hname]
  | dictionary => decide
  | @opened p leaf h ih =>
      have hspells := hparen.append_spells h.spells
      rw [partMentions, String.toList_append, show "(".toList = ['('] from rfl, hspells.tokens_eq,
        wordsOf_append]
      exact ih
  | @array p leaf h ih =>
      have hspells := (h.spells.append (by decide) hbrackets).spells
      rw [partMentions, String.toList_append, show "[]".toList = ['[', ']'] from rfl,
        hspells.tokens_eq, wordsOf_append, ← ih]
      exact List.append_nil _
  | @closed p leaf h ih =>
      have hspells := (h.spells.append (by decide) hclose).spells
      rw [partMentions, String.toList_append, show ")[]".toList = [')', '[', ']'] from rfl,
        hspells.tokens_eq, wordsOf_append, ← ih]
      exact List.append_nil _

variable {P Q : Ty → Prop} {t u : Parts}

theorem AreParts.mentions_eq (h : AreParts P t) : t.mentions = t.flatMap partMentions := by
  rw [Parts.mentions, h.tokens_text]
  clear h
  induction t with
  | nil => rfl
  | cons p t ih =>
      match t with
      | [] => rw [Parts.tokens_singleton, List.flatMap_singleton, partMentions]
      | q :: t =>
        rw [Parts.tokens_cons_cons, wordsOf_append, List.flatMap_cons, ← ih]
        rfl

/-! ## Arrays and unions -/

theorem AreParts.flatMap_arrayOf (h : AreParts P t) :
    (Basic.arrayOf t).flatMap partMentions = t.flatMap partMentions := by
  have hkeeps : ∀ {p : String} (f : String → String), p ∈ t →
      (∀ leaf, IsPart p leaf → IsPart (f p) leaf) → partMentions (f p) = partMentions p := by
    intro p f hp hf
    obtain ⟨leaf, -, hpart⟩ := h.isPart p hp
    rw [hpart.partMentions_eq, (hf leaf hpart).partMentions_eq]
  match t with
  | [] => exact absurd rfl h.ne_nil
  | [p] =>
    rw [Basic.arrayOf, List.flatMap_singleton, List.flatMap_singleton]
    exact hkeeps (· ++ "[]") List.mem_cons_self fun _ => .array
  | p :: q :: t =>
    have hsplit : (q :: t).dropLast ++ [(q :: t).getLastD ""] = q :: t := by
      rw [List.getLastD_eq_getLast?, List.getLast?_eq_some_getLast (List.cons_ne_nil q t)]
      exact List.dropLast_append_getLast (List.cons_ne_nil q t)
    have hlast : (q :: t).getLastD "" ∈ q :: t := by
      rw [← hsplit]
      exact List.mem_append_right _ (by simp)
    have hrest : (q :: t).dropLast.flatMap partMentions ++ partMentions ((q :: t).getLastD "") =
        (q :: t).flatMap partMentions := by
      conv_rhs => rw [← hsplit, List.flatMap_append, List.flatMap_singleton]
    rw [arrayOf_cons_cons, List.cons_append, List.flatMap_cons, List.flatMap_append,
      List.flatMap_singleton, hkeeps ("(" ++ ·) List.mem_cons_self fun _ => .opened,
      hkeeps (· ++ ")[]") (List.mem_cons_of_mem p hlast) fun _ => .closed, hrest,
      ← List.flatMap_cons]

theorem eraseDups_flatMap_unionOf (ts : List Parts) :
    ((unionOf ts).flatMap partMentions).eraseDups =
      (ts.flatten.flatMap partMentions).eraseDups := by
  have hnull : partMentions "null" = [] := by decide
  have hothers : ∀ l : Parts,
      (l.filter (· ≠ "null")).flatMap partMentions = l.flatMap partMentions := by
    intro l
    induction l with
    | nil => rfl
    | cons p l ih =>
        by_cases hp : p = "null"
        · simp [hp, hnull, ← ih]
        · simp [hp, ← ih]
  have hnulls : ∀ l : Parts, (l.filter (· = "null")).flatMap partMentions = [] := by
    intro l
    rw [List.flatMap_eq_nil_iff]
    intro p hp
    rw [of_decide_eq_true (List.mem_filter.mp hp).2, hnull]
  rw [unionOf, List.flatMap_append, hothers, hnulls, List.append_nil, eraseDups_flatMap_eraseDups]

theorem partMentions_plainType (name : String) : partMentions (plainType name) = [] := by
  unfold plainType
  split <;> decide

/-- Nothing is known of a place without alternatives. -/
theorem assemble_of_nothing {s : Shape} {detailed : List Parts}
    (h : ¬ (plainTypes s ≠ [] ∨ detailed ≠ [])) : assemble s detailed = ["any"] := by
  obtain ⟨hplain, rfl⟩ := not_or.mp h |>.imp not_not.mp not_not.mp
  rw [assemble, ← plainTypes, hplain]
  rfl

/-- The type of a place mentions just what its alternatives do. -/
theorem eraseDups_flatMap_assemble (s : Shape) (detailed : List Parts) :
    ((assemble s detailed).flatMap partMentions).eraseDups =
      (detailed.flatten.flatMap partMentions).eraseDups := by
  by_cases hne : plainTypes s ≠ [] ∨ detailed ≠ []
  · rcases assemble_eq hne with hunion | ⟨-, hone⟩
    · have hplain : (plainTypes s).flatMap partMentions = [] := by
        rw [List.flatMap_eq_nil_iff]
        intro p hp
        obtain ⟨name, -, rfl⟩ := List.mem_map.mp hp
        exact partMentions_plainType name
      rw [hunion, eraseDups_flatMap_unionOf, List.flatten_append, ← List.flatMap_def,
        List.flatMap_singleton', List.flatMap_append, hplain, List.nil_append]
    · rw [flatten_of_eq_singleton hone]
  · have hdetailed : detailed = [] := not_not.mp (not_or.mp hne).2
    rw [assemble_of_nothing hne, hdetailed]
    decide

/-! ## Texts -/

theorem IsPart.bar_not_mem {p : String} {leaf : Ty} (h : IsPart p leaf) : '|' ∉ p.toList := by
  induction h with
  | word h => exact Name.not_mem_of_headThenAll h (by decide) (by decide)
  | dictionary => decide
  | opened _ ih | array _ ih | closed _ ih =>
      rw [String.toList_append, List.mem_append, not_or]
      first
        | exact ⟨by decide, ih⟩
        | exact ⟨ih, by decide⟩

/-- What stands before the first bar of a text, or all of it, is known by the text. -/
theorem eq_of_bar_not_mem {p q r s : List Char} (hp : '|' ∉ p) (hq : '|' ∉ q)
    (hr : r = [] ∨ ∃ r', r = ' ' :: '|' :: r') (hs : s = [] ∨ ∃ s', s = ' ' :: '|' :: s')
    (h : p ++ r = q ++ s) : p = q := by
  have hshort : ∀ {p q r s : List Char}, '|' ∉ q → (r = [] ∨ ∃ r', r = ' ' :: '|' :: r') →
      (s = [] ∨ ∃ s', s = ' ' :: '|' :: s') → (∃ m, q = p ++ m ∧ r = m ++ s) → p = q := by
    rintro p q r s hq hr hs ⟨m, rfl, hm⟩
    match m with
    | [] => rw [List.append_nil]
    | [c] =>
      rcases hr with rfl | ⟨r', rfl⟩
      · cases hm
      · rcases hs with rfl | ⟨s', rfl⟩ <;> simp at hm
    | c :: d :: m =>
      rcases hr with rfl | ⟨r', rfl⟩
      · cases hm
      · simp only [List.cons_append, List.cons.injEq] at hm
        exact absurd (List.mem_append_right p (by simp [← hm.2.1])) hq
  rcases List.append_eq_append_iff.mp h with hm | ⟨m, hpm, hsm⟩
  · exact hshort hq hr hs hm
  · exact (hshort hp hs hr ⟨m, hpm, hsm⟩).symm

/-- The text of a type behind its first part. -/
theorem Parts.exists_text_cons (p : String) (t : Parts) :
    ∃ r : List Char, (Parts.text (p :: t)).toList = p.toList ++ r ∧
      (t = [] ∧ r = [] ∨ t ≠ [] ∧ r = ' ' :: '|' :: ' ' :: t.text.toList) := by
  match t with
  | [] => exact ⟨[], by rw [Parts.text_singleton, List.append_nil], .inl ⟨rfl, rfl⟩⟩
  | q :: t =>
    refine ⟨_, ?_, .inr ⟨List.cons_ne_nil q t, rfl⟩⟩
    rw [Parts.text_cons_cons]
    simp

/-- Parts that are written alike are the same. -/
theorem AreParts.eq_of_text (h : AreParts P t) (h' : AreParts Q u) (heq : t.text = u.text) :
    t = u := by
  have hbar : ∀ {R : Ty → Prop} {t : Parts}, AreParts R t → ∀ p ∈ t, '|' ∉ p.toList := by
    intro R t ht p hp
    obtain ⟨leaf, -, hpart⟩ := ht.isPart p hp
    exact hpart.bar_not_mem
  have ht := hbar h
  have hu := hbar h'
  have htne := h.ne_nil
  have hune := h'.ne_nil
  clear hbar h h'
  induction t generalizing u with
  | nil => exact absurd rfl htne
  | cons p t ih =>
      obtain ⟨q, u, rfl⟩ := List.exists_cons_of_ne_nil hune
      obtain ⟨r, hr, hrest⟩ := Parts.exists_text_cons p t
      obtain ⟨s, hs, hrest'⟩ := Parts.exists_text_cons q u
      have htext : p.toList ++ r = q.toList ++ s := by rw [← hr, ← hs, heq]
      have hpq := eq_of_bar_not_mem (ht p List.mem_cons_self) (hu q List.mem_cons_self)
        (hrest.imp And.right fun h => ⟨_, h.2⟩) (hrest'.imp And.right fun h => ⟨_, h.2⟩) htext
      rw [hpq, List.append_cancel_left_eq] at htext
      obtain rfl := String.toList_injective hpq
      rw [List.forall_mem_cons] at ht hu
      rcases hrest with ⟨rfl, rfl⟩ | ⟨hne, rfl⟩ <;> rcases hrest' with ⟨rfl, rfl⟩ | ⟨hne', rfl⟩
      · rfl
      · cases htext
      · cases htext
      · simp only [List.cons.injEq, true_and] at htext
        rw [ih (String.toList_injective htext) ht.2 hu.2 hne hne']

end TypeDraft.TypeScript.Basic
