import TypeDraft.Proofs.TypeScript.Spelling
import TypeDraft.TypeScript.Basic

/-!
# Parts of types

A type is written as the texts between its bars, and a bar within parentheses divides it too. So a
part is a name or a dictionary type with what opens before it and closes behind it. Whatever is made
of parts, a type that can be read from them has just their names and dictionaries at its leaves.
-/

namespace TypeDraft.TypeScript

namespace Ty

mutual

/-- The names and dictionary types within a type. -/
def leaves : Ty → List Ty
  | named name => [named name]
  | dictionary => [dictionary]
  | array item => item.leaves
  | union ts => leavesOfAll ts
termination_by structural t => t

def leavesOfAll : List Ty → List Ty
  | [] => []
  | t :: ts => t.leaves ++ leavesOfAll ts
termination_by structural ts => ts

end

theorem leavesOfAll_append (ts us : List Ty) :
    leavesOfAll (ts ++ us) = leavesOfAll ts ++ leavesOfAll us := by
  induction ts with
  | nil => rfl
  | cons t ts ih => rw [List.cons_append, leavesOfAll, leavesOfAll, ih, List.append_assoc]

theorem leaves_ofAlternatives (ts : List Ty) : (ofAlternatives ts).leaves = leavesOfAll ts := by
  match ts with
  | [] => rfl
  | [t] => rw [ofAlternatives, leavesOfAll, leavesOfAll, List.append_nil]
  | _ :: _ :: _ => rfl

mutual

theorem mem_names_iff : (t : Ty) → {name : String} → (name ∈ t.names ↔ .named name ∈ t.leaves)
  | named _, _ => by simp [names, leaves]
  | dictionary, _ => by simp [names, leaves]
  | array item, _ => mem_names_iff item
  | union ts, _ => mem_namesOfAll_iff ts

theorem mem_namesOfAll_iff :
    (ts : List Ty) → {name : String} → (name ∈ namesOfAll ts ↔ .named name ∈ leavesOfAll ts)
  | [], _ => by simp [namesOfAll, leavesOfAll]
  | t :: ts, _ => by
    rw [namesOfAll, leavesOfAll, List.mem_append, List.mem_append, mem_names_iff t,
      mem_namesOfAll_iff ts]

end

theorem leavesOfAll_reverse_perm (ts : List Ty) : (leavesOfAll ts.reverse).Perm (leavesOfAll ts) := by
  induction ts with
  | nil => exact List.Perm.refl _
  | cons t ts ih =>
      rw [List.reverse_cons, leavesOfAll_append, leavesOfAll, leavesOfAll, leavesOfAll,
        List.append_nil]
      exact List.perm_append_comm.trans (List.Perm.append_left _ ih)

end Ty

namespace TypeReading

/-- The names and dictionary types that have been read. -/
def leaves (r : TypeReading) : List Ty := Ty.leavesOfAll r.done ++ r.outer.flatMap Ty.leavesOfAll

theorem run_brackets {r r' : TypeReading} (hr : r.expects = .operator)
    (h : r.run [.mark .openBracket, .mark .closeBracket] = some r') :
    r'.expects = .operator ∧ r'.leaves.Perm r.leaves := by
  obtain ⟨outer, done, expects⟩ := r
  obtain rfl : expects = .operator := hr
  cases done with
  | nil => cases h
  | cons t done =>
      obtain rfl : _ = r' := Option.some.inj h
      exact ⟨rfl, List.Perm.refl _⟩

theorem run_close {r r' : TypeReading} (hr : r.expects = .operator)
    (h : r.run [.mark .closeParen, .mark .openBracket, .mark .closeBracket] = some r') :
    r'.expects = .operator ∧ r'.leaves.Perm r.leaves := by
  obtain ⟨outer, done, expects⟩ := r
  obtain rfl : expects = .operator := hr
  cases outer with
  | nil => cases h
  | cons before outer =>
      obtain rfl : _ = r' := Option.some.inj h
      refine ⟨rfl, ?_⟩
      have hdone : (Ty.ofAlternatives done.reverse).leaves.Perm (Ty.leavesOfAll done) := by
        rw [Ty.leaves_ofAlternatives]
        exact Ty.leavesOfAll_reverse_perm done
      rw [leaves, leaves, Ty.leavesOfAll, List.flatMap_cons, ← List.append_assoc]
      exact List.Perm.append_right _ (List.Perm.append_right _ hdone)

end TypeReading

namespace Basic

/-- A part of a type, with its name or dictionary type. -/
inductive IsPart : String → Ty → Prop
  | word {name : String} : IsWord name → IsPart name (.named name)
  | dictionary : IsPart openObject .dictionary
  | opened {p : String} {leaf : Ty} : IsPart p leaf → IsPart ("(" ++ p) leaf
  | array {p : String} {leaf : Ty} : IsPart p leaf → IsPart (p ++ "[]") leaf
  | closed {p : String} {leaf : Ty} : IsPart p leaf → IsPart (p ++ ")[]") leaf

/-- The name or dictionary type that a token begins. -/
def leafAt? : Token → Option Ty
  | .word name => some (.named name)
  | .mark .openBrace => some .dictionary
  | _ => none

/-- The tokens of a part, with the name or the dictionary type among them. -/
structure ArePartTokens (ts : List Token) (leaf : Ty) : Prop where
  ne_nil : ts ≠ []
  no_bar : .mark .bar ∉ ts
  no_semicolon : .mark .semicolon ∉ ts
  /-- A brace begins a dictionary type. -/
  brace : ∀ us, ts = .mark .openBrace :: us → us.head? = some (.mark .openBracket)
  first_leaf : ts.findSome? leafAt? = some leaf
  /-- Where they can be read at all, they add just that name or dictionary type. -/
  adds_leaf : ∀ {r r' : TypeReading}, r.expects = .operand → r.run ts = some r' →
    r'.expects = .operator ∧ r'.leaves.Perm (leaf :: r.leaves)

theorem arePartTokens_word (name : String) : ArePartTokens [.word name] (.named name) where
  ne_nil := List.cons_ne_nil _ _
  no_bar := by simp
  no_semicolon := by simp
  brace := nofun
  first_leaf := rfl
  adds_leaf := by
    rintro ⟨outer, done, expects⟩ r' hr h
    obtain rfl : expects = .operand := hr
    obtain rfl : _ = r' := Option.some.inj h
    exact ⟨rfl, List.Perm.refl _⟩

theorem arePartTokens_dictionary :
    ArePartTokens (.mark .openBrace :: dictionaryTokens) .dictionary where
  ne_nil := List.cons_ne_nil _ _
  no_bar := by decide
  no_semicolon := by decide
  brace := by
    rintro us h
    cases h
    rfl
  first_leaf := rfl
  adds_leaf := by
    rintro ⟨outer, done, expects⟩ r' hr h
    obtain rfl : expects = .operand := hr
    obtain rfl : _ = r' := Option.some.inj h
    exact ⟨rfl, List.Perm.refl _⟩

theorem ArePartTokens.opened {ts : List Token} {leaf : Ty} (h : ArePartTokens ts leaf) :
    ArePartTokens (.mark .openParen :: ts) leaf where
  ne_nil := List.cons_ne_nil _ _
  no_bar := by simpa using h.no_bar
  no_semicolon := by simpa using h.no_semicolon
  brace := nofun
  first_leaf := h.first_leaf
  adds_leaf := by
    rintro ⟨outer, done, expects⟩ r' hr hrun
    obtain rfl : expects = .operand := hr
    exact h.adds_leaf (r := ⟨done :: outer, [], .operand⟩) rfl hrun

theorem ArePartTokens.brace_append {ts : List Token} {leaf : Ty} (h : ArePartTokens ts leaf)
    (us : List Token) :
    ∀ vs, ts ++ us = .mark .openBrace :: vs → vs.head? = some (.mark .openBracket) := by
  intro vs hvs
  obtain ⟨t, ts, rfl⟩ := List.exists_cons_of_ne_nil h.ne_nil
  rw [List.cons_append, List.cons.injEq] at hvs
  obtain ⟨rfl, rfl⟩ := hvs
  have hhead := h.brace ts rfl
  cases ts with
  | nil => cases hhead
  | cons u ts => exact hhead

theorem ArePartTokens.append {ts us : List Token} {leaf : Ty} (h : ArePartTokens ts leaf)
    (hbar : .mark .bar ∉ us) (hsemicolon : .mark .semicolon ∉ us)
    (hus : ∀ {r r' : TypeReading}, r.expects = .operator → r.run us = some r' →
      r'.expects = .operator ∧ r'.leaves.Perm r.leaves) : ArePartTokens (ts ++ us) leaf where
  ne_nil := by simp [h.ne_nil]
  no_bar := by simpa using ⟨h.no_bar, hbar⟩
  no_semicolon := by simpa using ⟨h.no_semicolon, hsemicolon⟩
  brace := h.brace_append us
  first_leaf := by rw [List.findSome?_append, h.first_leaf, Option.some_or]
  adds_leaf := by
    intro r r' hr hrun
    rw [TypeReading.run_append, Option.bind_eq_some_iff] at hrun
    obtain ⟨r₁, hr₁, hrun⟩ := hrun
    have hts := h.adds_leaf hr hr₁
    have hend := hus hts.1 hrun
    exact ⟨hend.1, hend.2.trans hts.2⟩

theorem IsPart.exists_tokens {p : String} {leaf : Ty} (h : IsPart p leaf) :
    ∃ ts, Spells p.toList ts ∧ ArePartTokens ts leaf := by
  have hparen : SpellsFully ['('] [.mark .openParen] := fun _ => rfl
  have hbrackets : SpellsFully ['[', ']'] [.mark .openBracket, .mark .closeBracket] := fun _ => rfl
  have hclose : SpellsFully [')', '[', ']']
      [.mark .closeParen, .mark .openBracket, .mark .closeBracket] := fun _ => rfl
  induction h with
  | word h => exact ⟨_, spells_word h, arePartTokens_word _⟩
  | dictionary => exact ⟨_, fun _ _ => rfl, arePartTokens_dictionary⟩
  | opened _ ih =>
      obtain ⟨ts, hspells, hts⟩ := ih
      refine ⟨_, ?_, hts.opened⟩
      simpa using hparen.append_spells hspells
  | array _ ih =>
      obtain ⟨ts, hspells, hts⟩ := ih
      refine ⟨ts ++ [.mark .openBracket, .mark .closeBracket], ?_,
        hts.append (by decide) (by decide) TypeReading.run_brackets⟩
      simpa using (hspells.append (by decide) hbrackets).spells
  | closed _ ih =>
      obtain ⟨ts, hspells, hts⟩ := ih
      refine ⟨ts ++ [.mark .closeParen, .mark .openBracket, .mark .closeBracket], ?_,
        hts.append (by decide) (by decide) TypeReading.run_close⟩
      simpa using (hspells.append (by decide) hclose).spells

theorem IsPart.spells {p : String} {leaf : Ty} (h : IsPart p leaf) :
    Spells p.toList (tokens p.toList) := by
  obtain ⟨ts, hspells, -⟩ := h.exists_tokens
  rwa [hspells.tokens_eq]

theorem IsPart.arePartTokens {p : String} {leaf : Ty} (h : IsPart p leaf) :
    ArePartTokens (tokens p.toList) leaf := by
  obtain ⟨ts, hspells, hts⟩ := h.exists_tokens
  rwa [hspells.tokens_eq]

theorem IsPart.leaf_unique {p : String} {leaf leaf' : Ty} (h : IsPart p leaf)
    (h' : IsPart p leaf') : leaf = leaf' :=
  Option.some.inj (h.arePartTokens.first_leaf.symm.trans h'.arePartTokens.first_leaf)

/-! ## Several parts -/

/-- What the text of a type is read as. -/
def Parts.type? (t : Parts) : Option Ty := readType? (tokens t.text.toList)

/-- The tokens of some parts, with bars between them. -/
def Parts.tokens (t : Parts) : List Token :=
  [.mark .bar].intercalate (t.map fun p => TypeScript.tokens p.toList)

/-- Whether a type has parts at all, and each has a name or dictionary type of some sort. -/
structure AreParts (P : Ty → Prop) (t : Parts) : Prop where
  ne_nil : t ≠ []
  isPart : ∀ p ∈ t, ∃ leaf, P leaf ∧ IsPart p leaf

variable {P : Ty → Prop} {t : Parts}

theorem AreParts.spells (h : AreParts P t) : Spells t.text.toList t.tokens := by
  have hbar : SpellsFully [' ', '|', ' '] [.mark .bar] := fun _ => rfl
  have hparts : ∀ p ∈ t, Spells p.toList (TypeScript.tokens p.toList) := by
    intro p hp
    obtain ⟨leaf, -, hpart⟩ := h.isPart p hp
    exact hpart.spells
  have hspells := spells_intercalate (by decide) hbar String.toList _ hparts
  simpa [Parts.text, Parts.tokens, String.toList_intercalate] using hspells

theorem AreParts.tokens_text (h : AreParts P t) :
    TypeScript.tokens t.text.toList = t.tokens := h.spells.tokens_eq

theorem AreParts.type?_eq (h : AreParts P t) : t.type? = readType? t.tokens := by
  rw [Parts.type?, h.tokens_text]

theorem Parts.tokens_cons_cons (p q : String) (t : Parts) :
    Parts.tokens (p :: q :: t) =
      TypeScript.tokens p.toList ++ .mark .bar :: Parts.tokens (q :: t) := by
  simp [Parts.tokens, List.intercalate_cons_cons]

theorem Parts.tokens_singleton (p : String) : Parts.tokens [p] = TypeScript.tokens p.toList := by
  simp [Parts.tokens]

theorem AreParts.tail {p q : String} (h : AreParts P (p :: q :: t)) : AreParts P (q :: t) :=
  ⟨List.cons_ne_nil q t, fun x hx => h.isPart x (List.mem_cons_of_mem p hx)⟩

theorem AreParts.no_semicolon (h : AreParts P t) : .mark .semicolon ∉ t.tokens := by
  induction t with
  | nil => exact absurd rfl h.ne_nil
  | cons p t ih =>
      obtain ⟨leaf, -, hpart⟩ := h.isPart p List.mem_cons_self
      have hp := hpart.arePartTokens.no_semicolon
      match t with
      | [] => rwa [Parts.tokens_singleton]
      | q :: t =>
        rw [Parts.tokens_cons_cons, List.mem_append, List.mem_cons, not_or, not_or]
        exact ⟨hp, by decide, ih h.tail⟩

theorem AreParts.head_tokens (h : AreParts P t) : t.tokens ≠ [] ∧
    ∀ us, t.tokens = .mark .openBrace :: us → us.head? = some (.mark .openBracket) := by
  obtain ⟨p, t, rfl⟩ := List.exists_cons_of_ne_nil h.ne_nil
  obtain ⟨leaf, -, hpart⟩ := h.isPart p List.mem_cons_self
  have hp := hpart.arePartTokens
  match t with
  | [] =>
    rw [Parts.tokens_singleton]
    exact ⟨hp.ne_nil, hp.brace⟩
  | q :: t =>
    rw [Parts.tokens_cons_cons]
    exact ⟨by simp [hp.ne_nil], hp.brace_append _⟩

/-- Parts that can be read one after another add one name or dictionary type each. -/
theorem AreParts.run_tokens (h : AreParts P t) {r r' : TypeReading} (hr : r.expects = .operand)
    (hrun : r.run t.tokens = some r') :
    r'.leaves.length = t.length + r.leaves.length ∧
      ∀ leaf ∈ r'.leaves, P leaf ∨ leaf ∈ r.leaves := by
  induction t generalizing r with
  | nil => exact absurd rfl h.ne_nil
  | cons p t ih =>
      obtain ⟨leaf, hleaf, hpart⟩ := h.isPart p List.mem_cons_self
      have hp := hpart.arePartTokens
      have hadds : ∀ {r₁ : TypeReading}, r₁.leaves.Perm (leaf :: r.leaves) →
          r₁.leaves.length = 1 + r.leaves.length ∧
            ∀ l ∈ r₁.leaves, P l ∨ l ∈ r.leaves := by
        intro r₁ hperm
        refine ⟨by rw [hperm.length_eq, List.length_cons, Nat.add_comm], fun l hl => ?_⟩
        rcases List.mem_cons.mp (hperm.mem_iff.mp hl) with rfl | hl
        · exact Or.inl hleaf
        · exact Or.inr hl
      match t with
      | [] =>
        rw [Parts.tokens_singleton] at hrun
        exact hadds (hp.adds_leaf hr hrun).2
      | q :: t =>
        rw [Parts.tokens_cons_cons, TypeReading.run_append, Option.bind_eq_some_iff] at hrun
        obtain ⟨r₁, hr₁, hrun⟩ := hrun
        obtain ⟨hoperator, hperm⟩ := hp.adds_leaf hr hr₁
        obtain ⟨hlength, hleaves⟩ := hadds hperm
        obtain ⟨outer, done, expects⟩ := r₁
        obtain rfl : expects = .operator := hoperator
        obtain ⟨hlength', hleaves'⟩ := ih h.tail (r := ⟨outer, done, .operand⟩) rfl hrun
        have hsame : TypeReading.leaves ⟨outer, done, .operand⟩ =
            TypeReading.leaves ⟨outer, done, .operator⟩ := rfl
        have hcount : r'.leaves.length = (p :: q :: t).length + r.leaves.length := by
          rw [hlength', hsame, hlength]
          simp only [List.length_cons]
          omega
        refine ⟨hcount, fun l hl => ?_⟩
        rcases hleaves' l hl with hl | hl
        · exact Or.inl hl
        · exact hleaves l hl

/-- A type that is read from parts has as many names and dictionary types as there are parts. -/
theorem AreParts.leaves_of_type? (h : AreParts P t) {ty : Ty} (hty : t.type? = some ty) :
    ty.leaves.length = t.length ∧ ∀ leaf ∈ ty.leaves, P leaf := by
  rw [h.type?_eq, readType?, Option.bind_eq_some_iff] at hty
  obtain ⟨r, hrun, hresult⟩ := hty
  obtain ⟨hlength, hleaves⟩ := h.run_tokens rfl hrun
  obtain ⟨outer, done, expects⟩ := r
  cases outer with
  | cons _ _ => cases hresult
  | nil =>
      cases expects with
      | operand | bracket | spelled _ => cases hresult
      | operator =>
          obtain rfl := Option.some.inj hresult
          have hperm : (Ty.ofAlternatives done.reverse).leaves.Perm
              (TypeReading.leaves ⟨[], done, .operator⟩) := by
            rw [Ty.leaves_ofAlternatives, TypeReading.leaves, List.flatMap_nil, List.append_nil]
            exact Ty.leavesOfAll_reverse_perm done
          refine ⟨hperm.length_eq.trans hlength, fun leaf hleaf => ?_⟩
          rcases hleaves leaf (hperm.mem_iff.mp hleaf) with hleaf | hleaf
          · exact hleaf
          · cases hleaf

end Basic

end TypeDraft.TypeScript
