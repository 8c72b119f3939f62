import Mathlib.Data.List.Forall2
import TypeDraft.Proofs.TypeScript.Modules
import TypeDraft.TypeScript.Declaration

/-!
# Modules of type declarations, as they are written

The tokens that a statement is written with, and what is read from them. A type is known by its
tokens alone here, and a statement is read if each of its types is.
-/

namespace TypeDraft.TypeScript

/-! ## Lists in which everything can be read -/

section

variable {α β γ : Type} {f : α → Option β} {xs : List α} {ys : List β}

theorem mapM_eq_some_iff : xs.mapM f = some ys ↔ List.Forall₂ (fun x y => f x = some y) xs ys := by
  induction xs generalizing ys with
  | nil =>
      rw [List.forall₂_nil_left_iff]
      exact ⟨fun h => (Option.some.inj h).symm, fun h => h ▸ rfl⟩
  | cons x xs ih =>
      simp only [List.mapM_cons, Option.bind_eq_bind, Option.bind_eq_some_iff, ih,
        List.forall₂_cons_left_iff]
      constructor
      · rintro ⟨y, hy, ys', hys, heq⟩
        exact ⟨y, ys', hy, hys, (Option.some.inj heq).symm⟩
      · rintro ⟨y, ys', hy, hys, rfl⟩
        exact ⟨y, hy, ys', hys, rfl⟩

theorem exists_mem_of_mapM (h : xs.mapM f = some ys) {y : β} (hy : y ∈ ys) :
    ∃ x ∈ xs, f x = some y := by
  have hall := mapM_eq_some_iff.mp h
  clear h
  induction hall with
  | nil => cases hy
  | @cons x z _ _ hx _ ih =>
      rcases List.mem_cons.mp hy with rfl | hy
      · exact ⟨x, List.mem_cons_self, hx⟩
      · obtain ⟨w, hw, hwy⟩ := ih hy
        exact ⟨w, List.mem_cons_of_mem x hw, hwy⟩

theorem exists_mem_of_mem_mapM (h : xs.mapM f = some ys) {x : α} (hx : x ∈ xs) :
    ∃ y ∈ ys, f x = some y := by
  have hall := mapM_eq_some_iff.mp h
  clear h
  induction hall with
  | nil => cases hx
  | @cons z y _ _ hz _ ih =>
      rcases List.mem_cons.mp hx with rfl | hx
      · exact ⟨y, List.mem_cons_self, hz⟩
      · obtain ⟨w, hw, hxw⟩ := ih hx
        exact ⟨w, List.mem_cons_of_mem y hw, hxw⟩

theorem map_eq_of_mapM (h : xs.mapM f = some ys) {g : β → γ} {k : α → γ}
    (hf : ∀ x y, f x = some y → g y = k x) : ys.map g = xs.map k := by
  have hall := mapM_eq_some_iff.mp h
  clear h
  induction hall with
  | nil => rfl
  | @cons x y _ _ hx _ ih => rw [List.map_cons, List.map_cons, ih, hf x y hx]

theorem exists_mapM_eq_some (h : ∀ x ∈ xs, ∃ y, f x = some y) : ∃ ys, xs.mapM f = some ys := by
  induction xs with
  | nil => exact ⟨[], rfl⟩
  | cons x xs ih =>
      obtain ⟨y, hy⟩ := h x List.mem_cons_self
      obtain ⟨ys, hys⟩ := ih fun z hz => h z (List.mem_cons_of_mem x hz)
      exact ⟨y :: ys, mapM_eq_some_iff.mpr (.cons hy (mapM_eq_some_iff.mp hys))⟩

end

/-! ## Tokens -/

/-- A key stands without quotes where it can. -/
def keyToken (key : String) : Token := if Name.isPropertyName key then .word key else .quoted key

structure WrittenProperty where
  key : String
  isReadonly : Bool
  isOptional : Bool
  type : List Token

namespace WrittenProperty

def head (p : WrittenProperty) : List Token :=
  (if p.isReadonly then [.word "readonly"] else []) ++
    (keyToken p.key :: (if p.isOptional then [.mark .question] else [])) ++ [.mark .colon]

def tokens (p : WrittenProperty) : List Token := p.head ++ (p.type ++ [.mark .semicolon])

def property? (p : WrittenProperty) : Option Property :=
  (readType? p.type).map fun type => ⟨p.key, type, p.isOptional⟩

end WrittenProperty

inductive WrittenStatement where
  | object (style : Style) (name : String) (properties : List WrittenProperty) (isOpen : Bool)
  | synonym (name : String) (type : List Token)
  /-- An enumeration with the names and the values of its members. -/
  | enumeration (name : String) (members : List (String × String))

def styleTokens : Style → String → List Token
  | .interface, name => [.word "interface", .word name, .mark .openBrace]
  | .type, name => [.word "type", .word name, .mark .equals, .mark .openBrace]

def enumMemberTokens (m : String × String) : List Token :=
  [.word m.1, .mark .equals, .quoted m.2]

namespace WrittenStatement

def bodyTokens (properties : List WrittenProperty) (isOpen : Bool) : List Token :=
  properties.flatMap WrittenProperty.tokens ++
    ((if isOpen then .mark .openBracket :: signatureTokens else []) ++ [.mark .closeBrace])

/-- The tokens of a statement, which may be exported. -/
def tokens (isExported : Bool) (s : WrittenStatement) : List Token :=
  (if isExported then [.word "export"] else []) ++
    match s with
    | object style name properties isOpen => styleTokens style name ++ bodyTokens properties isOpen
    | synonym name type => [.word "type", .word name, .mark .equals] ++ (type ++ [.mark .semicolon])
    | enumeration name members =>
      [.word "enum", .word name, .mark .openBrace] ++
        ([.mark .comma].intercalate (members.map enumMemberTokens) ++ [.mark .closeBrace])

def statement? : WrittenStatement → Option Statement
  | object _ name properties isOpen =>
    (properties.mapM WrittenProperty.property?).map fun ps => ⟨name, .object ps isOpen⟩
  | synonym name type => (readType? type).map fun type => ⟨name, .synonym type⟩
  | enumeration name members => some ⟨name, .enumeration (members.map Prod.snd)⟩

def name : WrittenStatement → String
  | object _ name .. | synonym name _ | enumeration name _ => name

theorem name_of_statement? {s : WrittenStatement} {statement : Statement}
    (h : s.statement? = some statement) : statement.name = s.name := by
  cases s with
  | object _ name properties isOpen =>
      obtain ⟨ps, -, rfl⟩ := Option.map_eq_some_iff.mp h
      rfl
  | synonym name type =>
      obtain ⟨t, -, rfl⟩ := Option.map_eq_some_iff.mp h
      rfl
  | enumeration name members =>
      obtain rfl := Option.some.inj h
      rfl

/-- Whether the types of a statement end where they are meant to, and an alias is not taken for
one of an object type. -/
def IsRegular : WrittenStatement → Prop
  | object _ _ properties isOpen =>
    (∀ p ∈ properties, .mark .semicolon ∉ p.type) ∧ (isOpen → properties ≠ [])
  | synonym _ type =>
    .mark .semicolon ∉ type ∧ type ≠ [] ∧
      ∀ us, type = .mark .openBrace :: us → us.head? = some (.mark .openBracket)
  | enumeration _ members => members ≠ []

end WrittenStatement

/-! ## Reading -/

namespace ModuleReading

theorem run_head (done : List Statement) (o : ObjectReading) (p : WrittenProperty) :
    run ⟨done, .properties o⟩ p.head = some ⟨done, .property o p.key p.isOptional .start⟩ := by
  obtain ⟨key, isReadonly, isOptional, type⟩ := p
  by_cases hkey : Name.isPropertyName key
  · by_cases hword : key = "readonly"
    · subst hword
      cases isReadonly <;> cases isOptional <;> simp only [WrittenProperty.head, keyToken, hkey] <;>
        rfl
    · have hstep : step ⟨done, .properties o⟩ (.word key) = some ⟨done, .key o key⟩ := by
        change some (goOn _ (if key = "readonly" then _ else _)) = _
        rw [if_neg hword]
        rfl
      cases isReadonly <;> cases isOptional <;>
        simp [WrittenProperty.head, keyToken, hkey, run_cons, hstep] <;> rfl
  · cases isReadonly <;> cases isOptional <;> simp only [WrittenProperty.head, keyToken, hkey] <;>
      rfl

theorem run_written_property {p : WrittenProperty} (hp : .mark .semicolon ∉ p.type)
    (done : List Statement) (o : ObjectReading) :
    run ⟨done, .properties o⟩ p.tokens =
      p.property?.map fun property => ⟨done, .properties (o.push property)⟩ := by
  rw [WrittenProperty.tokens, run_append, run_head, Option.bind_some, run_property_semicolon hp,
    WrittenProperty.property?, Option.map_map]
  rfl

theorem run_written_properties {ps : List WrittenProperty}
    (hps : ∀ p ∈ ps, .mark .semicolon ∉ p.type) (done : List Statement) (o : ObjectReading) :
    run ⟨done, .properties o⟩ (ps.flatMap WrittenProperty.tokens) =
      (ps.mapM WrittenProperty.property?).map fun properties =>
        ⟨done, .properties { o with properties := properties.reverse ++ o.properties }⟩ := by
  induction ps generalizing o with
  | nil => rfl
  | cons p ps ih =>
      have hp := hps p List.mem_cons_self
      have ih := ih fun q hq => hps q (List.mem_cons_of_mem p hq)
      rw [List.flatMap_cons, run_append, run_written_property hp, List.mapM_cons]
      cases p.property? with
      | none => rfl
      | some property =>
          rw [Option.map_some, Option.bind_some, ih]
          cases ps.mapM WrittenProperty.property? with
          | none => rfl
          | some properties => simp [ObjectReading.push]

/-- What follows the last property ends the object type. -/
theorem run_bodyTokens {ps : List WrittenProperty} (hps : ∀ p ∈ ps, .mark .semicolon ∉ p.type)
    (done : List Statement) (name : String) (isOpen : Bool) :
    run ⟨done, .properties ⟨name, [], false⟩⟩ (WrittenStatement.bodyTokens ps isOpen) =
      (ps.mapM WrittenProperty.property?).map fun properties =>
        ⟨⟨name, .object properties isOpen⟩ :: done, .statement⟩ := by
  rw [WrittenStatement.bodyTokens, run_append, run_written_properties hps]
  cases ps.mapM WrittenProperty.property? with
  | none => rfl
  | some properties =>
      have hend : ∀ o : ObjectReading, o.isOpen = false →
          run ⟨done, .properties o⟩
            ((if isOpen then .mark .openBracket :: signatureTokens else []) ++ [.mark .closeBrace]) =
          some ⟨⟨o.name, .object o.properties.reverse isOpen⟩ :: done, .statement⟩ := by
        intro o ho
        cases isOpen
        · change some (finish _ _) = _
          rw [finish, ObjectReading.statement, ho]
        · rfl
      rw [Option.map_some, Option.bind_some, hend _ rfl, List.append_nil, List.reverse_reverse]
      rfl

/-- A brace behind an equals sign begins an object type if no bracket follows. -/
theorem run_braced {ts : List Token} (hne : ts ≠ []) (hts : ts.head? ≠ some (.mark .openBracket))
    (done : List Statement) (name : String) :
    run ⟨done, .braced name⟩ ts = run ⟨done, .properties ⟨name, [], false⟩⟩ ts := by
  match ts with
  | [] => exact absurd rfl hne
  | t :: ts =>
    have hstep : step ⟨done, .braced name⟩ t = step ⟨done, .properties ⟨name, [], false⟩⟩ t := by
      change stepBraced _ name t = stepProperties _ _ t
      rw [stepBraced, if_neg fun h => hts (by rw [List.head?_cons, h])]
      rfl
    rw [run_cons, run_cons, hstep]

theorem bodyTokens_ne_nil (ps : List WrittenProperty) (isOpen : Bool) :
    WrittenStatement.bodyTokens ps isOpen ≠ [] := by simp [WrittenStatement.bodyTokens]

theorem head?_bodyTokens {ps : List WrittenProperty} {isOpen : Bool} (h : isOpen → ps ≠ []) :
    (WrittenStatement.bodyTokens ps isOpen).head? ≠ some (.mark .openBracket) := by
  match ps with
  | [] =>
    have hclosed : isOpen = false := by
      cases isOpen
      · rfl
      · exact absurd rfl (h rfl)
    subst hclosed
    decide
  | p :: ps =>
    obtain ⟨key, isReadonly, isOptional, type⟩ := p
    have hkey : keyToken key ≠ .mark .openBracket := by
      rw [keyToken]
      split <;> exact nofun
    cases isReadonly <;>
      simp [WrittenStatement.bodyTokens, WrittenProperty.tokens, WrittenProperty.head, hkey]

theorem run_styleTokens {ts : List Token} (hne : ts ≠ [])
    (hts : ts.head? ≠ some (.mark .openBracket)) (done : List Statement) (style : Style)
    (name : String) :
    run ⟨done, .statement⟩ (styleTokens style name ++ ts) =
      run ⟨done, .properties ⟨name, [], false⟩⟩ ts := by
  cases style
  · rfl
  · exact run_braced hne hts done name

theorem run_enumMembers {members : List (String × String)} (hne : members ≠ [])
    (done : List Statement) (e : EnumReading) :
    run ⟨done, .enumMember e⟩
      ([.mark .comma].intercalate (members.map enumMemberTokens) ++ [.mark .closeBrace]) =
      some ⟨⟨e.name, .enumeration (e.values.reverse ++ members.map Prod.snd)⟩ :: done,
        .statement⟩ := by
  induction members generalizing e with
  | nil => exact absurd rfl hne
  | cons m ms ih =>
      match ms with
      | [] =>
        change some (finish _ (EnumReading.statement ⟨e.name, m.2 :: e.values⟩)) = _
        rw [finish, EnumReading.statement, List.reverse_cons]
        rfl
      | n :: ms =>
        have hrest := ih (List.cons_ne_nil n ms) { e with values := m.2 :: e.values }
        simp only [List.map_cons, List.intercalate_cons_cons] at hrest ⊢
        rw [List.append_assoc, List.append_assoc, run_append]
        have hmember : run ⟨done, .enumMember e⟩ (enumMemberTokens m) =
            some ⟨done, .enumNext { e with values := m.2 :: e.values }⟩ := rfl
        have hcomma : run ⟨done, .enumNext { e with values := m.2 :: e.values }⟩ [.mark .comma] =
            some ⟨done, .enumMember { e with values := m.2 :: e.values }⟩ := rfl
        rw [hmember, Option.bind_some, run_append, hcomma, Option.bind_some, hrest]
        simp

theorem run_exported {t : Token} (ht : t ≠ .word "export") (isExported : Bool)
    (done : List Statement) (ts : List Token) :
    run ⟨done, .statement⟩ ((if isExported then [.word "export"] else []) ++ t :: ts) =
      run ⟨done, .statement⟩ (t :: ts) := by
  have hstep : step ⟨done, .exported⟩ t = step ⟨done, .statement⟩ t := by
    change stepKeyword _ t = stepStatement _ t
    rw [stepStatement, if_neg ht]
    rfl
  cases isExported
  · rfl
  · change run ⟨done, .exported⟩ (t :: ts) = _
    rw [run_cons, run_cons, hstep]

/-- A statement is read from its tokens if its types can be read. -/
theorem run_written_statement {s : WrittenStatement} (hs : s.IsRegular) (isExported : Bool)
    (done : List Statement) :
    run ⟨done, .statement⟩ (s.tokens isExported) =
      s.statement?.map fun statement => ⟨statement :: done, .statement⟩ := by
  cases s with
  | object style name properties isOpen =>
      have hexport : run ⟨done, .statement⟩
          ((WrittenStatement.object style name properties isOpen).tokens isExported) =
          run ⟨done, .statement⟩
            (styleTokens style name ++ WrittenStatement.bodyTokens properties isOpen) := by
        cases style <;> exact run_exported (by decide) isExported done _
      rw [hexport, run_styleTokens (bodyTokens_ne_nil _ _) (head?_bodyTokens hs.2),
        run_bodyTokens hs.1, WrittenStatement.statement?, Option.map_map]
      rfl
  | synonym name type =>
      apply (run_exported (by decide) isExported done _).trans
      change run ⟨done, .aliased name⟩ (type ++ [.mark .semicolon]) = _
      rw [run_aliased hs.1 hs.2.1 hs.2.2, WrittenStatement.statement?, Option.map_map]
      rfl
  | enumeration name members =>
      apply (run_exported (by decide) isExported done _).trans
      exact run_enumMembers hs done ⟨name, []⟩

theorem run_written {ss : List WrittenStatement} (hss : ∀ s ∈ ss, s.IsRegular) (isExported : Bool)
    (done : List Statement) :
    run ⟨done, .statement⟩ (ss.flatMap (·.tokens isExported)) =
      (ss.mapM WrittenStatement.statement?).map fun statements =>
        ⟨statements.reverse ++ done, .statement⟩ := by
  induction ss generalizing done with
  | nil => rfl
  | cons s ss ih =>
      have hs := hss s List.mem_cons_self
      have ih := ih fun t ht => hss t (List.mem_cons_of_mem s ht)
      rw [List.flatMap_cons, run_append, run_written_statement hs, List.mapM_cons]
      cases s.statement? with
      | none => rfl
      | some statement =>
          rw [Option.map_some, Option.bind_some, ih]
          cases ss.mapM WrittenStatement.statement? with
          | none => rfl
          | some statements => simp

end ModuleReading

/-- A text with the tokens of some statements is read as these, if their types can be read. -/
theorem readModule?_of_spells {text : String} {ss : List WrittenStatement} {isExported : Bool}
    (hss : ∀ s ∈ ss, s.IsRegular)
    (h : Spells text.toList (ss.flatMap (·.tokens isExported))) :
    readModule? text = ss.mapM WrittenStatement.statement? := by
  rw [readModule?, h.tokens_eq, ModuleReading.start, ModuleReading.run_written hss]
  cases ss.mapM WrittenStatement.statement? with
  | none => rfl
  | some statements =>
      rw [Option.map_some, Option.bind_some, ModuleReading.result?, List.append_nil,
        List.reverse_reverse]

end TypeDraft.TypeScript
