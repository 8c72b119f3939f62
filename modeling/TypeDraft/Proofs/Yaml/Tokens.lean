import TypeDraft.Proofs.Json.Atoms
import TypeDraft.Proofs.Yaml.Scanning

/-!
# The tokens of JSON in YAML

A text of JSON has a token of YAML for each mark, string and word, and three for each key and its
colon; a key whose colon comes too late is a string before a colon of its own.
-/

namespace TypeDraft.Yaml

open Json (IsGap Lexeme Mark Role isWordPart textOf)

/-! ## Tokens of lexemes -/

/-- The string that a text inside quotes stands for. -/
def contents (body : List Char) : String :=
  match Json.readString [] [] (body ++ ['"']) with
  | .ok (s, _) => s
  | .error _ => ""

theorem contents_of_escapes {body : List Char} {s : String} (h : Json.Escapes body s) :
    contents body = s := by
  rw [contents, Json.readString_append h]

/-- Whether a colon `n` characters on comes too late for a key that begins here. -/
def comesLate (c : Cursor) (n : Nat) : Bool :=
  c.line != (c.advance n).line || 1024 < (c.advance n).index - c.index

/-- The tokens of YAML for one of JSON that begins at a cursor. -/
def tokensOf (c : Cursor) : Json.Token → List Token
  | .mark m => [markToken m]
  | .key _ body gap =>
    if comesLate c (body.length + 2 + gap.length) then [.scalar (contents body) false, .value]
    else [.key, .scalar (contents body) false, .value]
  | .string _ _ body => [.scalar (contents body) false]
  | .word cs => [.scalar (String.ofList cs) true]

/-- The tokens of YAML for lexemes, the first of which begins with its gap at a cursor. -/
def tokensFrom : Cursor → List Lexeme → List Token
  | _, [] => []
  | c, l :: ls => tokensOf (c.advance l.gap.length) l.token ++ tokensFrom (c.advance l.text.length) ls

@[simp] theorem tokensFrom_nil (c : Cursor) : tokensFrom c [] = [] := rfl

theorem tokensFrom_cons (c : Cursor) (l : Lexeme) (ls : List Lexeme) :
    tokensFrom c (l :: ls) =
      tokensOf (c.advance l.gap.length) l.token ++ tokensFrom (c.advance l.text.length) ls := rfl

theorem tokensFrom_append (c : Cursor) (ls ms : List Lexeme) :
    tokensFrom c (ls ++ ms) =
      tokensFrom c ls ++ tokensFrom (c.advance (textOf ls).length) ms := by
  induction ls generalizing c with
  | nil => rfl
  | cons l ls ih =>
      rw [List.cons_append, tokensFrom_cons, tokensFrom_cons, ih, Cursor.advance_advance,
        List.append_assoc, Json.textOf_cons, List.length_append]

/-! ## Lexemes that can be read -/

/-- Whether YAML reads a token of JSON for the same. -/
def IsKept : Json.Token → Prop
  | .mark _ => True
  | .key form body gap =>
    form = .quoted .double ∧ IsGap gap ∧ KeepsFrom [] body (contents body)
  | .string _ q body => q = .double ∧ KeepsFrom [] body (contents body)
  | .word cs => BeginsWord cs ∧ ∀ c ∈ cs, isWordPart c = true

/-- How many collections are open behind a token. -/
def levelAfter (level : Nat) : Role → Nat
  | .mark m => levelBehind level m
  | _ => level

/-- Whether a token stands in collections only. -/
def staysInside : Role → Bool
  | .mark .openArray | .mark .openObject | .string _ | .word => false
  | _ => true

/-- Whether lexemes stand as they may where some number of collections are open. -/
def Fits : Nat → List Lexeme → Prop
  | _, [] => True
  | level, l :: ls => (staysInside l.role = true → 0 < level) ∧ Fits (levelAfter level l.role) ls

structure IsReadable (level : Nat) (ls : List Lexeme) : Prop where
  gap : ∀ l ∈ ls, IsGap l.gap
  kept : ∀ l ∈ ls, IsKept l.token
  chain : ls.IsChain Lexeme.Precedes
  fits : Fits level ls

section

variable {level : Nat} {l : Lexeme} {ls : List Lexeme}

theorem IsReadable.tail (h : IsReadable level (l :: ls)) :
    IsReadable (levelAfter level l.role) ls where
  gap := (List.forall_mem_cons.mp h.gap).2
  kept := (List.forall_mem_cons.mp h.kept).2
  chain := h.chain.of_cons
  fits := h.fits.2

theorem IsReadable.precedes_head (h : IsReadable level (l :: ls)) :
    ∀ m ∈ ls.head?, l.role.precedes m.role = true := (List.isChain_cons.mp h.chain).1

/-- White space at the front may go. -/
theorem IsReadable.dropGap (h : IsReadable level (l :: ls)) (n : Nat) :
    IsReadable level (⟨l.gap.drop n, l.token⟩ :: ls) where
  gap := List.forall_mem_cons.mpr ⟨isGap_drop (h.gap l List.mem_cons_self) n, h.tail.gap⟩
  kept := List.forall_mem_cons.mpr ⟨h.kept l List.mem_cons_self, h.tail.kept⟩
  chain := List.isChain_cons.mpr ⟨h.precedes_head, h.tail.chain⟩
  fits := h.fits

theorem tokensFrom_dropGap {n : Nat} (hn : n ≤ l.gap.length) (c : Cursor) :
    tokensFrom (c.advance n) (⟨l.gap.drop n, l.token⟩ :: ls) = tokensFrom c (l :: ls) := by
  have hgap : n + (l.gap.drop n).length = l.gap.length := by
    rw [List.length_drop]
    omega
  simp only [tokensFrom_cons, Cursor.advance_advance, Lexeme.text, List.length_append,
    ← Nat.add_assoc, hgap]

theorem IsKept.isProper {t : Json.Token} (h : IsKept t) : t.IsProper := by
  cases t with
  | mark m => exact trivial
  | key form body gap =>
      obtain ⟨rfl, hgap, -⟩ := h
      exact ⟨hgap, trivial⟩
  | string setting q body => exact trivial
  | word cs =>
      refine ⟨?_, h.2⟩
      rintro rfl
      cases h.1

theorem IsKept.head_cases {t : Json.Token} (h : IsKept t) (rest : List Char) :
    ∀ d ∈ (t.text ++ rest).head?,
      (∃ m : Mark, d = m.char) ∨ d = '"' ∨ isWordPart d = true := by
  intro d hd
  cases t with
  | mark m => exact .inl ⟨m, (Option.some.inj hd).symm⟩
  | key form body gap =>
      obtain ⟨rfl, -⟩ := h
      exact .inr (.inl (Option.some.inj hd).symm)
  | string setting q body =>
      obtain ⟨rfl, -⟩ := h
      exact .inr (.inl (Option.some.inj hd).symm)
  | word cs =>
      obtain ⟨hbegins, hparts⟩ := h
      cases hbegins with
      | plain _ | minus _ =>
          obtain rfl := Option.some.inj hd
          exact .inr (.inr (hparts _ List.mem_cons_self))

theorem IsKept.beginsPlainly {t : Json.Token} (h : IsKept t) (rest : List Char) :
    BeginsPlainly (t.text ++ rest) := by
  intro d hd
  rcases h.head_cases rest d hd with ⟨m, rfl⟩ | rfl | hword
  · cases m <;> decide
  · decide
  · refine ⟨?_, not_isBreak_of_isWordPart hword, ne_of_isWordPart hword (by decide)⟩
    simp [Json.isSpace, ne_of_isWordPart hword (d := ' ') (by decide),
      ne_of_isWordPart hword (d := '\t') (by decide),
      ne_of_isWordPart hword (d := '\n') (by decide), ne_of_isWordPart hword (d := '\r') (by decide)]

theorem staysInside_of_followsValue {r : Role} (h : r.followsValue = true) :
    staysInside r = true := by
  cases r with
  | mark m => cases m <;> first | rfl | cases h
  | _ => cases h

theorem stopsPlain_of_followsValue {t : Json.Token} (h : t.role.followsValue = true)
    (rest : List Char) : stopsPlain true (t.text ++ rest) = true := by
  cases t with
  | mark m => cases m <;> simp [Json.Token.text, Mark.char, stopsPlain]
  | _ => cases h

end

/-! ## Lexemes of values -/

section

open Json (Escapes IsAtom IsStrict Setting Writes WritesFieldsAfter WritesItemsAfter)

variable {P : List Char → Value → Prop} {Q : List Char → String → Prop}

mutual

/-- The lexemes of a value may stand wherever those behind it may. -/
theorem fits_of_writes {s : Setting} {v : Value} {ls : List Lexeme} :
    Writes P Q s v ls → ∀ {level : Nat} {rest : List Lexeme}, Fits level rest →
    Fits level (ls ++ rest)
  | .word hg ha, level, rest, h => ⟨nofun, h⟩
  | .string hg hb, level, rest, h => ⟨nofun, h⟩
  | .emptyArray hg hg', level, rest, h => ⟨nofun, fun _ => level.succ_pos, h⟩
  | .array hg hv hvs, level, rest, h => by
    rw [List.cons_append, List.append_assoc]
    exact ⟨nofun, fits_of_writes hv (fits_of_writesItemsAfter hvs h)⟩
  | .emptyObject hg hg', level, rest, h => ⟨nofun, fun _ => level.succ_pos, h⟩
  | .object hg hg' hgap hform hk hv hfs, level, rest, h => by
    rw [List.cons_append, List.cons_append, List.append_assoc]
    exact ⟨nofun, fun _ => level.succ_pos, fits_of_writes hv (fits_of_writesFieldsAfter hfs h)⟩

theorem fits_of_writesItemsAfter {vs : List Value} {ms : List Lexeme} :
    WritesItemsAfter P Q vs ms → ∀ {level : Nat} {rest : List Lexeme}, Fits level rest →
    Fits (level + 1) (ms ++ rest)
  | .close hg, level, rest, h => ⟨fun _ => level.succ_pos, h⟩
  | .trailing hg hg', level, rest, h => ⟨fun _ => level.succ_pos, fun _ => level.succ_pos, h⟩
  | .next hg hv hvs, level, rest, h => by
    rw [List.cons_append, List.append_assoc]
    exact ⟨fun _ => level.succ_pos, fits_of_writes hv (fits_of_writesItemsAfter hvs h)⟩

theorem fits_of_writesFieldsAfter {fs : List (String × Value)} {ms : List Lexeme} :
    WritesFieldsAfter P Q fs ms → ∀ {level : Nat} {rest : List Lexeme}, Fits level rest →
    Fits (level + 1) (ms ++ rest)
  | .close hg, level, rest, h => ⟨fun _ => level.succ_pos, h⟩
  | .trailing hg hg', level, rest, h => ⟨fun _ => level.succ_pos, fun _ => level.succ_pos, h⟩
  | .next hg hg' hgap hform hk hv hfs, level, rest, h => by
    rw [List.cons_append, List.cons_append, List.append_assoc]
    exact ⟨fun _ => level.succ_pos, fun _ => level.succ_pos,
      fits_of_writes hv (fits_of_writesFieldsAfter hfs h)⟩

end

theorem beginsWord_of_isAtom {w : List Char} {v : Value} (h : IsAtom w v) : BeginsWord w := by
  cases h with
  | null | true | false | nan | infinity => exact .plain rfl
  | minusInfinity => exact .minus rfl
  | number h =>
      obtain ⟨hwhole, _, _, _⟩ := h
      next negative _ _ _ _ _ _ _ _ =>
      obtain ⟨d, ds, rfl, hd⟩ := hwhole.exists_cons
      have halphanum : d.isAlphanum = true := by simp [Char.isAlphanum, hd]
      cases negative with
      | true => exact .minus halphanum
      | false => exact .plain halphanum

/-- What JSON writes can be read, if its strings are kept. -/
theorem isReadable_of_writes {s : Setting} {v : Value} {ls : List Lexeme}
    (h : Writes IsAtom Escapes s v ls) (hstrict : IsStrict ls)
    (hstrings : ∀ l ∈ ls, ∀ body ∈ l.token.body?, keepsString body = true) : IsReadable 0 ls where
  gap l hl := ((h.isValueRun Json.atomsAreWords_isAtom).proper l hl).1
  kept l hl := by
    refine h.forall_token (P := fun t => t.IsStrict →
      (∀ body ∈ t.body?, keepsString body = true) → IsKept t) ⟨?_, ?_, ?_, ?_⟩ l hl (hstrict l hl)
      (hstrings l hl)
    · exact fun m _ _ => trivial
    · intro form body gap k hgap hk hform hkeeps
      rw [← contents_of_escapes hk] at hk
      exact ⟨hform, hgap, keepsFrom_of_keepsString hk (hkeeps body rfl)⟩
    · intro setting q body t ht hquote hkeeps
      rw [← contents_of_escapes ht] at ht
      exact ⟨hquote, keepsFrom_of_keepsString ht (hkeeps body rfl)⟩
    · intro w v hv _ _
      exact ⟨beginsWord_of_isAtom hv, (Json.atomsAreWords_isAtom w v hv).2⟩
  chain := (h.isValueRun Json.atomsAreWords_isAtom).chain
  fits := by
    rw [← List.append_nil ls]
    exact fits_of_writes h trivial

end

end TypeDraft.Yaml
