import TypeDraft.Proofs.Json.Lexemes
import TypeDraft.Proofs.Schema.IsoText
import TypeDraft.Proofs.Schema.Pattern
import TypeDraft.Proofs.Text.Trim

/-!
# The forms that patterns stand for

Strings share the first pattern whose form each of them has as a whole. Behind an e-mail address or
a UUID there may be one line feed, which is no part of the form.
-/

namespace TypeDraft.StringPattern

/-! ## The forms -/

/-- Two parts with one at sign between them and without blanks; in the second one there is a dot with
something on both sides. -/
structure IsEmailText (cs : List Char) : Prop where
  noBlank : ∀ c ∈ cs, Text.isBlank c = false
  oneAt : cs.count '@' = 1
  parts : ∃ mailbox host domain : List Char, mailbox ≠ [] ∧ host ≠ [] ∧ domain ≠ [] ∧
    cs = mailbox ++ '@' :: (host ++ '.' :: domain)

def IsHexDigit (c : Char) : Prop :=
  '0' ≤ c ∧ c ≤ '9' ∨ 'a' ≤ c ∧ c ≤ 'f' ∨ 'A' ≤ c ∧ c ≤ 'F'

/-- A group of `n` hexadecimal digits. -/
def IsHexGroup (n : Nat) (cs : List Char) : Prop := cs.length = n ∧ ∀ c ∈ cs, IsHexDigit c

/-- Five groups of hexadecimal digits with dashes between them, the third one behind a version and
the fourth one behind a variant. -/
def IsUuidText (cs : List Char) : Prop :=
  ∃ g₁ g₂ version g₃ variant g₄ g₅,
    IsHexGroup 8 g₁ ∧ IsHexGroup 4 g₂ ∧ IsHexGroup 3 g₃ ∧ IsHexGroup 3 g₄ ∧ IsHexGroup 12 g₅ ∧
    ('1' ≤ version ∧ version ≤ '5') ∧ variant ∈ ['8', '9', 'a', 'b', 'A', 'B'] ∧
    cs = g₁ ++ '-' :: (g₂ ++ '-' :: version :: (g₃ ++ '-' :: variant :: (g₄ ++ '-' :: g₅)))

/-- A date or date-time whose parts say when something is. -/
def IsDateText (cs : List Char) : Prop := ∃ t : IsoText, cs = t.chars ∧ ∃ m, t.moment = .ok m

/-- A scheme, a character that is no line feed, and anything behind it. -/
def IsUrlText (cs : List Char) : Prop :=
  ∃ scheme ∈ ["http://", "https://"], ∃ c rest, c ≠ '\n' ∧ cs = scheme.toList ++ c :: rest

/-- The form that a pattern stands for. -/
def IsTextOf : StringPattern → List Char → Prop
  | email => IsEmailText
  | uuid => IsUuidText
  | date => IsDateText
  | url => IsUrlText

/-! ## E-mail addresses -/

theorem mem_inner_iff {c : Char} {cs : List Char} :
    c ∈ (cs.drop 1).dropLast ↔ ∃ before behind, before ≠ [] ∧ behind ≠ [] ∧
      cs = before ++ c :: behind := by
  constructor
  · intro hc
    cases cs with
    | nil => cases hc
    | cons d ds =>
        rw [List.drop_one, List.tail_cons] at hc
        obtain ⟨before, behind, hsplit⟩ := List.append_of_mem hc
        have hne : ds ≠ [] := by
          rintro rfl
          cases hc
        refine ⟨d :: before, behind ++ [ds.getLast hne], nofun, by simp, ?_⟩
        calc d :: ds = d :: (ds.dropLast ++ [ds.getLast hne]) := by rw [List.dropLast_append_getLast]
          _ = d :: before ++ c :: (behind ++ [ds.getLast hne]) := by simp [hsplit]
  · rintro ⟨_ | ⟨d, before⟩, behind, hbefore, hbehind, rfl⟩
    · exact absurd rfl hbefore
    · simp [List.dropLast_append_of_ne_nil, List.dropLast_cons_of_ne_nil hbehind]

theorem isAddressChar_iff {c : Char} :
    isAddressChar c = true ↔ Text.isBlank c = false ∧ c ≠ '@' := by
  simp [isAddressChar]

theorem isEmail_iff {s : String} :
    isEmail s = true ↔ IsEmailText (Text.withoutFinalBreak s.toList) := by
  rw [isEmail]
  generalize Text.withoutFinalBreak s.toList = cs
  constructor
  · intro h
    split at h
    · rename_i host hhost
      simp only [Bool.and_eq_true, Bool.not_eq_true', List.isEmpty_eq_false_iff, List.all_eq_true,
        List.contains_iff_mem] at h
      obtain ⟨⟨hmailbox, hhostChars⟩, hdot⟩ := h
      obtain ⟨before, behind, hbefore, hbehind, hsplit⟩ := mem_inner_iff.mp hdot
      have hcs : cs = cs.takeWhile isAddressChar ++ '@' :: host := by
        rw [← hhost, List.takeWhile_append_dropWhile]
      have hmailboxChars : ∀ c ∈ cs.takeWhile isAddressChar, isAddressChar c = true :=
        List.all_eq_true.mp List.all_takeWhile
      have hcount : ∀ part : List Char, (∀ c ∈ part, isAddressChar c = true) → part.count '@' = 0 :=
        fun part hpart => List.count_eq_zero.mpr fun hat => (isAddressChar_iff.mp (hpart _ hat)).2 rfl
      refine ⟨fun c hc => ?_, ?_, _, before, behind, hmailbox, hbefore, hbehind, hsplit ▸ hcs⟩
      · rw [hcs, List.mem_append, List.mem_cons] at hc
        rcases hc with hc | rfl | hc
        · exact (isAddressChar_iff.mp (hmailboxChars c hc)).1
        · decide
        · exact (isAddressChar_iff.mp (hhostChars c hc)).1
      · rw [hcs, List.count_append, List.count_cons_self, hcount _ hmailboxChars,
          hcount _ hhostChars]
    · cases h
  · rintro ⟨hblank, hat, mailbox, host, domain, hmailbox, hhost, hdomain, rfl⟩
    rw [List.count_append, List.count_cons_self] at hat
    have hmailboxAt : '@' ∉ mailbox := List.count_eq_zero.mp (by omega)
    have hhostAt : '@' ∉ host ++ '.' :: domain := List.count_eq_zero.mp (by omega)
    have hmailboxChars : ∀ c ∈ mailbox, isAddressChar c = true := fun c hc =>
      isAddressChar_iff.mpr ⟨hblank c (by simp [hc]), fun h => hmailboxAt (h ▸ hc)⟩
    have hhostChars : ∀ c ∈ host ++ '.' :: domain, isAddressChar c = true := fun c hc =>
      isAddressChar_iff.mpr ⟨hblank c (List.mem_append_right _ (List.mem_cons_of_mem _ hc)),
        fun h => hhostAt (h ▸ hc)⟩
    have hhead : ∀ c ∈ ('@' :: (host ++ '.' :: domain)).head?, isAddressChar c = false := by
      rintro c ⟨⟩
      decide
    have hdot : '.' ∈ ((host ++ '.' :: domain).drop 1).dropLast :=
      mem_inner_iff.mpr ⟨host, domain, hhost, hdomain, rfl⟩
    rw [Json.takeWhile_append_of_head hmailboxChars hhead,
      Json.dropWhile_append_of_head hmailboxChars hhead]
    simp only [Bool.and_eq_true, Bool.not_eq_true', List.isEmpty_eq_false_iff, List.all_eq_true,
      List.contains_iff_mem]
    exact ⟨⟨hmailbox, hhostChars⟩, hdot⟩

/-! ## UUIDs -/

theorem isHex_iff {c : Char} : isHex c = true ↔ IsHexDigit c := by
  rw [isHex, Numeral.hexValue?, IsHexDigit]
  split
  · exact iff_of_true rfl (.inl ‹_›)
  split
  · exact iff_of_true rfl (.inr (.inl ‹_›))
  split
  · exact iff_of_true rfl (.inr (.inr ‹_›))
  · refine iff_of_false Bool.false_ne_true ?_
    rintro (h | h | h) <;> contradiction

section

variable {test : Char → Bool} {form form' : List (Char → Bool)} {cs : List Char}

theorem fits_cons_iff : fits (test :: form) cs = true ↔
    ∃ c rest, cs = c :: rest ∧ test c = true ∧ fits form rest = true := by
  cases cs with
  | nil => simp [fits]
  | cons c rest => simp [fits, and_left_comm]

theorem fits_append_iff : fits (form ++ form') cs = true ↔
    ∃ before rest, cs = before ++ rest ∧ fits form before = true ∧ fits form' rest = true := by
  induction form generalizing cs with
  | nil =>
      constructor
      · intro h
        exact ⟨[], cs, rfl, rfl, h⟩
      · rintro ⟨_ | ⟨c, before⟩, rest, rfl, hnil, h⟩
        · exact h
        · simp [fits] at hnil
  | cons test form ih =>
      rw [List.cons_append, fits_cons_iff]
      constructor
      · rintro ⟨c, rest, rfl, hc, h⟩
        obtain ⟨before, rest', rfl, hbefore, hrest⟩ := ih.mp h
        exact ⟨c :: before, rest', rfl, fits_cons_iff.mpr ⟨c, before, rfl, hc, hbefore⟩, hrest⟩
      · rintro ⟨before, rest, rfl, hbefore, hrest⟩
        obtain ⟨c, before, rfl, hc, hbefore⟩ := fits_cons_iff.mp hbefore
        exact ⟨c, before ++ rest, rfl, hc, ih.mpr ⟨before, rest, rfl, hbefore, hrest⟩⟩

end

theorem fits_replicate_isHex_iff {n : Nat} {cs : List Char} :
    fits (List.replicate n isHex) cs = true ↔ IsHexGroup n cs := by
  induction n generalizing cs with
  | zero =>
      cases cs <;> simp [fits, IsHexGroup]
  | succ n ih =>
      rw [List.replicate_succ, fits_cons_iff]
      cases cs with
      | nil => simp [IsHexGroup]
      | cons c cs => simp [IsHexGroup, ih, isHex_iff, and_left_comm]

/-- A group is read up to the character behind it. -/
theorem fits_group_iff {n : Nat} {test : Char → Bool} {form : List (Char → Bool)} {cs : List Char} :
    fits (List.replicate n isHex ++ test :: form) cs = true ↔
      ∃ group c rest, IsHexGroup n group ∧ test c = true ∧ fits form rest = true ∧
        cs = group ++ c :: rest := by
  rw [fits_append_iff]
  constructor
  · rintro ⟨group, _, rfl, hgroup, hrest⟩
    obtain ⟨c, rest, rfl, hc, hrest⟩ := fits_cons_iff.mp hrest
    exact ⟨group, c, rest, fits_replicate_isHex_iff.mp hgroup, hc, hrest, rfl⟩
  · rintro ⟨group, c, rest, hgroup, hc, hrest, rfl⟩
    exact ⟨group, c :: rest, rfl, fits_replicate_isHex_iff.mpr hgroup,
      fits_cons_iff.mpr ⟨c, rest, rfl, hc, hrest⟩⟩

theorem isUuid_iff {s : String} :
    isUuid s = true ↔ IsUuidText (Text.withoutFinalBreak s.toList) := by
  rw [isUuid, uuidForm]
  simp only [List.append_assoc, List.cons_append, fits_group_iff, fits_cons_iff,
    fits_replicate_isHex_iff, beq_iff_eq, Bool.and_eq_true, decide_eq_true_eq,
    List.contains_iff_mem]
  constructor
  · rintro ⟨g₁, _, _, h₁, rfl, ⟨g₂, _, _, h₂, rfl, ⟨version, _, rfl, hversion,
      g₃, _, _, h₃, rfl, ⟨variant, _, rfl, hvariant, g₄, _, g₅, h₄, rfl, h₅, rfl⟩, rfl⟩, rfl⟩, hcs⟩
    exact ⟨g₁, g₂, version, g₃, variant, g₄, g₅, h₁, h₂, h₃, h₄, h₅, hversion, hvariant, hcs⟩
  · rintro ⟨g₁, g₂, version, g₃, variant, g₄, g₅, h₁, h₂, h₃, h₄, h₅, hversion, hvariant, hcs⟩
    exact ⟨g₁, _, _, h₁, rfl, ⟨g₂, _, _, h₂, rfl, ⟨version, _, rfl, hversion,
      g₃, _, _, h₃, rfl, ⟨variant, _, rfl, hvariant, g₄, _, g₅, h₄, rfl, h₅, rfl⟩, rfl⟩, rfl⟩, hcs⟩

/-! ## Web addresses -/

theorem eq_append_of_isPrefixOf {scheme cs behind : List Char} (h : scheme.isPrefixOf cs = true)
    (hdrop : cs.drop scheme.length = behind) : cs = scheme ++ behind := by
  obtain ⟨rest, rfl⟩ := List.isPrefixOf_iff_prefix.mp h
  rw [← hdrop, List.drop_left]

theorem isUrl_iff {s : String} : isUrl s = true ↔ IsUrlText s.toList := by
  obtain ⟨hplain, hsecure⟩ : "http://".toList = ['h', 't', 't', 'p', ':', '/', '/'] ∧
      "https://".toList = ['h', 't', 't', 'p', 's', ':', '/', '/'] := by decide
  rw [isUrl, hplain, hsecure]
  constructor
  · intro h
    split at h
    · cases h
    · rename_i c rest hrest
      have hc : c ≠ '\n' := by simpa using h
      split at hrest
      · refine ⟨"http://", List.mem_cons_self, c, rest, hc, ?_⟩
        exact hplain ▸ eq_append_of_isPrefixOf ‹_› hrest
      split at hrest
      · refine ⟨"https://", List.mem_cons_of_mem _ List.mem_cons_self, c, rest, hc, ?_⟩
        exact hsecure ▸ eq_append_of_isPrefixOf ‹_› hrest
      · cases hrest
  · rintro ⟨scheme, hscheme, c, rest, hc, hchars⟩
    rw [List.mem_cons, List.mem_singleton] at hscheme
    rcases hscheme with rfl | rfl
    · simp [hchars, hplain, hc]
    · simp [hchars, hsecure, hc]

/-! ## What strings share -/

/-- Whether a pattern stands for the form of a string as a whole. Behind an e-mail address and a UUID
a line feed is let pass. -/
def Describes (p : StringPattern) (s : String) : Prop :=
  p.IsTextOf s.toList ∨
    (p = email ∨ p = uuid) ∧ ∃ cs, p.IsTextOf cs ∧ s.toList = cs ++ ['\n']

theorem IsEmailText.getLast?_ne {cs : List Char} (h : IsEmailText cs) :
    cs.getLast? ≠ some '\n' := fun hlast =>
  absurd (h.noBlank '\n' (List.mem_of_getLast? hlast)) (by decide)

theorem IsUuidText.getLast?_ne {cs : List Char} (h : IsUuidText cs) :
    cs.getLast? ≠ some '\n' := by
  obtain ⟨g₁, g₂, version, g₃, variant, g₄, g₅, -, -, -, -, ⟨hlength, hdigits⟩, -, -, rfl⟩ := h
  have hne : g₅ ≠ [] := List.length_pos_iff.mp (by omega)
  have hlast : g₁ ++ '-' :: (g₂ ++ '-' :: version :: (g₃ ++ '-' :: variant :: (g₄ ++ '-' :: g₅))) =
      (g₁ ++ '-' :: (g₂ ++ '-' :: version :: (g₃ ++ '-' :: variant :: (g₄ ++ ['-'])))) ++ g₅ := by
    simp
  rw [hlast, List.getLast?_append_of_ne_nil _ hne]
  intro hbreak
  have hdigit := hdigits '\n' (List.mem_of_getLast? hbreak)
  rw [IsHexDigit] at hdigit
  exact absurd hdigit (by decide)

theorem fitsPattern_iff {p : StringPattern} {s : String} :
    p.fitsPattern s = true ↔ p.Describes s := by
  cases p with
  | email =>
      rw [fitsPattern, isEmail_iff, Text.withoutFinalBreak_iff fun _ => IsEmailText.getLast?_ne]
      simp [Describes, IsTextOf]
  | uuid =>
      rw [fitsPattern, isUuid_iff, Text.withoutFinalBreak_iff fun _ => IsUuidText.getLast?_ne]
      simp [Describes, IsTextOf]
  | date =>
      rw [fitsPattern, isIsoDate_iff]
      simp [Describes, IsTextOf, IsDateText]
  | url =>
      rw [fitsPattern, isUrl_iff]
      simp [Describes, IsTextOf]

/-- The pattern of some strings is the first one that describes every one of them, and there is none
just if no pattern does. -/
theorem shared?_describes_strings {strings : List String} (hne : strings ≠ []) :
    (∀ p, shared? strings = some p ↔
      ∃ before behind, [email, uuid, date, url] = before ++ p :: behind ∧
        (∀ s ∈ strings, p.Describes s) ∧ ∀ q ∈ before, ∃ s ∈ strings, ¬ q.Describes s) ∧
    (shared? strings = none ↔ ∀ p : StringPattern, ∃ s ∈ strings, ¬ p.Describes s) := by
  have hfind : shared? strings =
      [email, uuid, date, url].find? fun p => strings.all p.fitsPattern := by
    rw [shared?, if_neg (by simpa using hne)]
    rfl
  have hall : ∀ p : StringPattern,
      strings.all p.fitsPattern = true ↔ ∀ s ∈ strings, p.Describes s := by
    intro p
    simp only [List.all_eq_true, fitsPattern_iff]
  have hnot : ∀ p : StringPattern,
      ¬ strings.all p.fitsPattern = true ↔ ∃ s ∈ strings, ¬ p.Describes s := by
    intro p
    rw [hall]
    push Not
    rfl
  rw [hfind]
  constructor
  · intro p
    rw [List.find?_eq_some_iff_append]
    simp only [hall, Bool.not_eq_true', Bool.eq_false_iff, hnot]
    constructor
    · rintro ⟨hp, before, behind, hsplit, hbefore⟩
      exact ⟨before, behind, hsplit, hp, hbefore⟩
    · rintro ⟨before, behind, hsplit, hp, hbefore⟩
      exact ⟨hp, before, behind, hsplit, hbefore⟩
  · rw [List.find?_eq_none]
    exact ⟨fun h p => (hnot p).mp (h p (mem_all p)), fun h p _ => (hnot p).mpr (h p)⟩

theorem shared?_describes_strings_dates :
    date.Describes "2024-02-29" ∧ date.Describes "2024-01-15 10:30:00.123+02:00" := by
  have hshared : shared? ["2024-02-29", "2024-01-15 10:30:00.123+02:00"] = some date := rfl
  obtain ⟨-, -, -, hdates, -⟩ := ((shared?_describes_strings (by decide)).1 date).mp hshared
  exact ⟨hdates _ List.mem_cons_self, hdates _ (List.mem_cons_of_mem _ List.mem_cons_self)⟩

/-- The line feed behind an address is a blank, and still the text is taken for an address. -/
theorem shared?_ignores_final_break :
    shared? ["a@b.c\n"] = some email ∧ ¬ IsTextOf email "a@b.c\n".toList := by
  refine ⟨rfl, fun h => ?_⟩
  exact absurd (IsEmailText.noBlank h '\n' (by decide)) (by decide)

end TypeDraft.StringPattern
