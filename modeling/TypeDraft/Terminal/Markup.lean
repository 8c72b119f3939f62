import TypeDraft.Terminal.Emoji

/-!
# Marked-up text

Text for a terminal may hold tags in brackets, such as a colour and its end. A tag starts with a
letter, a slash, a hash or an at sign; a backslash before it takes it as it stands. On a terminal
without colours only the text between the tags shows, with emoji for their names between colons.
-/

namespace TypeDraft.Terminal.Markup

/-- Whether a character may follow the bracket that opens a tag. -/
def startsTag (c : Char) : Bool :=
  ('a' ≤ c && c ≤ 'z') || c == '#' || c == '/' || c == '@'

private def isInner (c : Char) : Bool := c != ']' && c != '['

/-- The tag at the head of a text and what follows it; it ends at the first closing bracket. -/
def tag? : List Char → Option (List Char × List Char)
  | '[' :: c :: cs =>
    if startsTag c then
      match cs.dropWhile isInner with
      | ']' :: rest => some ('[' :: c :: cs.takeWhile isInner ++ [']'], rest)
      | _ => none
    else none
  | _ => none

/-- A piece of a text: a tag with the number of backslashes before it, or a character. -/
inductive Piece where
  | char (c : Char)
  | tag (backslashes : Nat) (text : List Char)

theorem tag?_length {cs tag rest : List Char} (h : tag? cs = some (tag, rest)) :
    rest.length < cs.length := by
  unfold tag? at h
  split at h
  · rename_i c ds
    split at h
    · split at h
      · rename_i hd
        cases h
        have : (ds.dropWhile isInner).length ≤ ds.length := (List.dropWhile_suffix _).length_le
        rw [hd] at this
        simp at this ⊢
        omega
      · cases h
    · cases h
  · cases h

/-- The pieces of a text, the last first. -/
def piecesFrom (found : List Piece) (cs : List Char) : List Piece :=
  match _hc : cs with
  | [] => found
  | c :: rest =>
    let backslashes := cs.takeWhile (· == '\\')
    match _h : tag? (cs.dropWhile (· == '\\')) with
    | some (tag, rest) => piecesFrom (.tag backslashes.length tag :: found) rest
    | none => piecesFrom (.char c :: found) rest
termination_by cs.length
decreasing_by
  · have := tag?_length _h
    have : (cs.dropWhile (· == '\\')).length ≤ cs.length :=
      (List.dropWhile_suffix _).length_le
    simp only [_hc] at *
    omega
  · simp

def pieces (cs : List Char) : List Piece := (piecesFrom [] cs).reverse

private def escapePiece : Piece → List Char
  | .char c => [c]
  | .tag n text => List.replicate (2 * n + 1) '\\' ++ text

/-- Whether a text ends in a backslash that stands alone. -/
private def endsInBackslash (cs : List Char) : Bool :=
  match cs.reverse with
  | '\\' :: '\\' :: _ => false
  | '\\' :: _ => true
  | _ => false

/-- The markup that shows a text as it stands: every backslash before a tag is doubled and one more
is put there. -/
def escape (s : String) : String :=
  let cs := (pieces s.toList).flatMap escapePiece
  String.ofList (if endsInBackslash cs then cs ++ ['\\'] else cs)

/-- Where neither a backslash nor a tag stands, each character is a piece. -/
theorem piecesFrom_of_untagged {cs : List Char} (hslash : '\\' ∉ cs)
    (htag : ∀ tail, tail <:+ cs → tag? tail = none) (found : List Piece) :
    piecesFrom found cs = (cs.map Piece.char).reverse ++ found := by
  induction cs generalizing found with
  | nil =>
      rw [piecesFrom]
      rfl
  | cons c cs ih =>
      obtain ⟨hc, hcs⟩ := not_or.mp (mt List.mem_cons.mpr hslash)
      have hnone : tag? ((c :: cs).dropWhile (· == '\\')) = none := by
        rw [List.dropWhile_cons_of_neg (by simpa using Ne.symm hc)]
        exact htag (c :: cs) (List.suffix_refl _)
      rw [piecesFrom]
      split
      · rename_i htagged
        cases hnone.symm.trans htagged
      · rw [ih hcs fun tail htail => htag tail (htail.trans (List.suffix_cons c cs)), List.map_cons,
          List.reverse_cons, List.append_assoc, List.singleton_append]

/-- A text that holds neither a backslash nor a tag is shown as it stands. -/
theorem escape_eq_self {s : String} (hslash : '\\' ∉ s.toList)
    (htag : ∀ tail, tail <:+ s.toList → tag? tail = none) : escape s = s := by
  have hpieces : (pieces s.toList).flatMap escapePiece = s.toList := by
    rw [pieces, piecesFrom_of_untagged hslash htag, List.append_nil, List.reverse_reverse,
      List.flatMap_map]
    exact List.flatMap_singleton' s.toList
  have hends : endsInBackslash s.toList = false := by
    rw [endsInBackslash]
    split
    · rfl
    · rename_i rest _ heq
      exact absurd (List.mem_reverse.mp (heq ▸ List.mem_cons_self)) hslash
    · rfl
  rw [escape, hpieces, hends]
  exact String.ofList_toList

/-- Takes the backslashes away that stand before an opening bracket, one each. -/
private def openBrackets (found : List Char) : List Char → List Char
  | '\\' :: '[' :: cs => openBrackets ('[' :: found) cs
  | c :: cs => openBrackets (c :: found) cs
  | [] => found.reverse

/-- What shows of the characters between two tags, the last first. -/
private def showPlain (plain : List Char) : List Char :=
  Emoji.replace (openBrackets [] plain.reverse)

/-- What shows of some pieces; `plain` holds the characters since the last tag, the last first. -/
private def showFrom (shown plain : List Char) : List Piece → List Char
  | [] => shown ++ showPlain plain
  | .char c :: ps => showFrom shown (c :: plain) ps
  | .tag n text :: ps =>
    showFrom (shown ++ showPlain plain ++ List.replicate (n / 2) '\\' ++
      if n % 2 = 1 then Emoji.replace text else []) [] ps

/-- What shows of a marked-up text. -/
def plain (s : String) : String :=
  let cs := s.toList
  String.ofList (if cs.contains '[' then showFrom [] [] (pieces cs) else Emoji.replace cs)

end TypeDraft.Terminal.Markup
