import TypeDraft.Proofs.Json.Words
import TypeDraft.Proofs.Json.Writing
import TypeDraft.Proofs.Yaml.Nodes
import TypeDraft.Proofs.Yaml.Values

/-!
# JSON read as YAML

Where YAML reads a text of JSON whose strings and words it keeps, it has the value of the text.
-/

namespace TypeDraft.Yaml

/-- Whether the strings and the words of a text of JSON are the same in YAML. -/
def keepsText (cs : List Char) : Bool :=
  (Json.literals cs).all keepsString && (Json.words cs).all keepsWord

theorem eq_of_loadFirst {cs : List Char} {v w : Value} (hjson : Json.decode cs = .ok v)
    (hkeeps : keepsText cs = true) (h : loadFirst cs = .ok w) : w = v := by
  rw [keepsText, Bool.and_eq_true, List.all_eq_true, List.all_eq_true] at hkeeps
  obtain ⟨u, ls, g, hwrites, hstrict, hg, rfl, rfl, -⟩ := Json.exists_writes_of_decode hjson
  have hls := isReadable_of_writes hwrites hstrict
    ((hwrites.forall_literals hstrict hg).mp hkeeps.1)
  have hwords : Document.KeepsWords ls := fun l hl cs hcs =>
    (hwrites.forall_words hstrict hg).mp hkeeps.2 l hl cs (by rw [hcs]; rfl)
  obtain ⟨found, hfirst, h⟩ := bind_eq_ok.mp h
  obtain ⟨graph, root, rfl, hroot⟩ :=
    Document.represents_of_first hwrites hstrict hwords hls hg hfirst
  obtain ⟨⟨p, vs⟩, hnode, h⟩ := bind_eq_ok.mp h
  obtain ⟨hsound, hnone, hp⟩ := Values.isSound_of_ofNode hroot hnode
  exact Values.tree_eq hsound hnone hroot hp w h

end TypeDraft.Yaml
