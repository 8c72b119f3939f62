import TypeDraft.Proofs.Json.Quoted
import TypeDraft.Proofs.TypeScript.Advanced.Fields

/-!
# Enumerations lose and confuse nothing

The enumeration of a field has one member for each different string seen in it. No two members share
a name, whatever the strings are, and the value of each is read back from its line.
-/

namespace TypeDraft.TypeScript.Advanced

/-- A member with a name that is fresh among those before never shares it. -/
theorem nodup_enumMembers (values : List String) : ((enumMembers values).map Prod.fst).Nodup := by
  induction values using List.reverseRecOn with
  | nil => exact List.nodup_nil
  | append_singleton values v ih =>
      rw [enumMembers_concat, List.map_append, List.map_singleton]
      refine List.nodup_append.mpr ⟨ih, List.nodup_singleton _, fun name hname name' hname' heq => ?_⟩
      rw [List.mem_singleton.mp hname'] at heq
      exact Name.unique_not_mem _ _ (heq ▸ hname)

/-- Members of an enumeration, one for each of some values in their order. -/
structure AreMembersOf (members : List (String × String)) (values : List String) : Prop where
  values : members.map Prod.snd = values
  nodup : (members.map Prod.fst).Nodup
  names : ∀ m ∈ members, Name.IsMemberName m.1

theorem areMembersOf_enumMembers (values : List String) :
    AreMembersOf (enumMembers values) values where
  values := (enumMembers_spec values).1
  nodup := nodup_enumMembers values
  names := (enumMembers_spec values).2

example : (enumMembers ["a b", "A-B2", "a-b", ""]).map Prod.fst =
    ["A_B", "A_B2", "A_B3", "EMPTY"] := by decide

/-- The text of an enumeration is made from one line for each member, with the name before the equals
sign and a string literal of JSON behind it. -/
structure IsEnumText (text name : String) (members : List (String × String))
    (literals : List String) : Prop where
  lines : text = "enum " ++ name ++ " \x7b\n" ++ ",\n".intercalate
    ((members.zip literals).map fun m => "  " ++ m.1.1 ++ " = " ++ m.2) ++ "\n\x7d"
  decoded : literals.map (fun literal => Json.decode literal.toList) =
    members.map fun m => .ok (.str m.2)

theorem isEnumText (style : Style) (name : String) (members : List (String × String)) :
    IsEnumText ((Declaration.enum name members).text style) name members
      (members.map fun m => Json.quote .unicode m.2) where
  lines := by
    have hzip : (members.zip (members.map fun m => Json.quote .unicode m.2)).map
        (fun m => "  " ++ m.1.1 ++ " = " ++ m.2) = members.map Declaration.enumLine := by
      rw [← List.map_prod_left_eq_zip, List.map_map]
      rfl
    rw [hzip]
    rfl
  decoded := by
    rw [List.map_map]
    refine List.map_congr_left fun m _ => ?_
    rw [Function.comp_apply, Json.decode_quote]

theorem fieldForm_enumeration {o : Options} (ho : o.generateEnums = true) {facts : Facts}
    (hfacts : facts.isEnum = true) : fieldForm o facts = .enumeration := by
  rw [fieldForm, ho, hfacts, Bool.true_and, if_pos rfl]

theorem fieldTypeOf_enumeration {o : Options} (ho : o.generateEnums = true) {facts : Facts}
    (hfacts : facts.isEnum = true) (key : String) (nested : Option Schema)
    (h : Hoisted Declaration) :
    fieldTypeOf o key facts nested h = (.named (h.reserve (Name.pascalCase key)).1,
      (h.reserve (Name.pascalCase key)).2.add (.enum (h.reserve (Name.pascalCase key)).1
        (enumMembers (enumValues facts)))) := by
  rw [fieldTypeOf, fieldForm_enumeration ho hfacts]

/-- A field in which strings make an enumeration adds one declaration, under a name of its own. It has
a member for each different string, in order of first appearance, and can always be written. -/
theorem membersOf_enumeration {o : Options} (ho : o.generateEnums = true) {facts : Facts}
    (hfacts : facts.isEnum = true) {strings : List String} (hvalues : facts.values = strings.map .str)
    (key : String) (nested : Option Schema) (fields : List (String × Facts × Option Schema))
    (h : Hoisted Declaration) :
    (∃ name members h', name ∉ h.names ∧ h'.names = name :: h.names ∧
      h'.definitions = h.definitions ++ [.enum name members] ∧
      membersOf o ((key, facts, nested) :: fields) h =
        (member o key facts (.named name) :: (membersOf o fields h').1, (membersOf o fields h').2) ∧
      AreMembersOf members strings.eraseDups ∧
      ∀ style, ∃ literals,
        IsEnumText ((Declaration.enum name members).text style) name members literals) ∧
    ∀ budget, firstFieldError? o budget ((key, facts, nested) :: fields) =
      firstFieldError? o budget fields := by
  constructor
  · have htype := fieldTypeOf_enumeration ho hfacts key nested h
    rw [enumValues_eq hvalues] at htype
    refine ⟨(h.reserve (Name.pascalCase key)).1, enumMembers strings.eraseDups,
      (fieldTypeOf o key facts nested h).2, Name.unique_not_mem _ _, ?_, ?_, ?_,
      areMembersOf_enumMembers _, fun style => ⟨_, isEnumText style _ _⟩⟩
    · rw [htype]
      rfl
    · rw [htype]
      rfl
    · rw [membersOf_cons, htype]
  · intro budget
    have hform := fieldForm_enumeration ho hfacts
    have hstrings := findSome?_distinct_of_strings hvalues
    rw [firstFieldError?]
    simp only [hform]
    exact (congrArg (Option.or · _) hstrings).trans Option.none_or

/-- The name of the third string is that of the first, and with a two behind it that of the second. -/
theorem membersOf_enumeration_clash :
    let strings := ["a b", "A-B2", "a-b", "", "a b"]
    let facts : Facts :=
      { isOptional := false, isUnion := false, kinds := [.string], values := strings.map .str
        isEnum := true }
    ∃ name members h', membersOf {} [("unit", facts, none)] { names := ["Unit"] } =
        ([member {} "unit" facts (.named name)], h') ∧ name ∉ ["Unit"] ∧
      h'.definitions = [.enum name members] ∧
      AreMembersOf members ["a b", "A-B2", "a-b", ""] := by
  intro strings facts
  have hoption : ({} : Options).generateEnums = true := rfl
  have henum : facts.isEnum = true := rfl
  have hvalues : facts.values = strings.map .str := rfl
  obtain ⟨⟨name, members, h', hfresh, -, hdefinitions, hmembers, hare, -⟩, -⟩ :=
    membersOf_enumeration hoption henum hvalues "unit" none [] { names := ["Unit"] }
  exact ⟨name, members, h', hmembers, hfresh, hdefinitions, hare⟩

end TypeDraft.TypeScript.Advanced
