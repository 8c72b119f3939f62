import TypeDraft.Proofs.Name.Word
import TypeDraft.Proofs.TypeScript.Acceptance
import TypeDraft.Proofs.TypeScript.Declarations
import TypeDraft.TypeScript.Advanced

/-!
# What hoisting adds

Writing a type appends declarations to those that are there. Their names are fresh, and they refer
to one another only.
-/

namespace TypeDraft.TypeScript

def Declaration.keys : Declaration → List String
  | .shape _ members _ => members.map Member.key
  | _ => []

/-- A declaration that can be read, under a name that no predefined type but a date has. -/
structure Declaration.IsSound (d : Declaration) : Prop where
  readable : d.IsReadable
  capital : Name.IsCapital d.name
  nodup_keys : d.keys.Nodup

/-- Between two states of hoisting some declarations are added. -/
structure Hoists (h h' : Hoisted Declaration) (new : List Declaration) : Prop where
  definitions : h'.definitions = h.definitions ++ new
  names : h.names ⊆ h'.names
  reserved : new.map Declaration.name ⊆ h'.names
  fresh : ∀ d ∈ new, d.name ∉ h.names
  nodup : (new.map Declaration.name).Nodup
  sound : ∀ d ∈ new, d.IsSound
  declared : ∀ d ∈ new, d.references ⊆ new.map Declaration.name

namespace Hoists

variable {h h' h'' : Hoisted Declaration} {new new' : List Declaration}

theorem refl (h : Hoisted Declaration) : Hoists h h [] where
  definitions := (List.append_nil _).symm
  names := List.Subset.refl _
  reserved := List.nil_subset _
  fresh := nofun
  nodup := List.nodup_nil
  sound := nofun
  declared := nofun

theorem trans (hn : Hoists h h' new) (hn' : Hoists h' h'' new') : Hoists h h'' (new ++ new') where
  definitions := by rw [hn'.definitions, hn.definitions, List.append_assoc]
  names := List.Subset.trans hn.names hn'.names
  reserved := by
    rw [List.map_append]
    exact List.append_subset.mpr ⟨List.Subset.trans hn.reserved hn'.names, hn'.reserved⟩
  fresh := by
    intro d hd hmem
    rcases List.mem_append.mp hd with hd | hd
    · exact hn.fresh d hd hmem
    · exact hn'.fresh d hd (hn.names hmem)
  nodup := by
    rw [List.map_append, List.nodup_append]
    refine ⟨hn.nodup, hn'.nodup, fun a ha b hb heq => ?_⟩
    obtain ⟨d, hd, rfl⟩ := List.mem_map.mp hb
    exact hn'.fresh d hd (hn.reserved (heq ▸ ha))
  sound := by
    intro d hd
    rcases List.mem_append.mp hd with hd | hd
    · exact hn.sound d hd
    · exact hn'.sound d hd
  declared := by
    intro d hd
    rw [List.map_append]
    rcases List.mem_append.mp hd with hd | hd
    · exact List.Subset.trans (hn.declared d hd) (List.subset_append_left _ _)
    · exact List.Subset.trans (hn'.declared d hd) (List.subset_append_right _ _)

/-- A declaration under a name that was reserved before the others were added. -/
theorem add {name : String} {h₀ : Hoisted Declaration} (hname : name ∉ h₀.names)
    (hh : h = { h₀ with names := name :: h₀.names }) (hn : Hoists h h' new) {d : Declaration}
    (hd : d.name = name) (hsound : d.IsSound) (hreferences : d.references ⊆ new.map Declaration.name) :
    Hoists h₀ (h'.add d) (new ++ [d]) := by
  subst hh hd
  have hnew : ∀ e ∈ new, e.name ∉ d.name :: h₀.names := hn.fresh
  refine ⟨?_, ?_, ?_, ?_, ?_, ?_, ?_⟩
  · change h'.definitions ++ [d] = h₀.definitions ++ (new ++ [d])
    rw [hn.definitions, List.append_assoc]
  · exact fun n hmem => hn.names (List.mem_cons_of_mem _ hmem)
  · rw [List.map_append]
    refine List.append_subset.mpr ⟨hn.reserved, ?_⟩
    intro n hmem
    obtain rfl := List.mem_singleton.mp hmem
    exact hn.names List.mem_cons_self
  · intro e he hmem
    rcases List.mem_append.mp he with he | he
    · exact hnew e he (List.mem_cons_of_mem _ hmem)
    · obtain rfl := List.mem_singleton.mp he
      exact hname hmem
  · rw [List.map_append, List.nodup_append]
    refine ⟨hn.nodup, List.nodup_singleton d.name, fun a ha b hb heq => ?_⟩
    obtain ⟨e, he, rfl⟩ := List.mem_map.mp ha
    obtain rfl := List.mem_singleton.mp hb
    exact hnew e he (heq ▸ List.mem_cons_self)
  · intro e he
    rcases List.mem_append.mp he with he | he
    · exact hn.sound e he
    · exact List.mem_singleton.mp he ▸ hsound
  · intro e he
    rw [List.map_append]
    rcases List.mem_append.mp he with he | he
    · exact List.Subset.trans (hn.declared e he) (List.subset_append_left _ _)
    · obtain rfl := List.mem_singleton.mp he
      exact List.Subset.trans hreferences (List.subset_append_left _ _)

end Hoists

/-- A reserved name is fresh, and it is a capitalized word if what it is made from is one. -/
theorem reserve_fst (h : Hoisted Declaration) (s : String) :
    (h.reserve (Name.pascalCase s)).1 ∉ h.names ∧ IsWord (h.reserve (Name.pascalCase s)).1 ∧
      Name.IsCapital (h.reserve (Name.pascalCase s)).1 := by
  obtain ⟨hword, hcapital⟩ := Name.isWord_pascalCase s
  exact ⟨Name.unique_not_mem _ _, Name.isWord_unique hword _,
    Name.isCapital_unique hword hcapital _⟩

/-! ## Types for values -/

/-- Whether names mean in a module what some declarations make of them, and the predefined types
what they always mean. -/
structure Resolves (m : List Statement) (ds : List Declaration) : Prop where
  declared : ∀ d ∈ ds, body? m d.name = some d.statement.body
  predefined : ∀ p : Primitive, body? m p.text = none

theorem Resolves.mono {m : List Statement} {ds es : List Declaration} (h : Resolves m es)
    (hsub : ds ⊆ es) : Resolves m ds := ⟨fun d hd => h.declared d (hsub hd), h.predefined⟩

/-- A written type, with what it hoists, is one for some values: it refers to what it hoists, and
it accepts each of the values. -/
structure IsTypeFor (values : List Value) (t : TypeExpr) (new : List Declaration) : Prop where
  readable : t.IsReadable
  declared : t.references ⊆ new.map Declaration.name
  accepts : ∀ m, Resolves m new → ∀ v ∈ values, Accepts true m t.ty v

/-- A member as it should be for some objects: null counts as missing where it may be missing. -/
structure IsMemberFor (objects : List (List (String × Value))) (member : Member)
    (new : List Declaration) : Prop where
  readable : member.IsReadable
  declared : member.type.references ⊆ new.map Declaration.name
  accepts : ∀ m, Resolves m new → ∀ fields ∈ objects, ∀ v, fields.lookup member.key = some v →
    ¬ member.property.IsPassedOver true v → Accepts true m member.property.type v
  required : member.isOptional = false → ∀ fields ∈ objects, (fields.lookup member.key).isSome

theorem IsMemberFor.mono {objects : List (List (String × Value))} {member : Member}
    {new new' : List Declaration} (h : IsMemberFor objects member new) (hsub : new ⊆ new') :
    IsMemberFor objects member new' where
  readable := h.readable
  declared := List.Subset.trans h.declared (List.map_subset _ hsub)
  accepts := fun m hm => h.accepts m (hm.mono hsub)
  required := h.required

/-- An object type whose members are right accepts the objects, if they have no other keys. -/
theorem accepts_shape {m : List Statement} {name : String} {members : List Member} {isOpen : Bool}
    (hname : body? m name = some (.object (members.map Member.property) isOpen))
    {objects : List (List (String × Value))} {new : List Declaration}
    (hmembers : ∀ member ∈ members, IsMemberFor objects member new) (hm : Resolves m new)
    {fields : List (String × Value)} (hf : fields ∈ objects)
    (hkeys : ∀ key ∈ fields.map Prod.fst, key ∈ members.map Member.key) :
    Accepts true m (.named name) (.obj fields) := by
  refine .object hname ?_ ?_ ?_
  · intro p hp v hv hpassed
    obtain ⟨member, hmem, rfl⟩ := List.mem_map.mp hp
    exact (hmembers member hmem).accepts m hm fields hf v hv hpassed
  · intro p hp hrequired
    obtain ⟨member, hmem, rfl⟩ := List.mem_map.mp hp
    exact (hmembers member hmem).required hrequired fields hf
  · intro _ key hkey
    have hproperties : (members.map Member.property).map Property.key = members.map Member.key := by
      rw [List.map_map]
      rfl
    rw [hproperties]
    exact hkeys key hkey

end TypeDraft.TypeScript
