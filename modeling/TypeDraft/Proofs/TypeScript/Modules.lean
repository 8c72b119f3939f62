import TypeDraft.Proofs.TypeScript.Types

/-!
# Modules of type declarations, as they are read

A module is read statement by statement: interfaces, aliases of object types and of other types,
and enumerations with string values. Between braces every property ends in a semicolon.
-/

namespace TypeDraft.TypeScript

structure Property where
  key : String
  type : Ty
  isOptional : Bool

inductive Body where
  /-- An object type; if it is open, it admits further keys with any values. -/
  | object (properties : List Property) (isOpen : Bool)
  | synonym (type : Ty)
  | enumeration (values : List String)

structure Statement where
  name : String
  body : Body

inductive Keyword where
  | interface | type | enum
  deriving DecidableEq

def Keyword.ofWord? (s : String) : Option Keyword :=
  if s = "interface" then some interface
  else if s = "type" then some type
  else if s = "enum" then some enum
  else none

/-- An object type that has been read in part. Properties stand last first. -/
structure ObjectReading where
  name : String
  properties : List Property
  isOpen : Bool

namespace ObjectReading

def push (o : ObjectReading) (p : Property) : ObjectReading :=
  { o with properties := p :: o.properties }

def statement (o : ObjectReading) : Statement := ⟨o.name, .object o.properties.reverse o.isOpen⟩

end ObjectReading

/-- An enumeration that has been read in part. Values stand last first. -/
structure EnumReading where
  name : String
  values : List String

def EnumReading.statement (e : EnumReading) : Statement := ⟨e.name, .enumeration e.values.reverse⟩

/-- What may come next in a module. -/
inductive Context where
  | statement
  /-- Behind `export`. -/
  | exported
  | name (k : Keyword)
  /-- Behind the name that is declared. -/
  | named (k : Keyword) (name : String)
  /-- Behind the equals sign of an alias. -/
  | aliased (name : String)
  /-- Behind a brace that begins what an alias stands for. -/
  | braced (name : String)
  | synonym (name : String) (r : TypeReading)
  | properties (o : ObjectReading)
  /-- Behind the word `readonly`, which may also be a key. -/
  | readonly (o : ObjectReading)
  | key (o : ObjectReading) (key : String)
  /-- Behind the question mark after a key. -/
  | optional (o : ObjectReading) (key : String)
  | property (o : ObjectReading) (key : String) (isOptional : Bool) (r : TypeReading)
  /-- In an index signature, token by token. -/
  | signature (o : ObjectReading) (rest : List Token)
  | enumMember (e : EnumReading)
  /-- Behind the name of a member. -/
  | enumNamed (e : EnumReading)
  | enumValue (e : EnumReading)
  /-- Behind the value of a member. -/
  | enumNext (e : EnumReading)

/-- The tokens of an index signature behind its bracket. -/
def signatureTokens : List Token :=
  [.word "key", .mark .colon, .word "string", .mark .closeBracket, .mark .colon, .word "unknown",
    .mark .semicolon]

/-- A module that has been read in part. Statements stand last first. -/
structure ModuleReading where
  done : List Statement
  context : Context

namespace ModuleReading

def start : ModuleReading := ⟨[], .statement⟩

def finish (m : ModuleReading) (s : Statement) : ModuleReading := ⟨s :: m.done, .statement⟩

def goOn (m : ModuleReading) (context : Context) : ModuleReading := { m with context }

def stepKeyword (m : ModuleReading) : Token → Option ModuleReading
  | .word s => (Keyword.ofWord? s).map fun k => m.goOn (.name k)
  | _ => none

def stepStatement (m : ModuleReading) (t : Token) : Option ModuleReading :=
  if t = .word "export" then some (m.goOn .exported) else m.stepKeyword t

def stepName (m : ModuleReading) (k : Keyword) : Token → Option ModuleReading
  | .word name => some (m.goOn (.named k name))
  | _ => none

def stepNamed (m : ModuleReading) (k : Keyword) (name : String) (t : Token) :
    Option ModuleReading :=
  match k with
  | .interface =>
    if t = .mark .openBrace then some (m.goOn (.properties ⟨name, [], false⟩)) else none
  | .type => if t = .mark .equals then some (m.goOn (.aliased name)) else none
  | .enum => if t = .mark .openBrace then some (m.goOn (.enumMember ⟨name, []⟩)) else none

def stepAliased (m : ModuleReading) (name : String) (t : Token) : Option ModuleReading :=
  if t = .mark .openBrace then some (m.goOn (.braced name))
  else (TypeReading.start.step t).map fun r => m.goOn (.synonym name r)

def stepSynonym (m : ModuleReading) (name : String) (r : TypeReading) (t : Token) :
    Option ModuleReading :=
  if t = .mark .semicolon then r.result?.map fun type => m.finish ⟨name, .synonym type⟩
  else (r.step t).map fun r => m.goOn (.synonym name r)

def stepReadonly (m : ModuleReading) (o : ObjectReading) : Token → Option ModuleReading
  | .mark .colon => some (m.goOn (.property o "readonly" false .start))
  | .mark .question => some (m.goOn (.optional o "readonly"))
  | .word s => some (m.goOn (.key o s))
  | .quoted s => some (m.goOn (.key o s))
  | _ => none

def stepProperties (m : ModuleReading) (o : ObjectReading) : Token → Option ModuleReading
  | .mark .closeBrace => some (m.finish o.statement)
  | .mark .openBracket => some (m.goOn (.signature o signatureTokens))
  | .word s => some (m.goOn (if s = "readonly" then .readonly o else .key o s))
  | .quoted s => some (m.goOn (.key o s))
  | _ => none

/-- A brace behind an equals sign begins a dictionary type if a bracket follows, else an object
type. -/
def stepBraced (m : ModuleReading) (name : String) (t : Token) : Option ModuleReading :=
  if t = .mark .openBracket then
    (TypeReading.start.run [.mark .openBrace, t]).map fun r => m.goOn (.synonym name r)
  else m.stepProperties ⟨name, [], false⟩ t

def stepKey (m : ModuleReading) (o : ObjectReading) (key : String) : Token → Option ModuleReading
  | .mark .colon => some (m.goOn (.property o key false .start))
  | .mark .question => some (m.goOn (.optional o key))
  | _ => none

def stepOptional (m : ModuleReading) (o : ObjectReading) (key : String) (t : Token) :
    Option ModuleReading :=
  if t = .mark .colon then some (m.goOn (.property o key true .start)) else none

def stepProperty (m : ModuleReading) (o : ObjectReading) (key : String) (isOptional : Bool)
    (r : TypeReading) (t : Token) : Option ModuleReading :=
  if t = .mark .semicolon then
    r.result?.map fun type => m.goOn (.properties (o.push ⟨key, type, isOptional⟩))
  else (r.step t).map fun r => m.goOn (.property o key isOptional r)

def stepSignature (m : ModuleReading) (o : ObjectReading) :
    List Token → Token → Option ModuleReading
  | [], _ => none
  | [u], t => if t = u then some (m.goOn (.properties { o with isOpen := true })) else none
  | u :: us, t => if t = u then some (m.goOn (.signature o us)) else none

def stepEnumMember (m : ModuleReading) (e : EnumReading) : Token → Option ModuleReading
  | .word _ => some (m.goOn (.enumNamed e))
  | _ => none

def stepEnumNamed (m : ModuleReading) (e : EnumReading) (t : Token) : Option ModuleReading :=
  if t = .mark .equals then some (m.goOn (.enumValue e)) else none

def stepEnumValue (m : ModuleReading) (e : EnumReading) : Token → Option ModuleReading
  | .quoted s => some (m.goOn (.enumNext { e with values := s :: e.values }))
  | _ => none

def stepEnumNext (m : ModuleReading) (e : EnumReading) : Token → Option ModuleReading
  | .mark .comma => some (m.goOn (.enumMember e))
  | .mark .closeBrace => some (m.finish e.statement)
  | _ => none

def step (m : ModuleReading) (t : Token) : Option ModuleReading :=
  match m.context with
  | .statement => m.stepStatement t
  | .exported => m.stepKeyword t
  | .name k => m.stepName k t
  | .named k name => m.stepNamed k name t
  | .aliased name => m.stepAliased name t
  | .braced name => m.stepBraced name t
  | .synonym name r => m.stepSynonym name r t
  | .properties o => m.stepProperties o t
  | .readonly o => m.stepReadonly o t
  | .key o key => m.stepKey o key t
  | .optional o key => m.stepOptional o key t
  | .property o key isOptional r => m.stepProperty o key isOptional r t
  | .signature o rest => m.stepSignature o rest t
  | .enumMember e => m.stepEnumMember e t
  | .enumNamed e => m.stepEnumNamed e t
  | .enumValue e => m.stepEnumValue e t
  | .enumNext e => m.stepEnumNext e t

def run (m : ModuleReading) (ts : List Token) : Option ModuleReading := ts.foldlM step m

/-- The statements, if none is left open. -/
def result? (m : ModuleReading) : Option (List Statement) :=
  match m.context with
  | .statement => some m.done.reverse
  | _ => none

theorem run_append (m : ModuleReading) (ts us : List Token) :
    m.run (ts ++ us) = (m.run ts).bind fun m => m.run us := List.foldlM_append

theorem run_cons (m : ModuleReading) (t : Token) (ts : List Token) :
    m.run (t :: ts) = (m.step t).bind fun m => m.run ts := rfl

end ModuleReading

/-- The statements of a text. -/
def readModule? (text : String) : Option (List Statement) :=
  (ModuleReading.start.run (tokens text.toList)).bind ModuleReading.result?

/-! ## Reading what is put together -/

namespace ModuleReading

/-- The tokens of a type before a semicolon are read on their own. -/
theorem run_property {ts : List Token} (hts : .mark .semicolon ∉ ts) (done : List Statement)
    (o : ObjectReading) (key : String) (isOptional : Bool) (r : TypeReading) :
    run ⟨done, .property o key isOptional r⟩ ts =
      (r.run ts).map fun r => ⟨done, .property o key isOptional r⟩ := by
  induction ts generalizing r with
  | nil => rfl
  | cons t ts ih =>
      rw [List.mem_cons, not_or] at hts
      have hstep : step ⟨done, .property o key isOptional r⟩ t =
          (r.step t).map fun r => ⟨done, .property o key isOptional r⟩ := by
        change stepProperty _ o key isOptional r t = _
        rw [stepProperty, if_neg fun h => hts.1 h.symm]
        rfl
      rw [run_cons, TypeReading.run_cons, hstep]
      cases r.step t with
      | none => rfl
      | some r => exact ih hts.2 r

theorem run_synonym {ts : List Token} (hts : .mark .semicolon ∉ ts) (done : List Statement)
    (name : String) (r : TypeReading) :
    run ⟨done, .synonym name r⟩ ts = (r.run ts).map fun r => ⟨done, .synonym name r⟩ := by
  induction ts generalizing r with
  | nil => rfl
  | cons t ts ih =>
      rw [List.mem_cons, not_or] at hts
      have hstep : step ⟨done, .synonym name r⟩ t =
          (r.step t).map fun r => ⟨done, .synonym name r⟩ := by
        change stepSynonym _ name r t = _
        rw [stepSynonym, if_neg fun h => hts.1 h.symm]
        rfl
      rw [run_cons, TypeReading.run_cons, hstep]
      cases r.step t with
      | none => rfl
      | some r => exact ih hts.2 r

/-- The tokens of a key, of a type and of a semicolon give a property, if the type can be read. -/
theorem run_property_semicolon {ts : List Token} (hts : .mark .semicolon ∉ ts)
    (done : List Statement) (o : ObjectReading) (key : String) (isOptional : Bool) :
    run ⟨done, .property o key isOptional .start⟩ (ts ++ [.mark .semicolon]) =
      (readType? ts).map fun type => ⟨done, .properties (o.push ⟨key, type, isOptional⟩)⟩ := by
  have hclose : ∀ r, run ⟨done, .property o key isOptional r⟩ [.mark .semicolon] =
      r.result?.map fun type => ⟨done, .properties (o.push ⟨key, type, isOptional⟩)⟩ := by
    intro r
    change (stepProperty _ o key isOptional r _).bind _ = _
    rw [stepProperty, if_pos rfl]
    cases r.result? <;> rfl
  rw [run_append, run_property hts, readType?]
  cases TypeReading.start.run ts with
  | none => rfl
  | some r => exact hclose r

theorem run_aliased {ts : List Token} (hts : .mark .semicolon ∉ ts) (hne : ts ≠ [])
    (hbrace : ∀ us, ts = .mark .openBrace :: us → us.head? = some (.mark .openBracket))
    (done : List Statement) (name : String) :
    run ⟨done, .aliased name⟩ (ts ++ [.mark .semicolon]) =
      (readType? ts).map fun type => ⟨⟨name, .synonym type⟩ :: done, .statement⟩ := by
  have hclose : ∀ r, run ⟨done, .synonym name r⟩ [.mark .semicolon] =
      r.result?.map fun type => ⟨⟨name, .synonym type⟩ :: done, .statement⟩ := by
    intro r
    change (stepSynonym _ name r _).bind _ = _
    rw [stepSynonym, if_pos rfl]
    cases r.result? <;> rfl
  have hread : run ⟨done, .aliased name⟩ ts =
      (TypeReading.start.run ts).map fun r => ⟨done, .synonym name r⟩ := by
    match ts with
    | [] => exact absurd rfl hne
    | t :: us =>
      rw [List.mem_cons, not_or] at hts
      by_cases ht : t = .mark .openBrace
      · subst ht
        match us, hbrace us rfl with
        | u :: us, hu =>
          obtain rfl : u = .mark .openBracket := by simpa using hu
          have husemi : .mark .semicolon ∉ us := fun h => hts.2 (List.mem_cons_of_mem _ h)
          exact run_synonym husemi done name ⟨[], [], .spelled dictionaryTokens.tail⟩
      · have hstep : step ⟨done, .aliased name⟩ t =
            (TypeReading.start.step t).map fun r => ⟨done, .synonym name r⟩ := by
          change stepAliased _ name t = _
          rw [stepAliased, if_neg ht]
          rfl
        rw [run_cons, TypeReading.run_cons, hstep]
        cases TypeReading.start.step t with
        | none => rfl
        | some r => exact run_synonym hts.2 done name r
  rw [run_append, hread, readType?]
  cases TypeReading.start.run ts with
  | none => rfl
  | some r => exact hclose r

end ModuleReading

end TypeDraft.TypeScript
