import TypeDraft.Name.Word
import TypeDraft.Output.Form

/-!
# Zod validators

The validator for the form of one sample: every key of an object is wanted, and all items of an
array look like its first one.
-/

namespace TypeDraft.Zod

def indent (depth : Nat) : List Char := List.replicate (2 * depth) ' '

mutual

def validator : (depth : Nat) → Value → List Char
  | _, .null => "z.null()".toList
  | _, .bool _ => "z.boolean()".toList
  | _, .str _ => "z.string()".toList
  | depth, .arr items => "z.array(".toList ++ itemValidator depth items ++ ")".toList
  | _, .obj [] => "z.object(\x7b\x7d)".toList
  | depth, .obj fields =>
    "z.object(\x7b\n".toList ++ fieldValidators (depth + 1) fields ++
      '\n' :: indent depth ++ "\x7d)".toList
  | _, v => (if v.isIntegral then "z.number().int()" else "z.number()").toList
termination_by structural _ v => v

def itemValidator : (depth : Nat) → List Value → List Char
  | _, [] => "z.unknown()".toList
  | depth, v :: _ => validator depth v
termination_by structural _ vs => vs

def fieldValidators : (depth : Nat) → List (String × Value) → List Char
  | _, [] => []
  | depth, [(key, v)] =>
    indent depth ++ (Name.quoteProperty key).toList ++ ": ".toList ++ validator depth v
  | depth, (key, v) :: fields =>
    indent depth ++ (Name.quoteProperty key).toList ++ ": ".toList ++ validator depth v ++
      ",\n".toList ++ fieldValidators depth fields
termination_by structural _ fields => fields

end

def moduleText (name : String) (schema : String) : String :=
  "import \x7b z \x7d from 'zod';\n\n" ++
  "export const " ++ name ++ "Schema = " ++ schema ++ ";\n\n" ++
  "export type " ++ name ++ " = z.infer<typeof " ++ name ++ "Schema>;"

def cost : NestingCost := ⟨1, 3⟩

def draft (name : String) (v : Value) : Except DraftError String :=
  match Form.firstError? cost openSteps v with
  | some e => .error e
  | none => .ok (moduleText name (String.ofList (validator 0 v)))

end TypeDraft.Zod
