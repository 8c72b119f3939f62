import TypeDraft.GraphQL
import TypeDraft.JsonSchema
import TypeDraft.Schema.Merge
import TypeDraft.TypeScript.Advanced
import TypeDraft.TypeScript.Basic
import TypeDraft.Zod

/-!
# The text for some samples

The advanced formats describe the schema that all samples have together, the others the first
sample alone.
-/

namespace TypeDraft

def draftSample (format : OutputFormat) (name : String) (v : Value) : Except DraftError String :=
  match format with
  | .interface => TypeScript.Basic.draft .interface name v
  | .type => TypeScript.Basic.draft .type name v
  | .zod => Zod.draft name v
  | .jsonSchema => JsonSchema.draft name v
  | .graphql => GraphQL.draft name v
  | .advancedInterface | .advancedType => .ok ""

def OutputFormat.style : OutputFormat → TypeScript.Style
  | .type | .advancedType => .type
  | _ => .interface

inductive SampleError where
  | analysis (e : AnalysisError)
  | draft (format : OutputFormat) (e : DraftError)
  deriving DecidableEq

def SampleError.message : SampleError → String
  | analysis e => e.message
  | draft format e => e.message format

def draftSamples (format : OutputFormat) (o : Options) (name : String) (primary : Value)
    (extras : List Value) : Except SampleError String :=
  if format.isAdvanced then do
    let schema ← (analyze primary extras).mapError .analysis
    (TypeScript.Advanced.draft format.style o name schema).mapError (.draft format)
  else (draftSample format name primary).mapError (.draft format)

end TypeDraft
