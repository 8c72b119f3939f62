import TypeDraft.Generation

/-!
# A tour of the program

Four stops: a plain interface, the other formats, the merging of samples, the repair of input.
-/

namespace TypeDraft.Demo

def userSample : String :=
  "\x7b\"id\":1,\"name\":\"John\",\"address\":\x7b\"city\":\"NY\",\"zip\":12345\x7d," ++
    "\"orders\":[\x7b\"orderId\":1,\"amount\":200\x7d]\x7d"

def customerSamples : String :=
  "\n".intercalate [
    "\x7b\"id\": 1, \"email\": \"ann@example.com\", \"plan\": \"pro\", \"tag\": \"vip\"\x7d",
    "\x7b\"id\": 2, \"email\": \"bob@example.com\", \"plan\": \"free\"\x7d",
    "\x7b\"id\": 3, \"email\": \"cy@example.com\", \"plan\": \"pro\"\x7d",
    "\x7b\"id\": 4, \"email\": \"dee@example.com\", \"plan\": \"free\"\x7d",
    "\x7b\"id\": 5, \"email\": \"eve@example.com\", \"plan\": \"pro\"\x7d"]

def malformedSample : String := "\x7bid: 1, name: 'x', tags: ['a','b',],\x7d"

def rule : String := String.ofList (List.replicate 60 '=')

def printed (lines : List String) : String := String.join (lines.map (· ++ "\n"))

private def heading (title : String) : List String := [rule, title, rule]

private def textOf (r : Request) : String :=
  match generate .standard r with
  | .ok result => result.text
  | .error e => e.message

def basicInterface : String :=
  printed (heading "1. BASIC INTERFACE" ++
    [textOf { name := "Root", text := userSample, output := .interface }, ""])

def everyFormat : String :=
  let stop (format : OutputFormat) : List String :=
    ["--- " ++ format.label ++ " ---",
      textOf { name := "User", text := userSample, output := format }, ""]
  printed (heading "2. OTHER OUTPUT FORMATS" ++
    [OutputFormat.zod, OutputFormat.jsonSchema, OutputFormat.graphql].flatMap stop)

def remarks (facts : Facts) : List String :=
  (if facts.isOptional then ["optional"] else []) ++
    (if facts.isEnum then ["enum " ++ (Value.arr facts.distinct).display] else []) ++
    (facts.pattern.map StringPattern.name).toList

private def fieldLine (key : String) (facts : Facts) : String :=
  let told := ", ".intercalate (remarks facts)
  "  " ++ key ++ ": " ++ if told.isEmpty then "-" else told

private def fieldLines (text : String) : List String :=
  match parse none text with
  | .error e => [e.message]
  | .ok p =>
    match analyze p.primary p.extras with
    | .ok (.object fields) => fields.map fun f => fieldLine f.1 f.2.1
    | _ => []

def advancedAnalysis : String :=
  printed (heading "3. ADVANCED ANALYSIS (JSON LINES)" ++ fieldLines customerSamples ++ ["",
    textOf {
      name := "Customer", text := customerSamples, output := .advancedInterface,
      options := { useReadonly := false } },
    ""])

def autoRepair : String :=
  let request : Request :=
    { name := "Tagged", text := malformedSample, output := .type, input := some .json }
  let told : List String :=
    match generate .standard request with
    | .error e => [e.message]
    | .ok r => ["Repaired: " ++ (Value.bool r.repaired).display, r.text]
  printed (heading "4. AUTO-REPAIR" ++ ["Input:    " ++ malformedSample] ++ told ++ [""])

def all : String :=
  printed ["\n" ++ rule, "JSON-TYPEGEN DEMO", rule ++ "\n"] ++
    basicInterface ++ everyFormat ++ advancedAnalysis ++ autoRepair ++
    printed (heading "DEMO COMPLETE")

end TypeDraft.Demo
