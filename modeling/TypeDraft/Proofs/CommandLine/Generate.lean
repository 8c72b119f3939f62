import TypeDraft.CommandLine.Run
import TypeDraft.Proofs.CommandLine.Settings
import TypeDraft.Proofs.Terminal.Control

/-!
# Generating from the command line

A definition is made by the settings that are given, else by those of the profile, and what neither
says about the sample its extension or its text says. The run prints the definition or writes it to
the target; if anything fails on the way it does neither.
-/

namespace TypeDraft

theorem Options.ext_get {o o' : Options} (h : ∀ w, o.get w = o'.get w) : o = o' := by
  obtain ⟨⟩ := o
  obtain ⟨⟩ := o'
  simp only [Options.mk.injEq]
  exact ⟨h .detectOptionalProperties, h .generateEnums, h .detectUnionTypes, h .useReadonly,
    h .generateIndexSignatures, h .detectPatterns⟩

/-- A request that leaves the format of its text open is one for the format that this seems to be
in. -/
theorem generate_detected (registry : Registry) (r : Request) :
    generate registry { r with input := some (r.input.getD (detectFormat r.text.toList)) } =
      generate registry r := rfl

namespace CommandLine

variable {inv : Invocation} {given : List (Key × Setting)} {c : Call} {input : String}

/-! ## What is asked for -/

/-- The file to write to, if one is named. -/
def target? (given : List (Key × Setting)) : Option String :=
  (lastText? given .target).filter (· ≠ "")

/-- The profile that the settings name, or the one without settings. -/
inductive ProfileFor (inv : Invocation) (given : List (Key × Setting)) : Profile → Prop
  | standard : lastText? given .profile = none → ProfileFor inv given {}
  | named {path : String} {p : Profile} : lastText? given .profile = some path →
      Profile.load inv.files (Path.ofString path) = .ok p → ProfileFor inv given p

/-- The text that an input stands for, and the format that its extension stands for. -/
inductive HoldsSample (inv : Invocation) : String → String → Option InputFormat → Prop
  | stdin : HoldsSample inv "-" (Text.unifyLineEnds inv.stdin) none
  | file {path s : String} {bytes : List UInt8} : path ≠ "-" →
      inv.files.place (Path.ofString path) = .file bytes → Text.decodeUtf8 bytes = .ok s →
      HoldsSample inv path (Text.unifyLineEnds s)
        (InputFormat.ofExtension? (Path.ofString path).extension)

/-- A request for a sample goes by the settings, else by the profile, and for its format else by the
extension and at last by the text itself. -/
structure GoesBy (given : List (Key × Setting)) (p : Profile) (sample : String)
    (extension : Option InputFormat) (r : Request) : Prop where
  text : r.text = sample
  name : r.name = (lastText? given .name).getD p.name
  output : ∃ flagged : Option OutputFormat, flagged.map OutputFormat.name = lastText? given .output ∧
    r.output = flagged.getD p.output
  input : ∃ flagged : Option InputFormat, flagged.map InputFormat.name = lastText? given .input ∧
    r.input = some (((flagged.or p.input).or extension).getD (detectFormat sample.toList))
  options : ∀ w, r.options.get w = (lastFlag? given (.switch w)).getD (p.options.get w)

/-- By the settings given the sample has a definition. -/
def Produces (inv : Invocation) (given : List (Key × Setting)) (input : String) (result : Result) :
    Prop :=
  ∃ p text extension r, ProfileFor inv given p ∧ HoldsSample inv input text extension ∧
    GoesBy given p text extension r ∧ generate .standard r = .ok result

/-- A file is at the path, or nothing is and the directory for it is there. -/
def CanWrite (fs : Files) (path : Path) : Prop :=
  (∃ bytes, fs.place path = .file bytes) ∨ fs.place path = .vacant

/-- How a run ends: it prints the definition, or writes it to the target, or fails. -/
structure IsAllOrNothing (inv : Invocation) (given : List (Key × Setting)) (input : String)
    (o : Outcome) : Prop where
  prints : ∀ result, Produces inv given input result → target? given = none →
    o.exitCode = 0 ∧ o.written = [] ∧
      (¬ Terminal.HasSequence result.text.toList → o.stdout = result.text ++ "\n")
  writes : ∀ result target, Produces inv given input result → target? given = some target →
    CanWrite inv.files (Path.ofString target) →
    o.exitCode = 0 ∧ o.stdout = "" ∧ o.written = [(Path.ofString target, result.text ++ "\n")]
  fails : (¬ ∃ result, Produces inv given input result ∧
      ∀ target, target? given = some target → CanWrite inv.files (Path.ofString target)) →
    o.exitCode = 1 ∧ o.stdout = "" ∧ o.written = []

/-! ## The request -/

/-- What is read off an admitted name has that name. -/
theorem map_name_bind {α : Type} {name : α → String} {ofName? : String → Option α} {all : List α}
    (hinverse : ∀ f, ofName? (name f) = some f) {text? : Option String}
    (hadmitted : ∀ t, text? = some t → (all.map name).contains t = true) :
    (text?.bind ofName?).map name = text? := by
  cases text? with
  | none => rfl
  | some t =>
      obtain ⟨f, -, rfl⟩ := List.mem_map.mp (List.contains_iff_mem.mp (hadmitted t rfl))
      rw [Option.bind_some, hinverse, Option.map_some]

theorem output?_eq {fs : Files} {s : Settings} (h : s.firstFault? fs = none) :
    s.output?.map OutputFormat.name = s.text? .output :=
  map_name_bind OutputFormat.ofName?_name fun t ht => by
    simpa [refusal?] using Settings.refusal?_eq_none h ht

theorem input?_eq {fs : Files} {s : Settings} (h : s.firstFault? fs = none) :
    s.input?.map InputFormat.name = s.text? .input :=
  map_name_bind InputFormat.ofName?_name fun t ht => by
    simpa [refusal?] using Settings.refusal?_eq_none h ht

theorem get_optionsOf (p : Profile) (s : Settings) (w : Switch) :
    (optionsOf p s).get w = (s.flag? (.switch w)).getD (p.options.get w) := by
  have hfold : ∀ (step : Options → Switch → Options),
      (∀ o w, step o w = (s.flag? (.switch w)).elim o (o.set w)) →
      ∀ (switches : List Switch) (o : Options), switches.Nodup → (switches.foldl step o).get w =
        if w ∈ switches then (s.flag? (.switch w)).getD (o.get w) else o.get w := by
    intro step hstep switches
    induction switches with
    | nil => exact fun o _ => rfl
    | cons w' switches ih =>
        intro o hnodup
        obtain ⟨hnot, hnodup⟩ := List.nodup_cons.mp hnodup
        rw [List.foldl_cons, ih _ hnodup, hstep]
        by_cases hw : w = w'
        · subst hw
          rw [if_neg hnot, if_pos List.mem_cons_self]
          cases s.flag? (.switch w) with
          | none => rfl
          | some b => exact o.get_set w b
        · have hget : ((s.flag? (.switch w')).elim o (o.set w')).get w = o.get w := by
            cases s.flag? (.switch w') with
            | none => rfl
            | some b => exact o.get_set_of_ne b hw
          simp only [hget, List.mem_cons, hw, false_or]
  refine (hfold _ (fun o w => ?_) Switch.all p.options (by decide)).trans
    (if_pos (by cases w <;> decide))
  cases s.flag? (.switch w) <;> rfl

/-- The request that a run makes is the one that goes by the settings, with its format detected. -/
theorem goesBy_iff {p : Profile} {text : String} {extension : Option InputFormat} {r : Request}
    (h : IsAccepted inv.files inv.args c given) :
    GoesBy given p text extension r ↔
      r = { requestOf p c.settings text extension with
        input := some ((requestOf p c.settings text extension).input.getD
          (detectFormat text.toList)) } := by
  have houtput := output?_eq h.admitted
  have hinput := input?_eq h.admitted
  simp only [h.settings, Settings.text?_ofList] at houtput hinput
  constructor
  · rintro ⟨rfl, hname, ⟨flaggedOutput, hout, houtputIs⟩, ⟨flaggedInput, hin, hinputIs⟩, hoptions⟩
    obtain rfl : flaggedOutput = (Settings.ofList given).output? := by
      rw [Settings.output?, Settings.text?_ofList, ← hout]
      cases flaggedOutput with
      | none => rfl
      | some f => exact (OutputFormat.ofName?_name f).symm
    obtain rfl : flaggedInput = (Settings.ofList given).input? := by
      rw [Settings.input?, Settings.text?_ofList, ← hin]
      cases flaggedInput with
      | none => rfl
      | some f => exact (InputFormat.ofName?_name f).symm
    have heq : r.options = optionsOf p (.ofList given) := Options.ext_get fun w => by
      rw [hoptions, get_optionsOf, Settings.flag?_ofList]
    obtain ⟨⟩ := r
    simp only [h.settings, requestOf, Settings.text?_ofList] at *
    simp [*]
  · rintro rfl
    refine ⟨rfl, ?_, ⟨_, houtput, ?_⟩, ⟨_, hinput, ?_⟩, fun w => ?_⟩
    · simp only [requestOf, h.settings, Settings.text?_ofList]
    · simp only [requestOf, h.settings]
    · simp only [requestOf, h.settings]
    · simp only [requestOf, h.settings, get_optionsOf, Settings.flag?_ofList]

/-! ## Profile and sample -/

theorem profileOf_eq_ok {p : Profile} (h : c.settings = .ofList given) :
    profileOf inv c.settings = .ok p ↔ ProfileFor inv given p := by
  rw [profileOf, h, Settings.text?_ofList]
  cases hpath : lastText? given .profile with
  | none =>
      constructor
      · intro hp
        obtain rfl := Except.ok.inj hp
        exact .standard hpath
      · rintro (_ | ⟨hsome, -⟩)
        · rfl
        · simp [hpath] at hsome
  | some path =>
      simp only [mapError_eq_ok]
      constructor
      · exact .named hpath
      · rintro (hnone | ⟨hsome, hload⟩)
        · simp [hpath] at hnone
        · rwa [Option.some.inj (hpath.symm.trans hsome)]

theorem readInput_eq_ok {text : String} {extension : Option InputFormat} :
    readInput inv input = .ok (text, extension) ↔ HoldsSample inv input text extension := by
  rw [readInput]
  split
  · next hdash =>
      subst hdash
      constructor
      · intro h
        obtain ⟨rfl, rfl⟩ := Prod.mk.inj (Except.ok.inj h)
        exact .stdin
      · rintro (_ | hne)
        · rfl
        · exact absurd rfl hne
  · next hne =>
      rw [mapError_eq_ok, Files.read]
      constructor
      · intro h
        split at h
        · next bytes hplace =>
            cases hdecode : Text.decodeUtf8 bytes with
            | error e => simp [hdecode, Except.map, Except.mapError] at h
            | ok s =>
                simp only [hdecode, Except.map, Except.mapError, Except.ok.injEq, Prod.mk.injEq] at h
                obtain ⟨rfl, rfl⟩ := h
                exact .file hne hplace hdecode
        all_goals cases h
      · rintro (_ | ⟨-, hplace, hdecode⟩)
        · exact absurd rfl hne
        · simp only [hplace, hdecode, Except.map, Except.mapError]

theorem checkWritable_eq_ok {fs : Files} {path : Path} :
    fs.checkWritable path = .ok () ↔ CanWrite fs path := by
  rw [Files.checkWritable, CanWrite]
  cases fs.place path <;> simp

/-! ## The run -/

/-- A definition is produced just if the steps that make it end well. -/
theorem produce_eq_ok {result : Result} (h : IsAccepted inv.files inv.args c given) :
    produce inv c = .ok result ↔ Produces inv given c.input result := by
  simp only [produce, bind_eq_ok, profileOf_eq_ok h.settings, Prod.exists, readInput_eq_ok,
    mapError_eq_ok]
  constructor
  · rintro ⟨p, hp, text, extension, hsample, hresult⟩
    exact ⟨p, text, extension, _, hp, hsample, (goesBy_iff h).mpr rfl,
      (generate_detected _ _).trans hresult⟩
  · rintro ⟨p, text, extension, r, hp, hsample, hr, hresult⟩
    rw [(goesBy_iff h).mp hr] at hresult
    exact ⟨p, hp, text, extension, hsample, (generate_detected _ _).symm.trans hresult⟩

theorem targetOf_eq (h : c.settings = .ofList given) : targetOf c.settings = target? given := by
  rw [targetOf, h, Settings.text?_ofList, target?]

theorem deliver_some {result : Result} {target : String}
    (h : CanWrite inv.files (Path.ofString target)) :
    deliver inv result (some target) = .ok {
      stderr := (panelOf result target).text
      written := [(Path.ofString target, result.text ++ "\n")] } := by
  rw [deliver, checkWritable_eq_ok.mpr h]
  rfl

theorem exists_deliver_error (result : Result) {target : String}
    (h : ¬ CanWrite inv.files (Path.ofString target)) :
    ∃ e, deliver inv result (some target) = .error e := by
  cases hcheck : inv.files.checkWritable (Path.ofString target) with
  | ok => exact absurd (checkWritable_eq_ok.mp hcheck) h
  | error e => exact ⟨.file e, by rw [deliver, hcheck]; rfl⟩

theorem runCall_of_error {e : RunError} (hc : c.command = .generate)
    (h : runGenerate inv c = .error e) :
    (runCall inv c).exitCode = 1 ∧ (runCall inv c).stdout = "" ∧ (runCall inv c).written = [] := by
  simp only [runCall, hc, h]
  exact ⟨rfl, rfl, rfl⟩

theorem isAllOrNothing_runCall (hc : c.command = .generate)
    (h : IsAccepted inv.files inv.args c given) :
    IsAllOrNothing inv given c.input (runCall inv c) := by
  have htarget := targetOf_eq h.settings
  constructor
  · intro result hresult hnone
    rw [← produce_eq_ok h] at hresult
    have hrun : runGenerate inv c = deliver inv result none := by
      rw [runGenerate, hresult, htarget, hnone]
      rfl
    simp only [runCall, hc, hrun, deliver]
    exact ⟨trivial, trivial, fun hsequence => Terminal.echo_eq_self hsequence⟩
  · intro result target hresult hsome hwrite
    rw [← produce_eq_ok h] at hresult
    have hrun : runGenerate inv c = deliver inv result (some target) := by
      rw [runGenerate, hresult, htarget, hsome]
      rfl
    simp only [runCall, hc, hrun, deliver_some hwrite, and_self]
  · intro hfails
    cases hproduce : produce inv c with
    | error e => exact runCall_of_error hc (e := e) (by rw [runGenerate, hproduce]; rfl)
    | ok result =>
        have hresult := (produce_eq_ok h).mp hproduce
        cases hgiven : target? given with
        | none => exact absurd ⟨result, hresult, by simp [hgiven]⟩ hfails
        | some target =>
            have hwrite : ¬ CanWrite inv.files (Path.ofString target) := fun hwrite =>
              hfails ⟨result, hresult, by simpa [hgiven] using hwrite⟩
            obtain ⟨e, he⟩ := exists_deliver_error result hwrite
            refine runCall_of_error hc (e := e) ?_
            rw [runGenerate, hproduce, htarget, hgiven]
            exact he

/-- A command to generate that is accepted goes by the settings that it is given: what they produce
is printed or written to their target, and otherwise nothing is printed and nothing written. -/
theorem generate_is_all_or_nothing (h : read inv.files inv.args = .ok (.call c))
    (hc : c.command = .generate) :
    ∃ given, AsksFor inv.args .generate given c.input ∧
      IsAllOrNothing inv given c.input (run inv) := by
  obtain ⟨given, haccepted⟩ := exists_isAccepted (by rw [hc]; rfl) h
  refine ⟨given, hc ▸ haccepted.asks, ?_⟩
  rw [run, h]
  exact isAllOrNothing_runCall hc haccepted

theorem generate_is_all_or_nothing_zod :
    let inv : Invocation :=
      { args := ["generate", "-", "--readonly", "-o", "user.ts", "-f", "zod"], stdin := "[1]" }
    ∃ given, AsksFor inv.args .generate given "-" ∧ IsAllOrNothing inv given "-" (run inv) :=
  generate_is_all_or_nothing
    (c := ⟨.generate, .ofList
      [(.switch .useReadonly, .flag true), (.target, .text "user.ts"), (.output, .text "zod")], "-"⟩)
    rfl rfl

/-- An empty name names no target, and the definition is printed. -/
theorem generate_prints_for_empty_target :
    let inv : Invocation :=
      { args := ["generate", "-", "-i", "json", "-f", "zod", "-o", ""], stdin := "1" }
    (∃ given, AsksFor inv.args .generate given "-" ∧ lastText? given .target = some "") ∧
    (run inv).exitCode = 0 ∧ (run inv).written = [] ∧
    (run inv).stdout = "import \x7b z \x7d from 'zod';\n\nexport const RootSchema = z.number().int();\n\n" ++
      "export type Root = z.infer<typeof RootSchema>;\n" := by
  refine ⟨⟨_, ⟨[], _, rfl, rfl⟩, rfl⟩, ?_⟩
  decide +kernel

end CommandLine

end TypeDraft
