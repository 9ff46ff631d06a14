import Crosslink.Proofs.Settings.Failure
import Crosslink.Proofs.Settings.Loaded
import Mathlib.Control.Monad.Basic

/-!
# Outcomes of loading

Every outcome of loading settings in a valid environment, by what the configuration file holds.
Settings are made of a mapping or of a document that counts as none. An error is reported for text
that is no document, for other values and for refused fields. What else goes wrong is a fault: bytes
that are no text, values that no document can have, and homes that nobody has.
-/

namespace Crosslink.Settings

open Settings.Configuration

/-- What a configuration file holds. -/
inductive Content where
  | missing
  | undecodable
  | broken (fault : Yaml.Fault)
  | document (value : Value)

namespace Content

/-- What the bytes of a file hold. -/
def ofBytes (bytes : List UInt8) : Content :=
  match Text.Utf8.decode bytes with
  | .error _ => .undecodable
  | .ok cs =>
    match Yaml.load .settings (Text.unifyBreaks cs) with
    | .error fault => .broken fault
    | .ok value => .document value

/-- A content stands for entries. Next to a mapping, every void value stands for none. -/
inductive Gives : Content → List (Value × Value) → Prop
  | missing : Gives .missing []
  | mapping (entries : List (Value × Value)) : Gives (.document (.map entries)) entries
  | void {value : Value} (h : value.isVoid = true) : Gives (.document value) []

/-- The entries of a content, or why there are none. -/
def entries (file : Path) : Content → Except Failure (List (Value × Value))
  | .missing => .ok []
  | .undecodable => .error (.fault .undecodable)
  | .broken fault => .error (.ofDocument (.malformedSettings file) fault)
  | .document value => mappingOf file value

variable {content : Content} {file : Path}

theorem entries_eq_ok_iff {es : List (Value × Value)} :
    content.entries file = .ok es ↔ content.Gives es := by
  constructor
  · intro h
    cases content with
    | missing =>
      cases h
      exact .missing
    | undecodable => cases h
    | broken fault => cases h
    | document value =>
      rw [entries] at h
      unfold mappingOf at h
      split at h
      · cases h
        exact .mapping _
      · split at h
        · cases h
          exact .void ‹_›
        · cases h
  · rintro (- | - | hvoid)
    · rfl
    · rfl
    · rename_i value
      rw [entries]
      unfold mappingOf
      split
      · simpa [Value.isVoid] using hvoid
      · rw [if_pos hvoid]

theorem entries_eq_error_iff {e : Error} : content.entries file = .error (.error e) ↔
    content = .broken .malformed ∧ e = .malformedSettings file ∨
      ∃ value, content = .document value ∧ value.isVoid = false ∧ (∀ es, value ≠ .map es) ∧
        e = .settingsNotMapping file := by
  cases content with
  | missing => simp [entries]
  | undecodable => simp [entries]
  | broken fault =>
    cases fault <;> simp [entries, Failure.ofDocument, eq_comm (a := e)]
  | document value =>
    rw [entries]
    unfold mappingOf
    split
    · simp
    · rename_i hmap
      cases hvoid : value.isVoid <;> simp [hvoid, eq_comm (a := e)]
      exact fun _ => hmap

theorem entries_eq_fault_iff {f : Fault} : content.entries file = .error (.fault f) ↔
    content = .undecodable ∧ f = .undecodable ∨
      ∃ fault, content = .broken fault ∧ Failure.ofDocument (.malformedSettings file) fault =
        .fault f := by
  cases content with
  | missing => simp [entries]
  | undecodable => simp [entries, eq_comm (a := f)]
  | broken fault => simp [entries]
  | document value =>
    rw [entries]
    unfold mappingOf
    split
    · simp
    · split <;> simp

end Content

/-- A configuration file that is missing, or is a file with given bytes. -/
inductive Holds (tree : FileTree) (file : Path) : Content → Prop
  | missing (h : tree.look file = .ok none) : Holds tree file .missing
  | bytes {bytes : List UInt8} (h : tree.look file = .ok (some (.file bytes))) :
      Holds tree file (.ofBytes bytes)

theorem read_of_look {tree : FileTree} {file : Path} {bytes : List UInt8}
    (h : tree.look file = .ok (some (.file bytes))) : tree.read file = .ok bytes := by
  rw [FileTree.look] at h
  rw [FileTree.read]
  split at h
  · rename_i names hnames
    simp only [hnames, bind, Except.bind]
    rw [Except.ok.inj h]
    rfl
  · cases h
  · cases h

theorem readEntries_of_holds {tree : FileTree} {file : Path} {content : Content}
    (h : Holds tree file content) : readEntries tree file = content.entries file := by
  rw [readEntries]
  cases h with
  | missing hlook => simp [hlook, Content.entries]
  | @bytes bytes hlook =>
    simp only [hlook, readText, read_of_look hlook, Content.ofBytes, bind, Except.bind,
      Except.mapError]
    cases Text.Utf8.decode bytes with
    | error e => rfl
    | ok cs =>
      simp only [pure, Except.pure]
      cases Yaml.load .settings (Text.unifyBreaks cs) <;> rfl

/-- The texts of a configuration that stand for paths. -/
def pathTexts (c : Configuration) : List String :=
  c.contentRoot :: c.outputDir :: c.logFile.toList.filter (· ≠ "")

/-- Does a text begin with a home that nobody has? -/
def Homeless (env : Environment) (text : String) : Prop :=
  expandHome env (.ofString text) = .error .unknownHome

theorem expandHome_eq_error {env : Environment} {p : Path} {f : Fault}
    (h : expandHome env p = .error f) : f = .unknownHome := by
  rw [expandHome] at h
  split at h
  · cases h
  split at h
  · simp only at h
    split at h <;> cases h
    rfl
  · cases h
  · split at h <;> cases h
    rfl
  · cases h

theorem homeless_of_resolve {env : Environment} {directory : Path} {text : String} {f : Fault}
    (h : resolve env directory text = .error f) : f = .unknownHome ∧ Homeless env text := by
  obtain hexpand | ⟨p, -, hp⟩ := bind_eq_error_iff.mp h
  · obtain rfl := expandHome_eq_error hexpand
    exact ⟨rfl, hexpand⟩
  · cases hp

theorem resolve_of_logPath {env : Environment} {directory : Path} {text : Option String} {f : Fault}
    (h : logPath env directory text = .error f) :
    ∃ named, text = some named ∧ named ≠ "" ∧ resolve env directory named = .error f := by
  unfold logPath at h
  split at h
  · cases h
  · cases h
  · rename_i named hne
    refine ⟨named, rfl, hne, ?_⟩
    cases hr : resolve env directory named <;> rw [hr] at h <;> cases h
    rfl

theorem Names.not_homeless {env : Environment} {file p : Path} {text : String}
    (h : Names env file text p) : ¬ Homeless env text := by
  obtain ⟨q, hq, -⟩ := h
  simp [Homeless, hq]

/-- A checked configuration cannot be taken exactly if one of its paths begins with an unknown
home. -/
theorem ofConfiguration_eq_error_iff {env : Environment} {tree : FileTree}
    {build : BuildVariables} {file : Path} {c : Configuration} {f : Fault} :
    ofConfiguration env tree build file c = .error f ↔
      f = .unknownHome ∧ ∃ text ∈ pathTexts c, Homeless env text := by
  have hfails : ∀ f, ofConfiguration env tree build file c = .error f →
      f = .unknownHome ∧ ∃ text ∈ pathTexts c, Homeless env text := by
    intro f h
    rw [ofConfiguration_eq] at h
    obtain hroot | ⟨_, -, h⟩ := bind_eq_error_iff.mp h
    · obtain ⟨hf, hhome⟩ := homeless_of_resolve hroot
      exact ⟨hf, _, by simp [pathTexts], hhome⟩
    obtain hout | ⟨_, -, h⟩ := bind_eq_error_iff.mp h
    · obtain ⟨hf, hhome⟩ := homeless_of_resolve hout
      exact ⟨hf, _, by simp [pathTexts], hhome⟩
    obtain hlog | ⟨_, -, h⟩ := bind_eq_error_iff.mp h
    · obtain ⟨text, htext, hne, hresolve⟩ := resolve_of_logPath hlog
      obtain ⟨hf, hhome⟩ := homeless_of_resolve hresolve
      exact ⟨hf, text, by simp [pathTexts, htext, hne], hhome⟩
    · cases h
  refine ⟨hfails f, ?_⟩
  rintro ⟨rfl, text, htext, hhome⟩
  cases hs : ofConfiguration env tree build file c with
  | error f => rw [(hfails f hs).1]
  | ok s =>
    have hreal := ofConfiguration_eq_ok_iff.mp hs
    exfalso
    simp only [pathTexts, List.mem_cons, List.mem_filter, Option.mem_toList] at htext
    obtain rfl | rfl | ⟨hlog, hne⟩ := htext
    · exact hreal.contentRoot.not_homeless hhome
    · exact hreal.outputDir.not_homeless hhome
    · have hnames := hreal.logFile
      rw [hlog] at hnames
      unfold NamesLog at hnames
      split at hnames
      · cases ‹some text = none›
      · simp_all
      · cases ‹some text = some _›
        obtain ⟨q, hq, -⟩ := hnames
        exact hq.not_homeless hhome

variable {env extended : Environment} {tree : FileTree} {file : Path} {envFile : Option Path}
  {vars : Variables} {content : Content}

theorem load_of_holds (hextend : extendFrom tree (envFile.getD (variablesFile file)) env = .ok extended)
    (hvars : Variables.ofEnvironment extended tree = .ok vars) (hcontent : Holds tree file content)
    (wishes : Fields) : load env tree file envFile wishes = (extended, do
      let entries ← content.entries file
      match ofEntries (combine vars.build wishes entries) with
      | .refused vs => .error (.error (.invalidSettings file vs))
      | .ok c => (ofConfiguration extended tree vars.build file c).mapError .fault) := by
  rw [load, hextend]
  simp only [ofEnvironment, hvars, readEntries_of_holds hcontent]
  rfl

/-- What becomes of loading settings in a valid environment, when the configuration file is missing
or is a file. Settings are loaded exactly from entries that are accepted, with known homes. Errors
are those of the settings, for text that is no document, values that are neither void nor mappings,
and refused entries. All else is a fault: undecodable bytes, any other fault of a document, and
unknown homes. -/
theorem load_outcome
    (hextend : extendFrom tree (envFile.getD (variablesFile file)) env = .ok extended)
    (hvars : Variables.ofEnvironment extended tree = .ok vars)
    (hcontent : Holds tree file content) (wishes : Fields) :
    (∀ s, (load env tree file envFile wishes).2 = .ok s ↔ ∃ entries c, content.Gives entries ∧
      ofEntries (combine vars.build wishes entries) = .ok c ∧
      Realizes extended tree vars.build file c s) ∧
    (∀ e, (load env tree file envFile wishes).2 = .error (.error e) ↔
      (content = .broken .malformed ∧ e = .malformedSettings file) ∨
      (∃ value, content = .document value ∧ value.isVoid = false ∧ (∀ es, value ≠ .map es) ∧
        e = .settingsNotMapping file) ∨
      ∃ entries vs, content.Gives entries ∧
        ofEntries (combine vars.build wishes entries) = .refused vs ∧
        e = .invalidSettings file vs) ∧
    (∀ f, (load env tree file envFile wishes).2 = .error (.fault f) ↔
      (content = .undecodable ∧ f = .undecodable) ∨
      (∃ fault, content = .broken fault ∧
        Failure.ofDocument (.malformedSettings file) fault = .fault f) ∨
      ∃ entries c, content.Gives entries ∧ ofEntries (combine vars.build wishes entries) = .ok c ∧
        f = .unknownHome ∧ ∃ text ∈ pathTexts c, Homeless extended text) ∧
    ∀ e, (load env tree file envFile wishes).2 = .error (.error e) → e.category = .configuration := by
  refine ⟨fun s => ?_, fun e => ?_, fun f => ?_, fun e => category_of_load⟩ <;>
    rw [load_of_holds hextend hvars hcontent]
  · simp only [bind_eq_ok_iff, Content.entries_eq_ok_iff]
    refine exists_congr fun entries => ?_
    cases ofEntries (combine vars.build wishes entries) with
    | refused vs => simp
    | ok c => simp [mapError_eq_ok_iff, ofConfiguration_eq_ok_iff]
  · simp only [bind_eq_error_iff, Content.entries_eq_ok_iff, Content.entries_eq_error_iff, or_assoc]
    refine or_congr Iff.rfl (or_congr Iff.rfl (exists_congr fun entries => ?_))
    cases ofEntries (combine vars.build wishes entries) with
    | refused vs => simp [eq_comm (a := e)]
    | ok c => simp [mapError_eq_error_iff]
  · simp only [bind_eq_error_iff, Content.entries_eq_ok_iff, Content.entries_eq_fault_iff, or_assoc]
    refine or_congr Iff.rfl (or_congr Iff.rfl (exists_congr fun entries => ?_))
    cases ofEntries (combine vars.build wishes entries) with
    | refused vs => simp
    | ok c => simp [mapError_eq_error_iff, ofConfiguration_eq_error_iff]

namespace Sample

/-- A configuration file with given bytes, and nothing else. -/
def configured (bytes : List UInt8) : FileTree := ⟨[(["docref.yaml"], .file bytes)]⟩

/-- The variables of an empty environment. -/
def silent : Variables := ⟨⟨.development, none, "", ""⟩, .info⟩

/-- The settings of a configuration without entries. -/
def bare : Settings where
  contentRoot := .ofString default.contentRoot
  outputDir := .ofString default.outputDir
  repoBaseUrl := default.repoBaseUrl
  defaultBranch := default.defaultBranch
  strict := false
  missingIdentifier := default.missingIdentifier
  repoLinkRequiresPath := default.repoLinkRequiresPath
  extensions := default.extensions
  workers := default.workers
  logFile := none
  mode := .development
  configFile := some defaultFile

/-- Entries that are no mapping. -/
def listed : List UInt8 := Text.Utf8.encode "- a\n".toList

end Sample

theorem load_outcome_sample :
    Holds (Sample.configured Sample.listed) defaultFile (.ofBytes Sample.listed) ∧
      ∃ value, Content.ofBytes Sample.listed = .document value ∧ value.isVoid = false ∧
        ∀ es, value ≠ .map es := by
  have hextend : extendFrom (Sample.configured Sample.listed)
      ((none : Option Path).getD (variablesFile defaultFile)) ⟨[]⟩ = .ok ⟨[]⟩ := by decide +kernel
  have hvars : Variables.ofEnvironment ⟨[]⟩ (Sample.configured Sample.listed) =
      .ok Sample.silent := by decide +kernel
  have hholds : Holds (Sample.configured Sample.listed) defaultFile (.ofBytes Sample.listed) :=
    .bytes (by decide +kernel)
  obtain ⟨-, herror, -, -⟩ := load_outcome hextend hvars hholds []
  have hload : (load ⟨[]⟩ (Sample.configured Sample.listed) defaultFile none []).2 =
      .error (.error (.settingsNotMapping defaultFile)) := by decide +kernel
  refine ⟨hholds, ?_⟩
  obtain ⟨-, he⟩ | ⟨value, hvalue, hvoid, hmap, -⟩ | ⟨_, _, -, -, he⟩ := (herror _).mp hload
  · cases he
  · exact ⟨value, hvalue, hvoid, hmap⟩
  · cases he

/-- A document that is an empty list gives settings, and three kinds of bad configuration files
lead to faults: bytes that are no text, an impossible date, and a home that nobody has. -/
theorem bad_configuration_escapes :
    let outcome := fun bytes => (load ⟨[]⟩ (Sample.configured bytes) defaultFile none []).2
    outcome (Text.Utf8.encode "[]\n".toList) = .ok Sample.bare ∧
      outcome [0xff] = .error (.fault .undecodable) ∧
      outcome (Text.Utf8.encode "a: 2024-02-30\n".toList) = .error (.fault .impossibleValue) ∧
      outcome (Text.Utf8.encode "log_file: ~missing/x\n".toList) =
        .error (.fault .unknownHome) := by
  refine ⟨?_, ?_, ?_, ?_⟩ <;> decide +kernel

end Crosslink.Settings
