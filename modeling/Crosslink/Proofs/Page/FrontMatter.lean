import Crosslink.Page.FrontMatter
import Crosslink.Proofs.Except

/-!
# How front matter fails

A block of metadata that cannot be used is an error of the page in one case only: between dashes,
where the text is malformed. Every other failure is a fault, which nothing turns into an error of
the page: values that do not exist, whatever is wrong between braces, and fields that pages use
for themselves.
-/

namespace Crosslink.FrontMatter

/-- The block of metadata in a text with its style, if there is one. -/
def block? (text : List Char) : Option (Style × List Char) :=
  ((styleOf? (Text.joinBreaks text)).orElse fun _ =>
      styleOf? (Text.trim (Text.joinBreaks text))).bind fun style =>
    (between? style.dropFence? (Text.trim (Text.joinBreaks text))).map (style, ·)

/-- The value of a block of a style. -/
def Style.value (file : Path) (block : List Char) : Style → Except Failure Value
  | .dashes => ofYaml file block
  | .braces => ofJson block

/-- The fault of a block in braces that cannot be read. -/
def ofJsonFault : Json.Fault → Fault
  | .malformed => .malformedJson
  | .longNumber => .impossibleValue
  | .tooDeep => .tooDeep

/-- The key of an entry is a name, and none that pages use for themselves. -/
def IsField (entry : Value × Value) : Prop := ∃ name, entry.1 = .text name ∧ name ∉ reserved

/-- The faults of a text whose block of metadata cannot be used. -/
inductive Faulty (file : Path) (text : List Char) : Fault → Prop
  /-- Whatever is wrong between braces is a fault. -/
  | braces {block : List Char} {f : Json.Fault} (hblock : block? text = some (.braces, block))
      (hread : Json.read ('\x7b' :: block ++ ['\x7d']) = .error f) :
      Faulty file text (ofJsonFault f)
  /-- Between dashes only what is not malformed is a fault. -/
  | dashes {block : List Char} {y : Yaml.Fault} {f : Fault}
      (hblock : block? text = some (.dashes, block)) (hread : Yaml.load .page block = .error y)
      (hf : Failure.ofDocument (.malformedFrontMatter file) y = .fault f) : Faulty file text f
  | field {style : Style} {block : List Char} {entries : List (Value × Value)}
      (hblock : block? text = some (style, block))
      (hvalue : style.value file block = .ok (.map entries)) (hfield : ∃ e ∈ entries, ¬ IsField e) :
      Faulty file text .reservedField

variable {file : Path} {text : List Char}

/-- A text without a block has no metadata; that of a block is in its value. -/
theorem metadata_eq (file : Path) (text : List Char) : metadata file text =
    match block? text with
    | none => .ok []
    | some (style, block) => style.value file block >>= fun
      | .map entries => fieldsOf entries
      | _ => .ok [] := by
  rw [metadata, block?]
  cases (styleOf? (Text.joinBreaks text)).orElse fun _ =>
      styleOf? (Text.trim (Text.joinBreaks text)) with
  | none => rfl
  | some style =>
    simp only [Option.bind_some]
    cases between? style.dropFence? (Text.trim (Text.joinBreaks text)) with
    | none => rfl
    | some block => cases style <;> rfl

/-- Entries are fields exactly when each of them is one; there is no other failure. -/
theorem fieldsOf_cases (entries : List (Value × Value)) :
    (∃ fields, fieldsOf entries = .ok fields) ∧ (∀ e ∈ entries, IsField e) ∨
      fieldsOf entries = .error (.fault .reservedField) ∧ ∃ e ∈ entries, ¬ IsField e := by
  induction entries with
  | nil => exact .inl ⟨⟨[], rfl⟩, by simp⟩
  | cons e rest ih =>
    obtain ⟨key, v⟩ := e
    cases key with
    | text name =>
      by_cases hname : reserved.contains name = true
      · refine .inr ⟨?_, _, List.mem_cons_self, ?_⟩
        · rw [fieldsOf, if_pos hname]
        · rintro ⟨_, hkey, hfree⟩
          cases hkey
          exact hfree (List.contains_iff_mem.mp hname)
      · have hfield : IsField (.text name, v) :=
          ⟨name, rfl, fun h => hname (List.contains_iff_mem.mpr h)⟩
        rcases ih with ⟨⟨fields, hrest⟩, hall⟩ | ⟨hrest, e, he, hnot⟩
        · refine .inl ⟨⟨(name, v) :: fields, ?_⟩, List.forall_mem_cons.mpr ⟨hfield, hall⟩⟩
          rw [fieldsOf, if_neg hname, hrest]
          rfl
        · refine .inr ⟨?_, e, List.mem_cons_of_mem _ he, hnot⟩
          rw [fieldsOf, if_neg hname, hrest]
          rfl
    | _ => exact .inr ⟨rfl, _, List.mem_cons_self, by rintro ⟨_, h, -⟩; cases h⟩

theorem fieldsOf_eq_error_iff {entries : List (Value × Value)} {x : Failure} :
    fieldsOf entries = .error x ↔ x = .fault .reservedField ∧ ∃ e ∈ entries, ¬ IsField e := by
  rcases fieldsOf_cases entries with ⟨⟨fields, h⟩, hall⟩ | ⟨h, hnot⟩
  · simp only [h, reduceCtorEq, false_iff, not_and, not_exists, Classical.not_not]
    exact fun _ e he => hall e he
  · rw [h, Except.error.injEq]
    exact ⟨fun hx => ⟨hx.symm, hnot⟩, fun hx => hx.1.symm⟩

theorem value_braces_eq_error_iff {block : List Char} {x : Failure} :
    Style.braces.value file block = .error x ↔
      ∃ f, Json.read ('\x7b' :: block ++ ['\x7d']) = .error f ∧ x = .fault (ofJsonFault f) := by
  rw [Style.value, ofJson, mapError_eq_error_iff]
  refine exists_congr fun f => and_congr_right fun _ => ?_
  cases f <;> rfl

theorem value_dashes_eq_error_iff {block : List Char} {x : Failure} :
    Style.dashes.value file block = .error x ↔ ∃ f, Yaml.load .page block = .error f ∧
      x = Failure.ofDocument (.malformedFrontMatter file) f := by
  rw [Style.value, ofYaml, mapError_eq_error_iff]

/-- Metadata fails where its block has no value, or where the value has entries that are no
fields. -/
theorem metadata_eq_error_iff {x : Failure} : metadata file text = .error x ↔
    ∃ style block, block? text = some (style, block) ∧
      (style.value file block = .error x ∨
        ∃ entries, style.value file block = .ok (.map entries) ∧ fieldsOf entries = .error x) := by
  rw [metadata_eq]
  rcases block? text with _ | ⟨style, block⟩
  · simp
  · simp only [Option.some.injEq, Prod.mk.injEq, exists_and_left, exists_eq_left', and_assoc]
    rcases style.value file block with f | v
    · simp [bind, Except.bind]
    · cases v <;> simp [bind, Except.bind]

/-- The faults of metadata are those of its block. -/
theorem metadata_fault_iff {f : Fault} :
    metadata file text = .error (.fault f) ↔ Faulty file text f := by
  rw [metadata_eq_error_iff]
  constructor
  · rintro ⟨style, block, hblock, hvalue | ⟨entries, hvalue, hfields⟩⟩
    · cases style with
      | dashes =>
        obtain ⟨y, hread, hf⟩ := value_dashes_eq_error_iff.mp hvalue
        exact .dashes hblock hread hf.symm
      | braces =>
        obtain ⟨j, hread, hf⟩ := value_braces_eq_error_iff.mp hvalue
        cases hf
        exact .braces hblock hread
    · obtain ⟨hf, hnot⟩ := fieldsOf_eq_error_iff.mp hfields
      cases hf
      exact .field hblock hvalue hnot
  · rintro (⟨hblock, hread⟩ | ⟨hblock, hread, hf⟩ | ⟨hblock, hvalue, hnot⟩)
    · exact ⟨_, _, hblock, .inl (value_braces_eq_error_iff.mpr ⟨_, hread, rfl⟩)⟩
    · exact ⟨_, _, hblock, .inl (value_dashes_eq_error_iff.mpr ⟨_, hread, hf.symm⟩)⟩
    · exact ⟨_, _, hblock, .inr ⟨_, hvalue, fieldsOf_eq_error_iff.mpr ⟨rfl, hnot⟩⟩⟩

/-- Metadata is an error of the page exactly if it is malformed between dashes. -/
theorem metadata_error_iff {e : Error} : metadata file text = .error (.error e) ↔
    e = .malformedFrontMatter file ∧
      ∃ block, block? text = some (.dashes, block) ∧ Yaml.load .page block = .error .malformed := by
  rw [metadata_eq_error_iff]
  constructor
  · rintro ⟨style, block, hblock, hvalue | ⟨entries, -, hfields⟩⟩
    · cases style with
      | dashes =>
        obtain ⟨y, hread, he⟩ := value_dashes_eq_error_iff.mp hvalue
        cases y <;> cases he
        exact ⟨rfl, block, hblock, hread⟩
      | braces =>
        obtain ⟨j, -, he⟩ := value_braces_eq_error_iff.mp hvalue
        cases he
    · cases (fieldsOf_eq_error_iff.mp hfields).1
  · rintro ⟨rfl, block, hblock, hread⟩
    exact ⟨.dashes, block, hblock, .inl (value_dashes_eq_error_iff.mpr ⟨_, hread, rfl⟩)⟩

end Crosslink.FrontMatter
