import Crosslink.Proofs.Settings.Fields
import Crosslink.Proofs.Text.LowerCase
import Crosslink.Proofs.Text.Strip

/-!
# The normal form of a configuration

The rules of the fields, said of the values themselves. A configuration that obeys them is exactly
one that is accepted again as it is. Accepting a mapping brings its values to this form, but for
two fields whose last step may undo what a rule before it has seen to: the slashes around a branch
are dropped after its blanks, and those behind an address after its protocol was looked at.
-/

namespace Crosslink.Settings

open Text (isBlank lowerString strip stripEnd trimString)

/-- Text with something in it and no blank at its ends. -/
structure Tidy (s : String) : Prop where
  nonempty : s ≠ ""
  head : ∀ c ∈ s.toList.head?, isBlank c = false
  last : ∀ c ∈ s.toList.getLast?, isBlank c = false

theorem tidy_iff {s : String} : Tidy s ↔ (s != "" && s.toList.head?.all (!isBlank ·) &&
    s.toList.getLast?.all (!isBlank ·)) = true := by
  simp only [Bool.and_eq_true, bne_iff_ne, Option.all_eq_true, Bool.not_eq_true']
  exact ⟨fun h => ⟨⟨h.nonempty, h.head⟩, h.last⟩, fun ⟨⟨h, hhead⟩, hlast⟩ => ⟨h, hhead, hlast⟩⟩

instance (s : String) : Decidable (Tidy s) := decidable_of_iff _ tidy_iff.symm

theorem tidy_trimString {s : String} (h : trimString s ≠ "") : Tidy (trimString s) := by
  obtain ⟨-, hhead, hlast⟩ := Text.trimmed_trim s.toList
  exact ⟨h, by simpa [trimString] using hhead, by simpa [trimString] using hlast⟩

theorem Tidy.trimString {s : String} (h : Tidy s) : trimString s = s := by
  have htrim : Text.Trimmed s.toList s.toList := ⟨⟨[], [], by simp⟩, h.head, h.last⟩
  rw [Text.trimString, ← htrim.eq, String.ofList_toList]

namespace Configuration

theorem requireText_eq_ok_iff {s t : String} :
    requireText s = .ok t ↔ t = trimString s ∧ t ≠ "" := by
  rw [requireText]
  by_cases h : trimString s = ""
  · simp [h]
  · simp only [h, beq_iff_eq, if_false, Except.ok.injEq]
    constructor
    · rintro rfl
      exact ⟨rfl, h⟩
    · exact fun ht => ht.1.symm

/-- Text is accepted as it is exactly if it is tidy. -/
theorem requireText_self_iff {s : String} : requireText s = .ok s ↔ Tidy s := by
  rw [requireText_eq_ok_iff]
  constructor
  · rintro ⟨hs, hne⟩
    rw [hs] at hne ⊢
    exact tidy_trimString hne
  · intro h
    exact ⟨h.trimString.symm, h.nonempty⟩

theorem tidy_of_requireText {s t : String} (h : requireText s = .ok t) : Tidy t := by
  obtain ⟨rfl, hne⟩ := requireText_eq_ok_iff.mp h
  exact tidy_trimString hne

/-! ## Branches -/

theorem requireBranch_eq_ok_iff {s b : String} : requireBranch s = .ok b ↔
    trimString s ≠ "" ∧ ' ' ∉ (trimString s).toList ∧ b = strip '/' (trimString s) := by
  rw [requireBranch, bind_eq_ok_iff]
  simp only [requireText_eq_ok_iff]
  constructor
  · rintro ⟨_, ⟨rfl, hne⟩, h⟩
    by_cases hspace : ' ' ∈ (trimString s).toList
    · simp [hspace] at h
    · exact ⟨hne, hspace, by simpa [hspace, eq_comm] using h⟩
  · rintro ⟨hne, hspace, rfl⟩
    exact ⟨_, ⟨rfl, hne⟩, by simp [hspace]⟩

/-- A branch is accepted as it is exactly if it is tidy, without spaces, and without slashes at its
ends. -/
theorem requireBranch_self_iff {b : String} : requireBranch b = .ok b ↔
    Tidy b ∧ ' ' ∉ b.toList ∧ b.toList.head? ≠ some '/' ∧ b.toList.getLast? ≠ some '/' := by
  rw [requireBranch_eq_ok_iff]
  constructor
  · rintro ⟨hne, hspace, hb⟩
    -- Neither step adds characters, so neither has dropped any.
    have hstrip := Text.strip_sublist '/' (trimString b)
    rw [← hb] at hstrip
    have htrim : (trimString b).toList.Sublist b.toList := by
      simpa [trimString] using Text.trim_sublist b.toList
    have hsame : trimString b = b :=
      String.toList_inj.mp (htrim.eq_of_length_le hstrip.length_le)
    have htidy := tidy_trimString hne
    rw [hsame] at htidy hspace hb
    have hhead := Text.head?_strip '/' b
    have hlast := Text.getLast?_strip '/' b
    rw [← hb] at hhead hlast
    exact ⟨htidy, hspace, hhead, hlast⟩
  · rintro ⟨htidy, hspace, hhead, hlast⟩
    rw [htidy.trimString]
    exact ⟨htidy.nonempty, hspace, (Text.strip_eq_self hhead hlast).symm⟩

/-! ## Addresses -/

/-- Something other than slashes stands behind the first slash. -/
def HasHost (s : String) : Prop := ∃ c ∈ s.toList.dropWhile (· != '/'), c ≠ '/'

theorem hasHost_iff {s : String} :
    HasHost s ↔ ((s.toList.dropWhile (· != '/')).any (· != '/')) = true := by
  simp [HasHost]

instance (s : String) : Decidable (HasHost s) := decidable_of_iff _ hasHost_iff.symm

/-- An address on the web begins with one of two protocols and two slashes. -/
theorem isWebAddress_iff {s : String} : isWebAddress s = true ↔
    ∃ protocol ∈ ["http:", "https:"], ∃ rest, s.toList = protocol.toList ++ '/' :: '/' :: rest := by
  have hhttp : ("http://" : String).toList = "http:".toList ++ ['/', '/'] := by decide +kernel
  have hhttps : ("https://" : String).toList = "https:".toList ++ ['/', '/'] := by decide +kernel
  simp only [isWebAddress, Bool.or_eq_true, String.startsWith_string_iff, hhttp, hhttps,
    List.mem_cons, List.not_mem_nil, or_false, exists_eq_or_imp, exists_eq_left]
  simp only [List.IsPrefix, List.append_assoc, List.cons_append, List.nil_append, eq_comm]

/-- Without the slashes at its end an address is still one exactly if it has a host. -/
theorem isWebAddress_stripEnd {s : String} (h : isWebAddress s = true) :
    isWebAddress (stripEnd '/' s) = true ↔ HasHost s := by
  obtain ⟨protocol, hprotocol, rest, hs⟩ := isWebAddress_iff.mp h
  -- A protocol has no slash, and ends with a colon.
  have hplain : ∀ c ∈ protocol.toList, (c != '/') = true := by
    simp only [List.mem_cons, List.not_mem_nil, or_false] at hprotocol
    rcases hprotocol with rfl | rfl <;> exact List.all_eq_true.mp (by decide +kernel)
  have hbehind : s.toList.dropWhile (· != '/') = '/' :: '/' :: rest := by
    rw [hs, List.dropWhile_append_of_pos hplain]
    rfl
  have hstrip : (stripEnd '/' s).toList = Text.dropEndWhile (· == '/') s.toList := by
    simp [stripEnd]
  rw [HasHost, hbehind]
  constructor
  · intro hweb
    by_contra hnone
    have hall : ∀ c ∈ '/' :: '/' :: rest, (c == '/') = true := by
      intro c hc
      by_contra hne
      exact hnone ⟨c, hc, by simpa using hne⟩
    have hleft : stripEnd '/' s = protocol := by
      rw [← String.toList_inj, hstrip, hs, Text.dropEndWhile_append_of_all hall]
      simp only [List.mem_cons, List.not_mem_nil, or_false] at hprotocol
      rcases hprotocol with rfl | rfl <;> decide +kernel
    rw [hleft] at hweb
    simp only [List.mem_cons, List.not_mem_nil, or_false] at hprotocol
    rcases hprotocol with rfl | rfl <;> exact absurd hweb (by decide +kernel)
  · rintro ⟨c, hc, hne⟩
    have hmem : c ∈ rest := by simpa [hne] using hc
    refine isWebAddress_iff.mpr ⟨protocol, hprotocol, Text.dropEndWhile (· == '/') rest, ?_⟩
    have hfront : protocol.toList ++ '/' :: '/' :: rest =
        (protocol.toList ++ ['/', '/']) ++ rest := by simp
    rw [hstrip, hs, hfront, Text.dropEndWhile_append_of_mem ⟨c, hmem, by simpa using hne⟩]
    simp

theorem requireAddress_eq_ok_iff {s t : String} :
    requireAddress s = .ok t ↔ isWebAddress s = true ∧ t = stripEnd '/' s := by
  rw [requireAddress]
  by_cases h : isWebAddress s = true <;> simp [h, eq_comm]

theorem getLast?_stripEnd (c : Char) (s : String) : (stripEnd c s).toList.getLast? ≠ some c := by
  intro h
  have hdropped : (stripEnd c s).toList = Text.dropEndWhile (· == c) s.toList := by simp [stripEnd]
  rw [hdropped] at h
  have hlast := Text.getLast?_dropEndWhile h
  simp at hlast

/-- An address is accepted as it is exactly if it is one and does not end with a slash. -/
theorem requireAddress_self_iff {s : String} :
    requireAddress s = .ok s ↔ isWebAddress s = true ∧ s.toList.getLast? ≠ some '/' := by
  rw [requireAddress_eq_ok_iff]
  refine and_congr_right fun _ => ⟨fun h => ?_, fun h => ?_⟩
  · rw [h]
    exact getLast?_stripEnd '/' s
  · rw [← String.toList_inj, stripEnd, String.toList_ofList, Text.dropEndWhile_eq_self]
    intro c hc
    rw [beq_eq_false_iff_ne]
    rintro rfl
    exact h hc

/-! ## Extensions and numbers of workers -/

theorem requireExtensions_eq_ok_iff {texts extensions : List String} :
    requireExtensions texts = .ok extensions ↔
      (∀ e ∈ texts, e.startsWith "." = true) ∧ extensions = texts.map lowerString := by
  rw [requireExtensions]
  cases hfind : texts.find? fun e => !e.startsWith "." with
  | some e =>
    have hmem := List.mem_of_find?_eq_some hfind
    have hno := List.find?_some hfind
    simp only [reduceCtorEq, false_iff, not_and]
    intro hall
    simp [hall e hmem] at hno
  | none =>
    have hall : ∀ e ∈ texts, e.startsWith "." = true := fun e he => by
      simpa using List.find?_eq_none.mp hfind e he
    exact ⟨fun h => ⟨hall, (Except.ok.inj h).symm⟩, fun h => h.2 ▸ rfl⟩

theorem startsWith_dot_iff {e : String} : e.startsWith "." = true ↔ e.toList.head? = some '.' := by
  have hdot : (".").toList = ['.'] := by decide +kernel
  rw [String.startsWith_string_iff, hdot]
  cases e.toList with
  | nil => simp
  | cons c rest => simp [List.cons_prefix_cons, eq_comm]

theorem requireWorkers_eq_ok_iff {n : Int} {w : Nat} :
    requireWorkers n = .ok w ↔ n = w ∧ 1 ≤ w ∧ w ≤ 64 := by
  rw [requireWorkers]
  split
  · simp; omega
  · split
    · simp; omega
    · simp; omega

/-! ## All fields -/

/-- What the last step of each field sees to. -/
structure Trimmed (c : Configuration) : Prop where
  contentRoot : Tidy c.contentRoot
  outputDir : Tidy c.outputDir
  address : c.repoBaseUrl.toList.getLast? ≠ some '/'
  spaces : ' ' ∉ c.defaultBranch.toList
  slashes : c.defaultBranch.toList.head? ≠ some '/' ∧ c.defaultBranch.toList.getLast? ≠ some '/'
  extensions : ∀ e ∈ c.extensions, e.startsWith "." = true ∧ lowerString e = e
  workers : 1 ≤ c.workers ∧ c.workers ≤ 64

/-- All rules of the fields, said of their values. -/
structure Normal (c : Configuration) : Prop extends Trimmed c where
  protocol : isWebAddress c.repoBaseUrl = true
  branch : Tidy c.defaultBranch

/-- A configuration as a mapping with every field. -/
def toEntries (c : Configuration) : List (Value × Value) := [
  (.text "content_root", .text c.contentRoot),
  (.text "output_dir", .text c.outputDir),
  (.text "repo_base_url", .text c.repoBaseUrl),
  (.text "default_branch", .text c.defaultBranch),
  (.text "strict_mode", (c.strictMode.map Value.bool).getD .null),
  (.text "missing_identifier", .text c.missingIdentifier.text),
  (.text "repo_link_requires_path", .bool c.repoLinkRequiresPath),
  (.text "extensions", .list (c.extensions.map .text)),
  (.text "workers", .int c.workers),
  (.text "log_file", (c.logFile.map Value.text).getD .null)]

theorem mapM_readString (texts : List String) :
    (texts.map Value.text).mapM readString = .ok texts := by
  induction texts with
  | nil => rfl
  | cons s rest ih =>
    rw [List.map_cons, List.mapM_cons, ih]
    rfl

theorem keyViolation?_toEntries {c : Configuration} :
    ∀ e ∈ c.toEntries, keyViolation? e.1 = none := by
  intro e he
  have hnames : c.toEntries.map (·.1) = fieldNames.map Value.text := rfl
  have hmem : e.1 ∈ fieldNames.map Value.text := hnames ▸ List.mem_map_of_mem he
  obtain ⟨name, hname, hkey⟩ := List.mem_map.mp hmem
  rw [← hkey, keyViolation?, if_pos (by simpa using hname)]

theorem extensionsOf_texts {texts extensions : List String} :
    extensionsOf (.list (texts.map .text)) = .ok extensions ↔
      (∀ e ∈ texts, e.startsWith "." = true) ∧ extensions = texts.map lowerString := by
  have hread : extensionsOf (.list (texts.map .text)) = requireExtensions texts := by
    rw [extensionsOf, readItems]
    change ((texts.map Value.text).mapM readString >>= requireExtensions) = _
    rw [mapM_readString]
    rfl
  rw [hread, requireExtensions_eq_ok_iff]

/-- A configuration is accepted again, as it is, exactly if it is in normal form. -/
theorem ofEntries_toEntries_iff {c : Configuration} :
    ofEntries c.toEntries = .ok c ↔ c.Normal := by
  rw [ofEntries_eq_ok_iff, and_iff_right keyViolation?_toEntries]
  constructor
  · intro h
    have hroot := requireText_self_iff.mp ((readFrom_text rfl).mp h.contentRoot)
    have hout := requireText_self_iff.mp ((readFrom_text rfl).mp h.outputDir)
    obtain ⟨hweb, hlast⟩ := requireAddress_self_iff.mp ((readFrom_text rfl).mp h.repoBaseUrl)
    obtain ⟨htidy, hspaces, hslashes⟩ :=
      requireBranch_self_iff.mp ((readFrom_text rfl).mp h.defaultBranch)
    obtain ⟨hdots, hlower⟩ := extensionsOf_texts.mp ((readFrom_some rfl).mp h.extensions)
    have hworkers : requireWorkers c.workers = .ok c.workers := (readFrom_some rfl).mp h.workers
    refine ⟨⟨hroot, hout, hlast, hspaces, hslashes, fun e he => ⟨hdots e he, ?_⟩,
      (requireWorkers_eq_ok_iff.mp hworkers).2⟩, hweb, htidy⟩
    exact List.map_eq_map_iff.mp (hlower.symm.trans (List.map_id _).symm) e he
  · intro h
    have hstrict : readOptional readTruth ((c.strictMode.map Value.bool).getD .null) =
        .ok c.strictMode := by cases c.strictMode <;> rfl
    have hpolicy : readPolicy (.text c.missingIdentifier.text) = .ok c.missingIdentifier := by
      rw [readPolicy, readString, Except.toOption, Option.bind_some, MissingPolicy.ofText?_text]
    have hlower : c.extensions = c.extensions.map lowerString := by
      rw [List.map_congr_left fun e he => (h.extensions e he).2, List.map_id']
    have hextensions := extensionsOf_texts.mpr ⟨fun e he => (h.extensions e he).1, hlower⟩
    have hworkers := requireWorkers_eq_ok_iff.mpr ⟨rfl, h.workers⟩
    have hlog : readOptional readString ((c.logFile.map Value.text).getD .null) = .ok c.logFile := by
      cases c.logFile <;> rfl
    exact {
      contentRoot := (readFrom_text rfl).mpr (requireText_self_iff.mpr h.contentRoot)
      outputDir := (readFrom_text rfl).mpr (requireText_self_iff.mpr h.outputDir)
      repoBaseUrl := (readFrom_text rfl).mpr
        (requireAddress_self_iff.mpr ⟨h.protocol, h.address⟩)
      defaultBranch := (readFrom_text rfl).mpr
        (requireBranch_self_iff.mpr ⟨h.branch, h.spaces, h.slashes⟩)
      strictMode := (readFrom_some rfl).mpr hstrict
      missingIdentifier := (readFrom_some rfl).mpr hpolicy
      repoLinkRequiresPath := (readFrom_some rfl).mpr rfl
      extensions := (readFrom_some rfl).mpr hextensions
      workers := (readFrom_some rfl).mpr hworkers
      logFile := (readFrom_some rfl).mpr hlog }

/-- The defaults are in normal form. -/
theorem normal_default : default.Normal := by
  refine ⟨⟨?_, ?_, ?_, ?_, ?_, ?_, ?_⟩, ?_, ?_⟩ <;> decide +kernel

/-- What the document says of the two fields whose last step may undo an earlier rule: something
is left of the branch without the slashes around it, and no blank is next to them; the address has
a host. -/
structure Sturdy (entries : List (Value × Value)) : Prop where
  branch : ∀ v s, Value.lookup? "default_branch" entries = some v → readString v = .ok s →
    Tidy (strip '/' (trimString s))
  address : ∀ v s, Value.lookup? "repo_base_url" entries = some v → readString v = .ok s →
    HasHost s

section Accepted

variable {entries : List (Value × Value)} {c : Configuration}

/-- Extensions that are read are in lower case and begin with a dot. -/
theorem of_extensionsOf {v : Value} {extensions : List String}
    (h : extensionsOf v = .ok extensions) :
    ∀ e ∈ extensions, e.startsWith "." = true ∧ lowerString e = e := by
  obtain ⟨items, -, h⟩ := bind_eq_ok_iff.mp h
  obtain ⟨texts, -, h⟩ := bind_eq_ok_iff.mp h
  obtain ⟨hdots, rfl⟩ := requireExtensions_eq_ok_iff.mp h
  intro e he
  obtain ⟨text, htext, rfl⟩ := List.mem_map.mp he
  have hdot : Text.IsLower '.' := by decide +kernel
  refine ⟨startsWith_dot_iff.mpr (Text.head?_lowerString hdot ?_), Text.lowerString_lowerString _⟩
  exact startsWith_dot_iff.mp (hdots text htext)

/-- Each field has what its last step sees to. -/
theorem Reads.trimmed (h : Reads entries c) : c.Trimmed where
  contentRoot := h.contentRoot.elim_bind (fun _ _ => tidy_of_requireText)
    normal_default.contentRoot
  outputDir := h.outputDir.elim_bind (fun _ _ => tidy_of_requireText) normal_default.outputDir
  address := by
    refine h.repoBaseUrl.elim_bind (P := fun s => s.toList.getLast? ≠ some '/')
      (fun s t ht => ?_) normal_default.address
    rw [(requireAddress_eq_ok_iff.mp ht).2]
    exact getLast?_stripEnd '/' s
  spaces := by
    refine h.defaultBranch.elim_bind (P := fun s => ' ' ∉ s.toList) (fun s t ht => ?_)
      normal_default.spaces
    obtain ⟨-, hspaces, rfl⟩ := requireBranch_eq_ok_iff.mp ht
    exact fun hmem => hspaces ((Text.strip_sublist '/' _).subset hmem)
  slashes := by
    refine h.defaultBranch.elim_bind
      (P := fun s => s.toList.head? ≠ some '/' ∧ s.toList.getLast? ≠ some '/')
      (fun s t ht => ?_) normal_default.slashes
    obtain ⟨-, -, rfl⟩ := requireBranch_eq_ok_iff.mp ht
    exact ⟨Text.head?_strip '/' _, Text.getLast?_strip '/' _⟩
  extensions := h.extensions.elim (P := fun extensions => ∀ e ∈ extensions,
    e.startsWith "." = true ∧ lowerString e = e) (fun _ _ => of_extensionsOf)
    normal_default.extensions
  workers := h.workers.elim_bind (P := fun w => 1 ≤ w ∧ w ≤ 64)
    (fun _ _ hw => (requireWorkers_eq_ok_iff.mp hw).2) normal_default.workers

/-- The branch is tidy exactly if the document leaves it so. -/
theorem Reads.tidy_branch_iff (h : Reads entries c) : Tidy c.defaultBranch ↔
    ∀ v s, Value.lookup? "default_branch" entries = some v → readString v = .ok s →
      Tidy (strip '/' (trimString s)) := by
  have hread := h.defaultBranch
  cases hv : Value.lookup? "default_branch" entries with
  | none =>
    rw [hv] at hread
    have hdefault : c.defaultBranch = default.defaultBranch := hread
    simpa [hdefault] using normal_default.branch
  | some v =>
    rw [hv] at hread
    obtain ⟨s, hs, hrequire⟩ := bind_eq_ok_iff.mp hread
    obtain ⟨-, -, hbranch⟩ := requireBranch_eq_ok_iff.mp hrequire
    rw [hbranch]
    constructor
    · rintro htidy v s' ⟨⟩ hs'
      obtain rfl := Except.ok.inj (hs.symm.trans hs')
      exact htidy
    · exact fun hall => hall v s rfl hs

/-- The address is one exactly if it has a host in the document. -/
theorem Reads.isWebAddress_iff (h : Reads entries c) : isWebAddress c.repoBaseUrl = true ↔
    ∀ v s, Value.lookup? "repo_base_url" entries = some v → readString v = .ok s →
      HasHost s := by
  have hread := h.repoBaseUrl
  cases hv : Value.lookup? "repo_base_url" entries with
  | none =>
    rw [hv] at hread
    have hdefault : c.repoBaseUrl = default.repoBaseUrl := hread
    simpa [hdefault] using normal_default.protocol
  | some v =>
    rw [hv] at hread
    obtain ⟨s, hs, hrequire⟩ := bind_eq_ok_iff.mp hread
    obtain ⟨hweb, haddress⟩ := requireAddress_eq_ok_iff.mp hrequire
    rw [haddress, isWebAddress_stripEnd hweb]
    constructor
    · rintro hhost v s' ⟨⟩ hs'
      obtain rfl := Except.ok.inj (hs.symm.trans hs')
      exact hhost
    · exact fun hall => hall v s rfl hs

end Accepted

/-- The values of an accepted configuration have what the last step of each field sees to. They
obey all rules of the fields, and are accepted again as they are, exactly if the branch in the
document is more than slashes, with no blank next to those at its ends, and the address has a
host. -/
theorem normal_iff_sturdy {entries : List (Value × Value)} {c : Configuration}
    (h : ofEntries entries = .ok c) :
    c.Trimmed ∧ (c.Normal ↔ Sturdy entries) ∧ (ofEntries c.toEntries = .ok c ↔ Sturdy entries) := by
  obtain ⟨-, hreads⟩ := ofEntries_eq_ok_iff.mp h
  have hnormal : c.Normal ↔ Sturdy entries := by
    constructor
    · intro hc
      exact ⟨hreads.tidy_branch_iff.mp hc.branch, hreads.isWebAddress_iff.mp hc.protocol⟩
    · intro hsturdy
      exact ⟨hreads.trimmed, hreads.isWebAddress_iff.mpr hsturdy.address,
        hreads.tidy_branch_iff.mpr hsturdy.branch⟩
  exact ⟨hreads.trimmed, hnormal, ofEntries_toEntries_iff.trans hnormal⟩

namespace Sample

/-- A mapping with much to tidy up. -/
def entries : List (Value × Value) := [
  (.text "content_root", .text " docs\n"),
  (.text "repo_base_url", .text "https://example.com/org//"),
  (.text "default_branch", .text " /release/v2/ "),
  (.text "extensions", .list [.text ".MD", .text ".ΟΔΟΣ"]),
  (.text "workers", .text "64")]

def configuration : Configuration :=
  { default with
    contentRoot := "docs"
    repoBaseUrl := "https://example.com/org"
    defaultBranch := "release/v2"
    extensions := [".md", ".οδος"]
    workers := 64 }

/-- A branch of slashes, and an address of nothing but a protocol and slashes. -/
def spoilt : List (Value × Value) :=
  [(.text "repo_base_url", .text "http://"), (.text "default_branch", .text "/")]

end Sample

theorem normal_iff_sturdy_sample :
    ofEntries Sample.entries = .ok Sample.configuration ∧ Sturdy Sample.entries ∧
      Sample.configuration.Normal ∧
        ofEntries Sample.configuration.toEntries = .ok Sample.configuration := by
  have h : ofEntries Sample.entries = .ok Sample.configuration := by decide +kernel
  have hsturdy : Sturdy Sample.entries := by
    constructor
    · rintro v s ⟨⟩ ⟨⟩
      decide +kernel
    · rintro v s ⟨⟩ ⟨⟩
      decide +kernel
  obtain ⟨-, hnormal, hagain⟩ := normal_iff_sturdy h
  exact ⟨h, hsturdy, hnormal.mpr hsturdy, hagain.mpr hsturdy⟩

/-- A branch that is accepted may be empty afterwards, and an address may have lost its slashes;
neither is accepted again. -/
theorem normal_form_lost :
    ofEntries Sample.spoilt =
        .ok { default with repoBaseUrl := "http:", defaultBranch := "" } ∧
      ¬ Normal { default with repoBaseUrl := "http:", defaultBranch := "" } ∧
        ofEntries (toEntries { default with repoBaseUrl := "http:", defaultBranch := "" }) =
          .refused [
            .ofField "repo_base_url" (.fieldRule (some
              "repo_base_url must start with http:// or https://, got: http:")),
            .ofField "default_branch" (.fieldRule (some "must not be empty"))] := by
  refine ⟨by decide +kernel, fun h => ?_, by decide +kernel⟩
  exact h.branch.nonempty rfl

end Configuration

end Crosslink.Settings
