import Crosslink.Proofs.Build.Address
import Crosslink.Proofs.Build.Settled
import Crosslink.Proofs.Path.Order
import Crosslink.Proofs.Text.PercentEncoding
import Crosslink.Proofs.Text.Run

/-!
# Canonical paths

The names that a location shows on the site are said by rules: a markdown suffix of the last name
does not show, and then a last `index` does not. The canonical path is the names percent-encoded
between slashes. It is read back to the names, so two locations have the same canonical path exactly
if they show the same names, and it can be written as the target of a link that is no token.
-/

namespace Crosslink.Location

/-- The names without a markdown suffix at the end. -/
inductive Stripped : (names stripped : List String) → Prop
  | nil : Stripped [] []
  | markdown {front : List String} {stem suffix : String} (h : suffix ∈ [".md", ".mdx"]) :
      Stripped (front ++ [stem ++ suffix]) (front ++ [stem])
  | other {front : List String} {name : String}
      (h : ∀ stem, ∀ suffix ∈ [".md", ".mdx"], name ≠ stem ++ suffix) :
      Stripped (front ++ [name]) (front ++ [name])

/-- The names without one `index` at the end. -/
inductive Collapsed : (names collapsed : List String) → Prop
  | index {front : List String} : Collapsed (front ++ ["index"]) front
  | other {names : List String} (h : names.getLast? ≠ some "index") : Collapsed names names

/-- What a location shows on the site: its names below the root without a markdown suffix and then
without an `index` at the end. -/
def Shows (root l : Path) (names : List String) : Prop :=
  ∃ below stripped, relative root l = .ok below ∧ Stripped below.segments stripped ∧
    Collapsed stripped names

/-- A location that is relative, and whose file name does not begin with a dot. -/
structure IsVisible (l : Path) : Prop where
  anchor_eq : l.anchor = .relative
  normal : l.IsNormal
  visible : ∀ name ∈ l.name?, name.toList.head? ≠ some '.'

/-- The names of a path of the site. -/
def readSite? (path : String) : Option (List String) :=
  match path.toList with
  | ['/'] => some []
  | '/' :: cs => (cs.splitOn '/').mapM fun piece =>
      (Text.PercentEncoding.decode piece).toOption.map String.ofList
  | _ => none

/-- A path of the site that is made of the names and of nothing else, and is no token. -/
structure Addresses (path : String) (names : List String) : Prop where
  written : path = "/" ++ String.intercalate "/" (names.map Text.PercentEncoding.encodeString)
  read : readSite? path = some names
  safe : ∀ c ∈ path.toList, c.isAlphanum = true ∨ c ∈ ['_', '.', '-', '~', '%', '/']
  single : ¬ ['/', '/'] <+: path.toList
  plain : Target.ofString path = .plain path
  anchored : ∀ anchor, Target.ofString (path ++ "#" ++ anchor) = .plain (path ++ "#" ++ anchor)

/-! ## Suffixes -/

theorem drop_append_cons {α : Type} (front : List α) (a : α) (rest : List α) :
    (front ++ a :: rest).drop (front.length + 1) = rest := by
  rw [← List.drop_drop, List.drop_left, List.drop_one, List.tail_cons]

/-- A name is made of its stem and its suffix. -/
theorem splitSuffix_append (name : String) :
    (Path.splitSuffix name).1 ++ (Path.splitSuffix name).2 = name := by
  obtain ⟨hback, -, hdot⟩ := Text.run_takeWhile (· != '.') name.toList.reverse
  rw [Path.splitSuffix]
  generalize name.toList.reverse.takeWhile (· != '.') = tail at *
  split
  · exact String.append_empty
  · rename_i hparts
    rcases hrest : name.toList.reverse.dropWhile (· != '.') with _ | ⟨c, rest⟩ <;>
      rw [hrest] at hback hdot
    · simp [hback] at hparts
    · obtain rfl : c = '.' := by simpa using hdot c rfl
      have hname : rest.reverse ++ '.' :: tail.reverse = name.toList := by
        rw [← List.reverse_reverse name.toList, hback]
        simp
      rw [hback, drop_append_cons, ← String.toList_inj, String.toList_append]
      simpa using hname

/-- The last suffix of a name begins with its last dot. -/
theorem splitSuffix_of_append {stem tail : List Char} (hstem : stem ≠ []) (htail : tail ≠ [])
    (hdot : '.' ∉ tail) : Path.splitSuffix (String.ofList (stem ++ '.' :: tail)) =
      (String.ofList stem, String.ofList ('.' :: tail)) := by
  have hback : (stem ++ '.' :: tail).reverse = tail.reverse ++ '.' :: stem.reverse := by simp
  have hrun : ∀ c ∈ tail.reverse, (c != '.') = true := by
    intro c hc
    have hne : c ≠ '.' := fun he => hdot (he ▸ List.mem_reverse.mp hc)
    simpa using hne
  rw [Path.splitSuffix, String.toList_ofList, hback,
    (Text.run_append_cons hrun (by decide) stem.reverse).eq.1]
  simp only [drop_append_cons, List.reverse_reverse]
  rw [if_neg]
  simp [hstem, htail]

/-- A markdown suffix is the last suffix of a name that does not begin with it. -/
theorem splitSuffix_markdown {stem suffix : String} (h : suffix ∈ [".md", ".mdx"])
    (hstem : stem ≠ "") : Path.splitSuffix (stem ++ suffix) = (stem, suffix) := by
  have hne : stem.toList ≠ [] := fun he => hstem (String.toList_eq_nil_iff.mp he)
  have hsplit : ∀ tail : List Char, tail ≠ [] → '.' ∉ tail →
      suffix = String.ofList ('.' :: tail) →
        Path.splitSuffix (stem ++ suffix) = (stem, suffix) := by
    rintro tail htail hdot rfl
    have hname := splitSuffix_of_append hne htail hdot
    rwa [String.ofList_append, String.ofList_toList] at hname
  rcases List.mem_cons.mp h with rfl | h
  · exact hsplit ['m', 'd'] (by decide) (by decide) rfl
  · obtain rfl := List.mem_singleton.mp h
    exact hsplit ['m', 'd', 'x'] (by decide) (by decide) rfl

/-! ## Names -/

section

variable {names stripped collapsed : List String}

theorem ne_empty_of_visible {stem suffix : String} (h : suffix ∈ [".md", ".mdx"])
    (hvisible : (stem ++ suffix).toList.head? ≠ some '.') : stem ≠ "" := by
  rintro rfl
  rcases List.mem_cons.mp h with rfl | h
  · exact hvisible (by decide)
  · exact hvisible (List.mem_singleton.mp h ▸ by decide)

/-- A visible file name is stripped in one way. -/
theorem stripped_iff (h : ∀ name ∈ names.getLast?, name.toList.head? ≠ some '.') :
    Stripped names stripped ↔ stripped = dropMarkdownSuffix names := by
  have hshort : ∀ {front name}, dropMarkdownSuffix (front ++ [name]) =
      if markdownSuffixes.contains (Path.splitSuffix name).2 then
        front ++ [(Path.splitSuffix name).1] else front ++ [name] := by
    intro front name
    simp only [dropMarkdownSuffix, List.getLast?_concat, List.dropLast_concat]
  constructor
  · rintro (_ | ⟨hsuffix⟩ | hother)
    · rfl
    · have hstem := ne_empty_of_visible hsuffix (h _ (List.getLast?_concat ..))
      rw [hshort, splitSuffix_markdown hsuffix hstem, if_pos]
      simpa [markdownSuffixes] using hsuffix
    · rw [hshort, if_neg]
      intro hsuffix
      exact hother _ _ (by simpa [markdownSuffixes] using hsuffix) (splitSuffix_append _).symm
  · rintro rfl
    rcases List.eq_nil_or_concat names with rfl | ⟨front, name, rfl⟩
    · exact .nil
    rw [List.concat_eq_append] at h ⊢
    rw [hshort]
    split
    · rename_i hsuffix
      have hmarkdown : Stripped
          (front ++ [(Path.splitSuffix name).1 ++ (Path.splitSuffix name).2])
          (front ++ [(Path.splitSuffix name).1]) :=
        .markdown (by simpa [markdownSuffixes] using hsuffix)
      rwa [splitSuffix_append] at hmarkdown
    · rename_i hsuffix
      refine .other fun stem suffix hmem he => hsuffix ?_
      subst he
      have hstem := ne_empty_of_visible hmem (h _ (List.getLast?_concat ..))
      rw [splitSuffix_markdown hmem hstem]
      simpa [markdownSuffixes] using hmem

/-- Names are collapsed in one way. -/
theorem collapsed_iff : Collapsed names collapsed ↔ collapsed = dropIndex names := by
  constructor
  · rintro (_ | h)
    · simp [dropIndex]
    · rw [dropIndex, if_neg (by simpa using h)]
  · rintro rfl
    rw [dropIndex]
    split
    · rename_i h
      obtain ⟨front, rfl⟩ := List.getLast?_eq_some_iff.mp (by simpa using h)
      rw [List.dropLast_concat]
      exact .index
    · rename_i h
      exact .other (by simpa using h)

/-- Without a markdown suffix the names are still normal. -/
theorem Stripped.normal (h : Stripped names stripped)
    (hvisible : ∀ name ∈ names.getLast?, name.toList.head? ≠ some '.')
    (hnormal : ∀ name ∈ names, Path.IsNormalName name) :
    ∀ name ∈ stripped, name ≠ "" ∧ name ≠ "." := by
  have hkept : ∀ name ∈ names, name ≠ "" ∧ name ≠ "." := fun name hname =>
    ⟨(hnormal name hname).1, (hnormal name hname).2.1⟩
  cases h with
  | nil => exact hkept
  | other h => exact hkept
  | @markdown front stem suffix h =>
    have hlast := hvisible _ (List.getLast?_concat ..)
    rw [List.forall_mem_append] at hkept ⊢
    refine ⟨hkept.1, fun name hname => ?_⟩
    obtain rfl := List.mem_singleton.mp hname
    refine ⟨ne_empty_of_visible h hlast, ?_⟩
    rintro rfl
    exact hlast (by rw [String.toList_append]; rfl)

end

/-! ## Locations -/

/-- Below the root a visible location is visible. -/
theorem IsVisible.exists_relative {l : Path} (h : IsVisible l) (root : Path) :
    ∃ below, relative root l = .ok below ∧ IsVisible below := by
  refine ⟨(root.below? l).getD l, ?_, ?_⟩
  · rw [relative, if_neg (by simp [Path.isAbsolute, h.anchor_eq])]
  · rw [Path.below?]
    split
    · refine ⟨rfl, fun name hname => h.normal name (List.mem_of_mem_drop hname), ?_⟩
      intro name hname
      refine h.visible name ?_
      rw [Path.name?, Option.getD_some, List.getLast?_drop] at hname
      split at hname
      · cases hname
      · exact hname
    · exact h

/-- A visible location shows names in one way, and none of them is empty. -/
theorem IsVisible.exists_names {l : Path} (h : IsVisible l) (root : Path) :
    ∃ names, (∀ s, Shows root l s ↔ s = names) ∧ canonical root l = .ok (sitePath names) ∧
      ∀ name ∈ names, name ≠ "" := by
  obtain ⟨below, hbelow, hvisible⟩ := h.exists_relative root
  have hstripped := (stripped_iff hvisible.visible).mpr rfl
  have hnames := hstripped.normal hvisible.visible hvisible.normal
  have hsite : siteSegments below = dropIndex (dropMarkdownSuffix below.segments) := by
    rw [siteSegments, List.filter_eq_self.mpr]
    exact fun name hname => by simpa using (hnames name hname).2
  refine ⟨siteSegments below, fun s => ⟨?_, ?_⟩, ?_, fun name hname => ?_⟩
  · rintro ⟨below', stripped, hbelow', hstripped', hcollapsed⟩
    obtain rfl : below' = below := Except.ok.inj (hbelow'.symm.trans hbelow)
    obtain rfl := (stripped_iff hvisible.visible).mp hstripped'
    rw [collapsed_iff.mp hcollapsed, hsite]
  · rintro rfl
    exact ⟨below, _, hbelow, hstripped, collapsed_iff.mpr hsite⟩
  · rw [canonical, hbelow]
    rfl
  · rw [hsite, dropIndex] at hname
    split at hname
    · exact (hnames name ((List.dropLast_sublist _).subset hname)).1
    · exact (hnames name hname).1

/-! ## Paths of the site -/

theorem toList_sitePath (names : List String) : (sitePath names).toList = '/' ::
    ['/'].intercalate (names.map fun name => Text.PercentEncoding.encode name.toList) := by
  have hnames : names.map (String.toList ∘ Text.PercentEncoding.encodeString) =
      names.map fun name => Text.PercentEncoding.encode name.toList :=
    List.map_congr_left fun _ _ => String.toList_ofList
  rw [sitePath, String.toList_append, String.toList_intercalate, List.map_map, hnames]
  rfl

/-- What a path of the site is made of. -/
theorem of_mem_sitePath {names : List String} {c : Char} (h : c ∈ (sitePath names).toList) :
    c.isAlphanum = true ∨ c ∈ ['_', '.', '-', '~', '%', '/'] := by
  have hslash : c = '/' ∨ Text.PercentEncoding.isUnreserved c = true ∨ c = '%' := by
    rw [toList_sitePath] at h
    rcases List.mem_cons.mp h with h | h
    · exact .inl h
    rcases Text.mem_intercalate h with h | ⟨piece, hpiece, hc⟩
    · exact .inl (List.mem_singleton.mp h)
    · obtain ⟨name, -, rfl⟩ := List.mem_map.mp hpiece
      exact .inr (Text.PercentEncoding.of_mem_encode hc)
  simp only [Text.PercentEncoding.isUnreserved, Bool.or_eq_true, beq_iff_eq] at hslash
  simp only [List.mem_cons, List.not_mem_nil, or_false]
  tauto

/-- A path of the site is no token, whatever follows it. -/
theorem ofString_sitePath_append (names : List String) (more : String) :
    Target.ofString (sitePath names ++ more) = .plain (sitePath names ++ more) := by
  refine Target.ofString_of_head? (c := '/') ?_ (by decide) (by decide) (by decide)
  rw [String.toList_append, toList_sitePath]
  rfl

theorem not_mem_encode {cs : List Char} : '/' ∉ Text.PercentEncoding.encode cs := by
  intro hmem
  rcases Text.PercentEncoding.of_mem_encode hmem with h | h <;> exact absurd h (by decide)

/-- Behind the first slash of a path of the site a name comes, which is not empty. -/
theorem exists_cons_intercalate {name : String} (h : name ≠ "") (names : List String) :
    ∃ c cs, c ≠ '/' ∧ ['/'].intercalate ((name :: names).map fun name =>
      Text.PercentEncoding.encode name.toList) = c :: cs := by
  have hne : name.toList ≠ [] := fun he => h (String.toList_eq_nil_iff.mp he)
  obtain ⟨c, cs, hcs⟩ := List.exists_cons_of_ne_nil (Text.PercentEncoding.encode_ne_nil hne)
  have hc : c ≠ '/' := by
    rintro rfl
    exact not_mem_encode (hcs ▸ List.mem_cons_self)
  cases names with
  | nil => exact ⟨c, cs, hc, by simpa [List.intercalate] using hcs⟩
  | cons other names =>
    rw [List.map_cons, List.map_cons, List.intercalate_cons_cons, hcs]
    exact ⟨c, _, hc, rfl⟩

theorem mapM_decode (names : List String) :
    (names.map fun name => Text.PercentEncoding.encode name.toList).mapM (fun piece =>
      (Text.PercentEncoding.decode piece).toOption.map String.ofList) = some names := by
  induction names with
  | nil => rfl
  | cons name names ih =>
    rw [List.map_cons, List.mapM_cons, ih, Text.PercentEncoding.decode_encode]
    simp [Except.toOption]

/-- The names of a path of the site are read back. -/
theorem readSite?_sitePath {names : List String} (h : ∀ name ∈ names, name ≠ "") :
    readSite? (sitePath names) = some names := by
  rw [readSite?, toList_sitePath]
  cases names with
  | nil => rfl
  | cons name names =>
    obtain ⟨c, cs, -, hcs⟩ := exists_cons_intercalate (h name List.mem_cons_self) names
    have hsplit : (c :: cs).splitOn '/' = (name :: names).map fun name =>
        Text.PercentEncoding.encode name.toList := by
      rw [← hcs, List.splitOn_intercalate]
      · intro piece hpiece
        obtain ⟨_, -, rfl⟩ := List.mem_map.mp hpiece
        exact not_mem_encode
      · simp
    rw [hcs]
    simp only [hsplit]
    exact mapM_decode (name :: names)

theorem addresses_sitePath {names : List String} (h : ∀ name ∈ names, name ≠ "") :
    Addresses (sitePath names) names where
  written := rfl
  read := readSite?_sitePath h
  safe _ hc := of_mem_sitePath hc
  single hfront := by
    rw [toList_sitePath, List.cons_prefix_cons] at hfront
    cases names with
    | nil => exact absurd hfront.2 (by decide)
    | cons name names =>
      obtain ⟨c, cs, hc, hcs⟩ := exists_cons_intercalate (h name List.mem_cons_self) names
      rw [hcs, List.cons_prefix_cons] at hfront
      exact hc hfront.2.1.symm
  plain := by
    have hplain := ofString_sitePath_append names ""
    rwa [String.append_empty] at hplain
  anchored anchor := by
    rw [String.append_assoc]
    exact ofString_sitePath_append names _

/-- A visible location has one canonical path, made of the names that it shows, and shares it with
exactly those that show the same names. -/
theorem canonical_addresses (root : Path) {l : Path} (h : IsVisible l) :
    ∃ names path, (∀ s, Shows root l s ↔ s = names) ∧ canonical root l = .ok path ∧
      Addresses path names ∧ ∀ m s, IsVisible m → Shows root m s →
        (canonical root m = canonical root l ↔ s = names) := by
  obtain ⟨names, hshows, hpath, hne⟩ := h.exists_names root
  refine ⟨names, _, hshows, hpath, addresses_sitePath hne, fun m s hm hs => ?_⟩
  obtain ⟨names', hshows', hpath', hne'⟩ := hm.exists_names root
  obtain rfl := (hshows' s).mp hs
  rw [hpath, hpath', Except.ok.injEq]
  refine ⟨fun hsame => ?_, congrArg sitePath⟩
  rw [← Option.some_inj, ← readSite?_sitePath hne', hsame, readSite?_sitePath hne]

/-- Two locations below a root, one of them written with the root, that show the same name. -/
theorem canonical_addresses_sample :
    let root : Path := ⟨.relative, ["docs"]⟩
    let l : Path := ⟨.relative, ["docs", "my notes", "index.md"]⟩
    let m : Path := ⟨.relative, ["my notes.mdx"]⟩
    IsVisible l ∧ IsVisible m ∧ Shows root m ["my notes"] ∧
      Addresses "/my%20notes" ["my notes"] ∧ canonical root l = .ok "/my%20notes" ∧
        canonical root m = canonical root l := by
  intro root l m
  have hl : IsVisible l := ⟨rfl, by decide +kernel, by decide +kernel⟩
  have hm : IsVisible m := ⟨rfl, by decide +kernel, by decide +kernel⟩
  have hstripped : Stripped (["my notes"] ++ ["index" ++ ".md"]) (["my notes"] ++ ["index"]) :=
    .markdown (by decide)
  have hcollapsed : Collapsed (["my notes"] ++ ["index"]) ["my notes"] := .index
  have hshows : Shows root l ["my notes"] :=
    ⟨⟨.relative, ["my notes", "index.md"]⟩, _, rfl, hstripped, hcollapsed⟩
  have hstripped' : Stripped ([] ++ ["my notes" ++ ".mdx"]) ([] ++ ["my notes"]) :=
    .markdown (by decide)
  have hshows' : Shows root m ["my notes"] := ⟨m, _, rfl, hstripped', .other (by decide)⟩
  obtain ⟨names, path, hnames, hpath, haddress, hsame⟩ := canonical_addresses root hl
  obtain rfl := (hnames _).mp hshows
  obtain rfl : path = "/my%20notes" := by
    rw [haddress.written]
    decide +kernel
  exact ⟨hl, hm, hshows', haddress, hpath, (hsame m _ hm hshows').mpr rfl⟩

end Crosslink.Location
