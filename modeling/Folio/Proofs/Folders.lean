import Mathlib
import Folio.Project
import Folio.Proofs.Stores

/-!
# Folders of resources

An entry of a resource folder defines a resource under the stem of its name: what stands before the
last dot, if that is not the first character. For a file this takes off the extension. For a
directory it takes off a part of the name as well, if there is a dot in it, so that only directories
without one define a resource of their own name. Two entries may have the same stem; then all but
the one that is listed last are lost.

* `stem`, `isDefinition`: the name of the resource that an entry defines, and which entries do;
* `loadEntries_eq_ok`: what is loaded from entries;
* `loadResources_get`: which names a folder defines, and which directories define their own;
* `loadEntries_order`: when the order of the entries does not count, and when none of them is lost.
-/

namespace Folio

open Result

variable {t : FileTree} {directory : Path} {entries entries' : List (String × FileNode)}
  {s : Store} {name resource : String} {n : FileNode}

/-! ## Names of entries -/

/-- The name of an entry up to its last dot. -/
def stem (name : String) : String := (splitExtension name).1

/-- A name is cut at its last dot, unless that is its first character. -/
theorem splitExtension_append {before after : List Char} (hafter : '.' ∉ after)
    (hname : name.toList = before ++ '.' :: after) :
    splitExtension name =
      if before = [] then (name, none) else (String.ofList before, some (String.ofList after)) := by
  have htake : name.toList.reverse.takeWhile (· != '.') = after.reverse := by
    have hnone : ∀ c ∈ after.reverse, (c != '.') = true := fun c hc =>
      bne_iff_ne.2 fun hdot => hafter (hdot ▸ List.mem_reverse.1 hc)
    rw [hname, List.reverse_append, List.reverse_cons, List.append_assoc,
      List.takeWhile_append_of_pos hnone]
    simp
  have hdrop : name.toList.reverse.drop (after.reverse.length + 1) = before.reverse := by
    rw [hname, List.reverse_append, List.reverse_cons, List.append_assoc, List.drop_append]
    simp
  rw [splitExtension, htake, hdrop]
  by_cases hbefore : before = [] <;> simp [hbefore]

/-- A name has an extension, and so a stem of its own, exactly if there is a dot after its first
    character. -/
theorem splitExtension_cases (name : String) :
    '.' ∉ name.toList.tail ∧ splitExtension name = (name, none) ∨
      '.' ∈ name.toList.tail ∧ stem name ≠ name ∧ (splitExtension name).2.isSome := by
  by_cases hdot : '.' ∈ name.toList
  · obtain ⟨after, before, hname, hafter⟩ :=
      List.eq_append_cons_of_mem (List.mem_reverse.2 hdot)
    have hname : name.toList = before.reverse ++ '.' :: after.reverse := by
      simpa using congrArg List.reverse hname
    have hsplit := splitExtension_append (fun h => hafter (List.mem_reverse.1 h)) hname
    cases hbefore : before.reverse with
    | nil =>
      rw [hbefore] at hname hsplit
      refine .inl ⟨?_, hsplit⟩
      rw [hname]
      simpa using hafter
    | cons c rest =>
      rw [hbefore] at hname hsplit
      refine .inr ⟨?_, fun hself => ?_, ?_⟩
      · rw [hname]
        simp
      · -- The stem is shorter than the name.
        rw [stem, hsplit] at hself
        have hlength := congrArg (fun s => s.toList.length) hself
        simp [hname] at hlength
      · rw [hsplit]
        rfl
  · refine .inl ⟨fun h => hdot (List.mem_of_mem_tail h), ?_⟩
    have htake : name.toList.reverse.takeWhile (· != '.') = name.toList.reverse :=
      List.takeWhile_eq_self_iff.2 fun c hc =>
        bne_iff_ne.2 fun h => hdot (h ▸ List.mem_reverse.1 hc)
    rw [splitExtension, htake]
    simp

theorem stem_eq_self : stem name = name ↔ '.' ∉ name.toList.tail := by
  rcases splitExtension_cases name with ⟨hdot, hsplit⟩ | ⟨hdot, hne, -⟩
  · exact iff_of_true (congrArg Prod.fst hsplit) hdot
  · exact iff_of_false hne (not_not_intro hdot)

/-! ## Definitions among entries -/

/-- The place of the definition in the directory of a resource. -/
def definitionPath (directory : Path) (name : String) : Path :=
  (directory.join ⟨name⟩).join definitionFile

/-- Whether an entry defines a resource: it is a directory with a definition in it, or a file with
    one of two extensions. -/
def isDefinition (t : FileTree) (directory : Path) (e : String × FileNode) : Bool :=
  if e.2.isDirectory then t.has (definitionPath directory e.1)
  else (splitExtension e.1).2 = some "yml" ∨ (splitExtension e.1).2 = some "yaml"

/-- The place of the definition that an entry is. -/
def placeOf (directory : Path) (e : String × FileNode) : Path :=
  if e.2.isDirectory then definitionPath directory e.1 else directory.join ⟨e.1⟩

/-- A file that defines a resource has a name with an extension. -/
theorem isDirectory_of_isDefinition {e : String × FileNode} (h : isDefinition t directory e)
    (hself : stem e.1 = e.1) : e.2.isDirectory := by
  by_contra hfile
  rcases splitExtension_cases e.1 with ⟨-, hsplit⟩ | ⟨-, hne, -⟩
  · simp [isDefinition, hfile, hsplit] at h
  · exact hne hself

theorem definitionOf?_eq (t : FileTree) (directory : Path) (e : String × FileNode) :
    definitionOf? t directory e.1 e.2 =
      if isDefinition t directory e then some (stem e.1, placeOf directory e) else none := by
  rw [definitionOf?, isDefinition, placeOf, stem, definitionPath]
  by_cases h : e.2.isDirectory = true <;> simp [h]

/-- Entries define resources of their stems. -/
theorem definitionsIn_eq (t : FileTree) (directory : Path) (entries : List (String × FileNode)) :
    definitionsIn t directory entries =
      (entries.filter (isDefinition t directory)).map fun e => (stem e.1, placeOf directory e) := by
  induction entries with
  | nil => rfl
  | cons e entries ih =>
    rw [definitionsIn, List.filterMap_cons]
    dsimp only
    rw [definitionOf?_eq, List.filter_cons]
    cases isDefinition t directory e with
    | false => exact ih
    | true => exact congrArg (List.cons _) ih

/-- The stems of the entries that define resources. -/
def stems (t : FileTree) (directory : Path) (entries : List (String × FileNode)) : List String :=
  (entries.filter (isDefinition t directory)).map fun e => stem e.1

theorem map_fst_definitionsIn (t : FileTree) (directory : Path)
    (entries : List (String × FileNode)) :
    (definitionsIn t directory entries).map Prod.fst = stems t directory entries := by
  rw [definitionsIn_eq, List.map_map]
  rfl

/-! ## Loading -/

theorem loadDefinition_eq_ok {p : Path} {text : String} {d : Definition}
    (hread : t.read p = .ok text) (hd : Yaml.readDefinition text = .ok d) :
    loadDefinition t p = .ok d := by
  rw [loadDefinition, readFor, hread]
  change within _ (readDefinition text) = _
  rw [readDefinition, hd]
  rfl

/-- An empty text defines a resource without operations. -/
theorem loadDefinition_empty {p : Path} (h : t.read p = .ok "") : loadDefinition t p = .ok {} :=
  loadDefinition_eq_ok h (by cbv)

/-- An item without keys is an operation without directives. -/
theorem loadDefinition_item {p : Path} (h : t.read p = .ok "main:\n-") :
    loadDefinition t p = .ok { main := [{}] } :=
  loadDefinition_eq_ok h (by cbv)

/-- A definition with the name of its resource. -/
def loadNamed (t : FileTree) (a : String × Path) : Except Failure (String × Definition) :=
  (a.1, ·) <$> loadDefinition t a.2

theorem loadNamed_eq_ok {a : String × Path} {e : String × Definition} :
    loadNamed t a = .ok e ↔ a.1 = e.1 ∧ loadDefinition t a.2 = .ok e.2 := by
  rw [loadNamed, map_eq_ok]
  constructor
  · rintro ⟨d, hd, rfl⟩
    exact ⟨rfl, hd⟩
  · rintro ⟨hname, hd⟩
    exact ⟨e.2, hd, Prod.ext hname rfl⟩

/-- Entries are loaded exactly if all definitions among them are, and these are stored one after the
    other. -/
theorem loadEntries_eq_ok :
    loadEntries t directory entries = .ok s ↔
      ∃ loaded, (definitionsIn t directory entries).mapM (loadNamed t) = .ok loaded ∧
        Store.ofList loaded = s := by
  have hstep : (fun (s : Store) (a : String × Path) => do
        return s.insert a.1 (← loadDefinition t a.2)) =
      fun s a => loadNamed t a >>= fun e => pure (s.insert e.1 e.2) := by
    funext s a
    rw [loadNamed]
    cases loadDefinition t a.2 <;> rfl
  rw [loadEntries]
  exact (iff_of_eq (congrArg (fun f => List.foldlM f {} _ = .ok s) hstep)).trans foldlM_eq_ok

theorem map_fst_loaded {loaded : List (String × Definition)}
    (h : (definitionsIn t directory entries).mapM (loadNamed t) = .ok loaded) :
    loaded.map Prod.fst = stems t directory entries := by
  rw [← map_fst_definitionsIn]
  exact map_of_mapM (fun _ _ ha => (loadNamed_eq_ok.1 ha).1.symm) h

/-- What is loaded comes from the entries that define resources, and each of these is loaded. -/
theorem mem_loaded {loaded : List (String × Definition)}
    (h : (definitionsIn t directory entries).mapM (loadNamed t) = .ok loaded) :
    (∀ e ∈ entries, isDefinition t directory e → ∃ d, (stem e.1, d) ∈ loaded ∧
      loadDefinition t (placeOf directory e) = .ok d) ∧
    ∀ f ∈ loaded, ∃ e ∈ entries, isDefinition t directory e ∧ stem e.1 = f.1 ∧
      loadDefinition t (placeOf directory e) = .ok f.2 := by
  rw [definitionsIn_eq] at h
  obtain ⟨hout, hback⟩ := exists_ok_of_mapM h
  constructor
  · intro e he hdef
    obtain ⟨⟨_, d⟩, hf, hload⟩ := hout _ (List.mem_map_of_mem (List.mem_filter.2 ⟨he, hdef⟩))
    obtain ⟨rfl, hload⟩ := loadNamed_eq_ok.1 hload
    exact ⟨d, hf, hload⟩
  · intro f hf
    obtain ⟨a, ha, hload⟩ := hback f hf
    obtain ⟨e, he, rfl⟩ := List.mem_map.1 ha
    obtain ⟨he, hdef⟩ := List.mem_filter.1 he
    exact ⟨e, he, hdef, loadNamed_eq_ok.1 hload⟩

/-- The names of the resources are the stems of the entries that define them. -/
theorem mem_names_loadEntries (h : loadEntries t directory entries = .ok s) :
    resource ∈ s.names ↔ ∃ e ∈ entries, isDefinition t directory e ∧ stem e.1 = resource := by
  obtain ⟨loaded, hloaded, rfl⟩ := loadEntries_eq_ok.1 h
  rw [Store.mem_names_ofList, map_fst_loaded hloaded, stems, List.mem_map]
  simp only [List.mem_filter, and_assoc]

/-- A definition is found under the stem of its entry if no other one has that stem. -/
theorem get_loadEntries (h : loadEntries t directory entries = .ok s) {e : String × FileNode}
    (he : e ∈ entries) (hdef : isDefinition t directory e)
    (honly : ∀ f ∈ entries, isDefinition t directory f → stem f.1 = stem e.1 →
      placeOf directory f = placeOf directory e) :
    ∃ d, loadDefinition t (placeOf directory e) = .ok d ∧ s.get (stem e.1) = .ok d := by
  obtain ⟨loaded, hloaded, rfl⟩ := loadEntries_eq_ok.1 h
  obtain ⟨hout, hback⟩ := mem_loaded hloaded
  obtain ⟨d, hmem, hd⟩ := hout e he hdef
  refine ⟨d, hd, (Store.ordered_ofList _).get_eq_ok.2 ((Store.mem_ofList ?_).2 hmem)⟩
  intro d' hmem'
  obtain ⟨f, hf, hdef', hname, hd'⟩ := hback _ hmem'
  rw [honly f hf hdef' hname, hd] at hd'
  cases hd'
  rfl

/-- The definition of the entry that is listed last is always found. -/
theorem get_loadEntries_concat {e : String × FileNode}
    (h : loadEntries t directory (entries ++ [e]) = .ok s) (hdef : isDefinition t directory e) :
    ∃ d, loadDefinition t (placeOf directory e) = .ok d ∧ s.get (stem e.1) = .ok d := by
  obtain ⟨loaded, hloaded, rfl⟩ := loadEntries_eq_ok.1 h
  rw [definitionsIn_eq, List.filter_append, List.map_append, mapM_append_eq_ok] at hloaded
  obtain ⟨before, last, -, hlast, rfl⟩ := hloaded
  rw [List.filter_cons_of_pos hdef, List.filter_nil, List.map_singleton] at hlast
  obtain ⟨⟨_, d⟩, _, hd, hnil, rfl⟩ := mapM_cons_eq_ok.1 hlast
  cases hnil
  obtain ⟨rfl, hd⟩ := loadNamed_eq_ok.1 hd
  exact ⟨d, hd, Store.get_ofList_concat before _ d⟩

/-! ## Folders -/

theorem loadResources_eq (hentries : t.entries directory = .ok entries) :
    loadResources t directory = loadEntries t directory entries := by
  have hhas : t.has directory = true := by
    rw [FileTree.entries] at hentries
    obtain ⟨n, hn, -⟩ := bind_eq_ok.1 hentries
    rw [FileTree.has, hn]
    rfl
  rw [loadResources, hhas, hentries]
  rfl

/-- A file with some text, all characters of which are in ASCII. -/
def FileNode.ascii (text : String) : FileNode := .file (text.toList.map fun c => .ofNat c.toNat)

/-- A tree with one folder at its top. -/
def FileTree.ofFolder (entries : List (String × FileNode)) : FileTree where
  top := .directory [("rc", .directory entries)]

/-- Entries that define resources in all ways, and entries that define none. -/
def mixedEntries : List (String × FileNode) :=
  [("about.yml", .ascii ""), ("empty", .directory []),
    ("index", .directory [("resource.yml", .ascii "main:\n-")]), ("notes.txt", .ascii ""),
    ("v1.2", .directory [("resource.yml", .ascii "")]), ("v2.0.yaml", .ascii "main:\n-")]

/-- What is loaded from these entries. -/
def mixedStore : Store :=
  ⟨[("about", {}), ("index", { main := [{}] }), ("v1", {}), ("v2.0", { main := [{}] })]⟩

theorem loadEntries_mixed :
    loadEntries (.ofFolder mixedEntries) ⟨"/rc"⟩ mixedEntries = .ok mixedStore := by
  have hplaces : definitionsIn (.ofFolder mixedEntries) ⟨"/rc"⟩ mixedEntries =
      [("about", ⟨"/rc/about.yml"⟩), ("index", ⟨"/rc/index/resource.yml"⟩),
        ("v1", ⟨"/rc/v1.2/resource.yml"⟩), ("v2.0", ⟨"/rc/v2.0.yaml"⟩)] := by rfl
  refine loadEntries_eq_ok.2 ⟨mixedStore.entries, ?_, by decide⟩
  rw [hplaces]
  simp only [mapM_cons_eq_ok, loadNamed_eq_ok]
  exact ⟨_, _, ⟨rfl, loadDefinition_empty rfl⟩, ⟨_, _, ⟨rfl, loadDefinition_item rfl⟩,
    ⟨_, _, ⟨rfl, loadDefinition_empty rfl⟩, ⟨_, _, ⟨rfl, loadDefinition_item rfl⟩, rfl, rfl⟩, rfl⟩,
    rfl⟩, rfl⟩

/-- Which directory defines a resource of its own name, and which names there are. A directory with
    a definition in it, whose name is no other entry's stem, is found under its name with just that
    definition exactly if the name has no dot after its first character. The names of all resources
    are the stems of such directories and those of files with the extensions of definitions. -/
theorem loadResources_get (h : loadResources t directory = .ok s)
    (hentries : t.entries directory = .ok entries) :
    (∀ name n, (name, n) ∈ entries → n.isDirectory → t.has (definitionPath directory name) →
      (∀ e ∈ entries, isDefinition t directory e → stem e.1 = name → e.1 = name) →
      ((∃ d, loadDefinition t (definitionPath directory name) = .ok d ∧ s.get name = .ok d) ↔
        '.' ∉ name.toList.tail)) ∧
    ∀ resource, resource ∈ s.names ↔
      (∃ name n, (name, n) ∈ entries ∧ n.isDirectory ∧ t.has (definitionPath directory name) ∧
        stem name = resource) ∨
      ∃ name n, (name, n) ∈ entries ∧ ¬n.isDirectory ∧
        (splitExtension name = (resource, some "yml") ∨
          splitExtension name = (resource, some "yaml")) := by
  rw [loadResources_eq hentries] at h
  constructor
  · intro name n hmem hdir hhas honly
    rw [← stem_eq_self]
    constructor
    · rintro ⟨d, -, hget⟩
      by_contra hne
      -- Neither this entry nor any other one has the name as its stem.
      have hnames : name ∉ s.names := by
        rw [mem_names_loadEntries h]
        rintro ⟨e, he, hdef, hstem⟩
        exact hne (honly e he hdef hstem ▸ hstem)
      rw [Store.get_eq_error hnames] at hget
      cases hget
    · intro hself
      have hdef : isDefinition t directory (name, n) := by
        rw [isDefinition, if_pos hdir]
        exact hhas
      have hplace {e : String × FileNode} (he : e.2.isDirectory) (hname : e.1 = name) :
          placeOf directory e = definitionPath directory name := by
        rw [placeOf, if_pos he, hname]
      obtain ⟨d, hd, hget⟩ := get_loadEntries h hmem hdef fun e he hdef' hstem => by
        have hname := honly e he hdef' (hstem.trans hself)
        have hdir' := isDirectory_of_isDefinition hdef' (hstem.trans (hself.trans hname.symm))
        rw [hplace hdir' hname, hplace hdir rfl]
      rw [hplace hdir rfl] at hd
      exact ⟨d, hd, hself ▸ hget⟩
  · intro resource
    rw [mem_names_loadEntries h]
    constructor
    · rintro ⟨⟨name, n⟩, hmem, hdef, rfl⟩
      by_cases hdir : n.isDirectory = true
      · rw [isDefinition, if_pos hdir] at hdef
        exact .inl ⟨name, n, hmem, hdir, hdef, rfl⟩
      · rw [isDefinition, if_neg hdir, decide_eq_true_iff] at hdef
        exact .inr ⟨name, n, hmem, hdir, hdef.imp (Prod.ext rfl) (Prod.ext rfl)⟩
    · rintro (⟨name, n, hmem, hdir, hhas, rfl⟩ | ⟨name, n, hmem, hfile, hext⟩)
      · refine ⟨(name, n), hmem, ?_, rfl⟩
        rw [isDefinition, if_pos hdir]
        exact hhas
      · refine ⟨(name, n), hmem, ?_, ?_⟩
        · rw [isDefinition, if_neg hfile, decide_eq_true_iff]
          exact hext.imp (congrArg Prod.snd) (congrArg Prod.snd)
        · exact hext.elim (congrArg Prod.fst) (congrArg Prod.fst)

/-- Of two directories the one without a dot in its name is found with its definition. -/
theorem loadResources_get_mixed :
    let t := FileTree.ofFolder mixedEntries
    loadResources t ⟨"/rc"⟩ = .ok mixedStore ∧ t.entries ⟨"/rc"⟩ = .ok mixedEntries ∧
      (∀ e ∈ mixedEntries, isDefinition t ⟨"/rc"⟩ e → stem e.1 = "index" → e.1 = "index") ∧
      (∃ d, loadDefinition t ⟨"/rc/index/resource.yml"⟩ = .ok d ∧
        mixedStore.get "index" = .ok d) ∧
      (∀ e ∈ mixedEntries, isDefinition t ⟨"/rc"⟩ e → stem e.1 = "v1.2" → e.1 = "v1.2") ∧
      ¬∃ d, loadDefinition t ⟨"/rc/v1.2/resource.yml"⟩ = .ok d ∧ mixedStore.get "v1.2" = .ok d := by
  intro t
  have hentries : t.entries ⟨"/rc"⟩ = .ok mixedEntries := rfl
  have hload := (loadResources_eq hentries).trans loadEntries_mixed
  have hindex : ∀ e ∈ mixedEntries,
      isDefinition t ⟨"/rc"⟩ e → stem e.1 = "index" → e.1 = "index" := by decide
  have hversion : ∀ e ∈ mixedEntries,
      isDefinition t ⟨"/rc"⟩ e → stem e.1 = "v1.2" → e.1 = "v1.2" := by decide
  have hget := (loadResources_get hload hentries).1
  refine ⟨hload, hentries, hindex, ?_, hversion, ?_⟩
  · exact (hget "index" (.directory [("resource.yml", .ascii "main:\n-")]) (by simp [mixedEntries])
      rfl rfl hindex).2 (by decide)
  · intro hfound
    have hdot := (hget "v1.2" (.directory [("resource.yml", .ascii "")]) (by simp [mixedEntries])
      rfl rfl hversion).1 hfound
    exact absurd hdot (by decide)

/-- The only entry of a folder is a directory with a definition in it, and still no resource is
    found under its name. -/
theorem loadResources_dotted :
    let entries := [("v1.2", FileNode.directory [("resource.yml", .ascii "")])]
    let t := FileTree.ofFolder entries
    t.entries ⟨"/rc"⟩ = .ok entries ∧
      loadDefinition t (definitionPath ⟨"/rc"⟩ "v1.2") = .ok {} ∧
      loadResources t ⟨"/rc"⟩ = .ok ⟨[("v1", {})]⟩ ∧
      Store.get ⟨[("v1", {})]⟩ "v1.2" = .error (.resourceNotFound "v1.2") := by
  intro entries t
  exact ⟨rfl, by rfl, by rfl, by rfl⟩

/-! ## The order of entries -/

/-- What is loaded in any order is the same if entries of one stem have the same definition. -/
theorem loadEntries_perm (h : loadEntries t directory entries = .ok s)
    (hperm : entries.Perm entries')
    (hsame : ∀ e ∈ entries, ∀ f ∈ entries, isDefinition t directory e → isDefinition t directory f →
      stem e.1 = stem f.1 →
      loadDefinition t (placeOf directory e) = loadDefinition t (placeOf directory f)) :
    loadEntries t directory entries' = .ok s := by
  obtain ⟨loaded, hloaded, rfl⟩ := loadEntries_eq_ok.1 h
  obtain ⟨loaded', hloaded', hperm'⟩ := mapM_perm (hperm.filterMap _) hloaded
  refine loadEntries_eq_ok.2 ⟨loaded', hloaded', (Store.ofList_perm hperm' ?_).symm⟩
  intro name d d' hd hd'
  obtain ⟨e, he, hdef, rfl, hload⟩ := (mem_loaded hloaded).2 _ hd
  obtain ⟨f, hf, hdef', hname, hload'⟩ := (mem_loaded hloaded).2 _ hd'
  rw [← hsame e he f hf hdef hdef' hname.symm, hload] at hload'
  cases hload'
  rfl

/-- Whatever stands in a list may stand at its end. -/
theorem exists_perm_concat {α : Type} {l : List α} {a : α} (h : a ∈ l) :
    ∃ rest, l.Perm (rest ++ [a]) := by
  obtain ⟨before, after, rfl⟩ := List.append_of_mem h
  exact ⟨before ++ after, List.perm_middle.trans (List.perm_append_singleton a _).symm⟩

theorem length_definitionsIn (t : FileTree) (directory : Path)
    (entries : List (String × FileNode)) :
    (definitionsIn t directory entries).length = entries.countP (isDefinition t directory) := by
  rw [definitionsIn_eq, List.length_map, List.countP_eq_length_filter]

/-- Where no stem is shared, each definition belongs to one entry. -/
theorem eq_of_nodup_stems (h : (stems t directory entries).Nodup) {e f : String × FileNode}
    (he : e ∈ entries) (hf : f ∈ entries) (hdef : isDefinition t directory e)
    (hdef' : isDefinition t directory f) (hstem : stem e.1 = stem f.1) : e = f :=
  List.inj_on_of_nodup_map h (List.mem_filter.2 ⟨he, hdef⟩) (List.mem_filter.2 ⟨hf, hdef'⟩) hstem

/-- When the order of the entries does not count, and when none of them is lost. A folder that is
    loaded in one order is loaded in every order. It gives the same store in every order exactly if
    entries of one stem have the same definition; and then it has a resource for each entry that
    defines one exactly if no two of these have the same stem. -/
theorem loadEntries_order (h : loadEntries t directory entries = .ok s) :
    (∀ entries', entries.Perm entries' → ∃ s', loadEntries t directory entries' = .ok s') ∧
    ((∀ entries', entries.Perm entries' → loadEntries t directory entries' = .ok s) ↔
      ∀ e ∈ entries, ∀ f ∈ entries, isDefinition t directory e → isDefinition t directory f →
        stem e.1 = stem f.1 →
        loadDefinition t (placeOf directory e) = loadDefinition t (placeOf directory f)) ∧
    ((∀ entries', entries.Perm entries' → loadEntries t directory entries' = .ok s) ∧
        s.size = entries.countP (isDefinition t directory) ↔
      (stems t directory entries).Nodup) := by
  obtain ⟨loaded, hloaded, rfl⟩ := loadEntries_eq_ok.1 h
  refine ⟨fun entries' hperm => ?_, ⟨fun hall => ?_, fun hsame entries' hperm => ?_⟩, ?_⟩
  · obtain ⟨loaded', hloaded', -⟩ := mapM_perm (hperm.filterMap _) hloaded
    exact ⟨_, loadEntries_eq_ok.2 ⟨loaded', hloaded', rfl⟩⟩
  · intro e he f hf hdef hdef' hstem
    -- Each of the two may be listed last, and is found then.
    obtain ⟨rest, hrest⟩ := exists_perm_concat he
    obtain ⟨rest', hrest'⟩ := exists_perm_concat hf
    obtain ⟨d, hd, hget⟩ := get_loadEntries_concat (hall _ hrest) hdef
    obtain ⟨d', hd', hget'⟩ := get_loadEntries_concat (hall _ hrest') hdef'
    rw [hstem, hget'] at hget
    cases hget
    rw [hd, hd']
  · exact loadEntries_perm h hperm hsame
  · have hsize : (Store.ofList loaded).size = entries.countP (isDefinition t directory) ↔
        (stems t directory entries).Nodup := by
      rw [← map_fst_loaded hloaded, ← Store.size_ofList_eq_length, ← length_definitionsIn,
        ← List.length_map Prod.fst, map_fst_definitionsIn, ← map_fst_loaded hloaded,
        List.length_map]
    rw [hsize]
    refine and_iff_right_of_imp fun hnodup entries' hperm => ?_
    refine loadEntries_perm h hperm fun e he f hf hdef hdef' hstem => ?_
    rw [eq_of_nodup_stems hnodup he hf hdef hdef' hstem]

/-- A folder in which no two entries have the same stem. -/
theorem loadEntries_order_mixed :
    let t := FileTree.ofFolder mixedEntries
    loadEntries t ⟨"/rc"⟩ mixedEntries = .ok mixedStore ∧
      (stems t ⟨"/rc"⟩ mixedEntries).Nodup ∧
      (∀ entries', mixedEntries.Perm entries' → loadEntries t ⟨"/rc"⟩ entries' = .ok mixedStore) ∧
      mixedStore.size = mixedEntries.countP (isDefinition t ⟨"/rc"⟩) := by
  intro t
  have hnodup : (stems t ⟨"/rc"⟩ mixedEntries).Nodup := by decide
  exact ⟨loadEntries_mixed, hnodup, (loadEntries_order loadEntries_mixed).2.2.2 hnodup⟩

/-- A file and a directory of the same stem: only the one that is listed last stays. -/
theorem loadEntries_shadowed :
    let entries := [("about", FileNode.directory [("resource.yml", .ascii "")]),
      ("about.yml", .ascii "main:\n-")]
    let t := FileTree.ofFolder entries
    entries.countP (isDefinition t ⟨"/rc"⟩) = 2 ∧
      loadEntries t ⟨"/rc"⟩ entries = .ok ⟨[("about", { main := [{}] })]⟩ ∧
      loadEntries t ⟨"/rc"⟩ entries.reverse = .ok ⟨[("about", {})]⟩ := by
  intro entries t
  refine ⟨by decide, loadEntries_eq_ok.2 ⟨[("about", {}), ("about", { main := [{}] })], ?_, rfl⟩,
    loadEntries_eq_ok.2 ⟨[("about", { main := [{}] }), ("about", {})], ?_, rfl⟩⟩
  · have hplaces : definitionsIn t ⟨"/rc"⟩ entries =
        [("about", ⟨"/rc/about/resource.yml"⟩), ("about", ⟨"/rc/about.yml"⟩)] := by rfl
    rw [hplaces]
    simp only [mapM_cons_eq_ok, loadNamed_eq_ok]
    exact ⟨_, _, ⟨rfl, loadDefinition_empty rfl⟩, ⟨_, _, ⟨rfl, loadDefinition_item rfl⟩, rfl, rfl⟩,
      rfl⟩
  · have hplaces : definitionsIn t ⟨"/rc"⟩ entries.reverse =
        [("about", ⟨"/rc/about.yml"⟩), ("about", ⟨"/rc/about/resource.yml"⟩)] := by rfl
    rw [hplaces]
    simp only [mapM_cons_eq_ok, loadNamed_eq_ok]
    exact ⟨_, _, ⟨rfl, loadDefinition_item rfl⟩, ⟨_, _, ⟨rfl, loadDefinition_empty rfl⟩, rfl, rfl⟩,
      rfl⟩

end Folio
