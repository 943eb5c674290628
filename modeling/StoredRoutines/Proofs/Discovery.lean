import StoredRoutines.Proofs.FileTree.Listing
import StoredRoutines.Proofs.Path.Order

/-!
# Discovered sources

The sources of a full run are the files that the patterns select. Their paths have the parts of the
source directory and behind them the names on the way from it, so all of them are different, and the
order in which the directories are read makes no difference.

## Main results

- `Path.parts_pathBelow` — the parts of the path of a file
- `FileTree.resolve?_pathBelow` — it leads to the file
- `isSelected_iff` — which files are selected
- `discover_selected` — what is found in a source directory
-/

namespace StoredRoutines

open FileTree (IsName)

/-! ### Paths below a directory -/

namespace Path

variable {base p : Path} {names : Location}

/-- Pieces without slashes are found again in the joined text. -/
theorem pieces_intercalate {ps : List (List Char)} (hne : ps ≠ []) (h : ∀ piece ∈ ps, '/' ∉ piece) :
    pieces (List.intercalate ['/'] ps) = ps := by
  induction ps with
  | nil => exact absurd rfl hne
  | cons piece ps ih =>
    have hpiece := pieces_of_notMem (h piece List.mem_cons_self)
    cases ps with
    | nil => rw [List.intercalate_singleton, hpiece]
    | cons next ps =>
      have hrest := ih (List.cons_ne_nil _ _) fun q hq => h q (List.mem_cons_of_mem _ hq)
      rw [List.intercalate_cons_cons, List.append_assoc, List.singleton_append, pieces_append,
        hpiece, hrest, List.singleton_append]

/-- The pieces of a path below another one. A slash at the end of the other one, behind which there
    is an empty piece, is not doubled. -/
theorem pieces_join (hbase : base.text ≠ "") (hp : p.isAbsolute = false) :
    (base.join p).isAbsolute = base.isAbsolute ∧
    ∃ init, init ≠ [] ∧
      (pieces base.text.toList = init ∨ pieces base.text.toList = init ++ [[]]) ∧
      pieces (base.join p).text.toList = init ++ pieces p.text.toList := by
  have hempty : base.text.isEmpty = false := by simpa using hbase
  have hne : base.text.toList ≠ [] := by simpa using hbase
  rw [join, hp, hempty, Bool.or_self, if_neg Bool.false_ne_true, isAbsolute, isAbsolute]
  split
  next hslash =>
    obtain ⟨rest, hrest⟩ := List.getLast?_eq_some_iff.1 (beq_iff_eq.1 hslash)
    refine ⟨by rw [String.toList_append, List.head?_append_of_ne_nil _ hne], pieces rest,
      pieces_ne_nil rest, .inr ?_, ?_⟩
    · rw [hrest, pieces_append]
      rfl
    · rw [String.toList_append, hrest, List.append_assoc, List.singleton_append, pieces_append]
  next =>
    refine ⟨?_, pieces base.text.toList, pieces_ne_nil _, .inl rfl, ?_⟩
    · rw [String.toList_append, String.toList_append, List.append_assoc,
        List.head?_append_of_ne_nil _ hne]
    · rw [String.toList_append, String.toList_append, List.append_assoc]
      exact pieces_append _ _

/-- Below a directory the parts of the directory come first. -/
theorem parts_join (hbase : base.text ≠ "") (hp : p.isAbsolute = false) :
    (base.join p).parts = base.parts ++ (pieces p.text.toList).filterMap part? := by
  obtain ⟨habsolute, init, hinit, hpieces, hjoin⟩ := pieces_join hbase hp
  have hhead : (pieces base.text.toList).head? = init.head? := by
    rcases hpieces with h | h
    · rw [h]
    · rw [h, List.head?_append_of_ne_nil _ hinit]
  have hkept : (pieces base.text.toList).filterMap part? = init.filterMap part? := by
    rcases hpieces with h | h
    · rw [h]
    · rw [h, List.filterMap_append]
      exact List.append_nil _
  simp only [parts]
  rw [habsolute, hhead, hkept, hjoin, List.head?_append_of_ne_nil _ hinit, List.filterMap_append,
    List.append_assoc]

/-- Joined names have the names as pieces. -/
theorem pieces_names (hne : names ≠ []) (h : ∀ name ∈ names, IsName name) :
    pieces ("/".intercalate names).toList = names.map String.toList := by
  rw [String.toList_intercalate]
  refine pieces_intercalate (by simpa using hne) fun piece hpiece => ?_
  obtain ⟨name, hname, rfl⟩ := List.mem_map.1 hpiece
  exact (h name hname).slash_notMem

theorem isAbsolute_names (hne : names ≠ []) (h : ∀ name ∈ names, IsName name) :
    (⟨"/".intercalate names⟩ : Path).isAbsolute = false := by
  have hpieces := pieces_names hne h
  obtain ⟨name, rest, rfl⟩ := List.exists_cons_of_ne_nil hne
  by_contra habsolute
  rw [Bool.not_eq_false, isAbsolute, beq_iff_eq] at habsolute
  obtain ⟨s, hs⟩ := List.head?_eq_some_iff.1 habsolute
  -- an absolute path has an empty first piece
  rw [hs] at hpieces
  exact (h name List.mem_cons_self).not_special (.inl (List.cons.inj hpieces).1.symm)

/-- The parts of a path that names on the way from a directory make up. -/
theorem parts_pathBelow (hbase : base.text ≠ "") (h : ∀ name ∈ names, IsName name) :
    (pathBelow base names).parts = base.parts ++ names.map .name := by
  by_cases hne : names = []
  · rw [hne]
    exact (List.append_nil _).symm
  · have hparts : (names.map String.toList).filterMap part? = names.map .name := by
      rw [List.filterMap_map, ← List.filterMap_eq_map]
      refine List.filterMap_congr fun name hname => ?_
      have hspecial := (h name hname).not_special
      rw [Function.comp, part?, if_neg fun hs => hspecial (hs.imp_right .inl),
        if_neg fun hs => hspecial (.inr (.inr hs)), String.ofList_toList]
      rfl
    rw [pathBelow, parts_join hbase (isAbsolute_names hne h), pieces_names hne h, hparts]
    exact hne

end Path

namespace FileTree

variable {t : FileTree} {root : Path} {l : Location} {names : Location}

theorem text_ne_empty_of_accepts (h : accepts root = true) : root.text ≠ "" := by
  rw [accepts, Bool.and_eq_true, Bool.and_eq_true] at h
  simpa using h.1.1

theorem follow?_append (t : FileTree) (l : Location) (ps qs : List (List Char)) :
    t.follow? l (ps ++ qs) = (t.follow? l ps).bind fun m => t.follow? m qs :=
  List.foldlM_append

/-- Names lead to the node that lies under them. -/
theorem follow?_names (hn : ∀ name ∈ names, IsName name) (hnode : (t.node? (l ++ names)).isSome) :
    t.follow? l (names.map String.toList) = some (l ++ names) := by
  induction names generalizing l with
  | nil => exact congrArg some (List.append_nil l).symm
  | cons name names ih =>
    rw [List.append_cons] at hnode ⊢
    have habove : l <+: l ++ [name] ++ names := ⟨[name] ++ names, (List.append_assoc _ _ _).symm⟩
    have hdirectory : t.isDirectoryAt l := isDirectoryAt_above hnode habove (by simp)
    have hstep : t.step? l name.toList = some (l ++ [name]) := by
      refine step?_eq_some_iff.2 ⟨hdirectory, .inr (.inr ?_)⟩
      refine ⟨(hn name List.mem_cons_self).not_special, by rw [String.ofList_toList], ?_⟩
      exact node?_isSome_above hnode (List.prefix_append _ _)
    rw [List.map_cons, follow?_cons, hstep, Option.bind_some]
    exact ih (fun q hq => hn q (List.mem_cons_of_mem _ hq)) hnode

/-- A relative path is followed from the directory on whose path it is put behind. -/
theorem resolve?_join {p : Path} (hroot : t.locate? root = some l) (hp : p.isAbsolute = false) :
    t.resolve? (root.join p) = t.follow? l (Path.pieces p.text.toList) := by
  obtain ⟨haccepts, hfollow⟩ := locate?_eq_some_iff.1 hroot
  obtain ⟨habsolute, init, hinit, hpieces, hjoin⟩ :=
    Path.pieces_join (text_ne_empty_of_accepts haccepts) hp
  have hstart : t.startOf (root.join p) = t.startOf root := by
    rw [startOf, startOf, habsolute]
  -- the empty piece behind a slash at the end leads nowhere else
  have hway : t.follow? (t.startOf root) init = some l := by
    rcases hpieces with h | h
    · rwa [h] at hfollow
    · rw [h, follow?_concat] at hfollow
      obtain ⟨k, hk, hstep⟩ := Option.bind_eq_some_iff.1 hfollow
      obtain ⟨-, ⟨-, rfl⟩ | ⟨hup, -⟩ | ⟨hspecial, -⟩⟩ := step?_eq_some_iff.1 hstep
      · exact hk
      · cases hup
      · exact absurd (.inl rfl) hspecial
  have hfull : (root.join p).text.isEmpty = false := by
    rw [← Bool.not_eq_true, String.isEmpty_iff, ← String.toList_eq_nil_iff]
    intro hempty
    rw [hempty] at hjoin
    have hlength := congrArg List.length hjoin
    have hfirst := List.length_pos_iff.2 hinit
    have hlast := List.length_pos_iff.2 (Path.pieces_ne_nil p.text.toList)
    simp only [Path.pieces, List.length_append, List.length_singleton] at hlength
    omega
  rw [resolve?, hfull, if_neg Bool.false_ne_true, hstart, hjoin, follow?_append, hway,
    Option.bind_some]

/-- The path that names on the way from a directory make up leads to what lies under the names. -/
theorem resolve?_pathBelow (hroot : t.locate? root = some l) (hn : ∀ name ∈ names, IsName name)
    (hnode : (t.node? (l ++ names)).isSome) :
    t.resolve? (pathBelow root names) = some (l ++ names) := by
  by_cases hne : names = []
  · subst hne
    rw [locate?] at hroot
    rw [List.append_nil]
    exact (Option.ite_none_right_eq_some.1 hroot).2
  · rw [pathBelow, resolve?_join hroot (Path.isAbsolute_names hne hn), Path.pieces_names hne hn]
    · exact follow?_names hn hnode
    · exact hne

end FileTree

/-! ### Selected files -/

section

variable {included excluded : List Glob.Pattern} {names : Location}

/-- A file is selected if a pattern includes it and none excludes it. -/
theorem isSelected_iff : isSelected included excluded names = true ↔
    (∃ p ∈ included, p.selects ("/".intercalate names) = true) ∧
      ∀ p ∈ excluded, p.selects ("/".intercalate names) = false := by
  simp only [isSelected, Bool.and_eq_true, Bool.not_eq_true', List.any_eq_false, List.any_eq_true,
    Bool.not_eq_true]
  exact and_comm

/-- Different files have different paths. -/
theorem pathBelow_inj {root : Path} {names' : Location} (hroot : root.text ≠ "")
    (hn : ∀ name ∈ names, IsName name) (hn' : ∀ name ∈ names', IsName name)
    (h : (pathBelow root names).parts = (pathBelow root names').parts) : names = names' := by
  rw [Path.parts_pathBelow hroot hn, Path.parts_pathBelow hroot hn',
    List.append_cancel_left_eq] at h
  exact List.map_injective_iff.2 (fun _ _ => PathPart.name.inj) h

end

section

variable {files : FileTree} {config : LoaderConfig} {location : Location}
  {included excluded : List Glob.Pattern}

/-- The paths of the selected files among some, in order. -/
def selectedPaths (root : Path) (included excluded : List Glob.Pattern) (below : List Location) :
    List Path :=
  sortBy Path.precedes ((below.filter (isSelected included excluded)).map (pathBelow root))

/-- The directories are listed first, which fails at the first one with too long a path. -/
theorem discover_eq (hroot : files.locate? config.sourceDirectory = some location)
    (hdirectory : files.isDirectoryAt location)
    (hincluded : patterns config.includePatterns = .ok included)
    (hexcluded : patterns config.excludePatterns = .ok excluded) :
    discover files config =
      match ((files.directoriesBelow location).map (pathBelow config.sourceDirectory)).find?
        fun d => !FileTree.accepts d with
      | some long => .error (.longPath long)
      | none => .ok (selectedPaths config.sourceDirectory included excluded
          (files.filesBelow location)) := by
  unfold discover
  simp only [hroot, hdirectory, hincluded, hexcluded, bind, Except.bind, pure, Except.pure]
  rw [Bool.not_true, if_neg Bool.false_ne_true]
  cases List.find? (fun d => !FileTree.accepts d)
    ((files.directoriesBelow location).map (pathBelow config.sourceDirectory)) <;> rfl

/-- Discovery succeeds exactly if the paths of all directories below the root are accepted. -/
theorem discover_eq_ok_iff (hroot : files.locate? config.sourceDirectory = some location)
    (hdirectory : files.isDirectoryAt location)
    (hincluded : patterns config.includePatterns = .ok included)
    (hexcluded : patterns config.excludePatterns = .ok excluded) :
    discover files config = .ok (selectedPaths config.sourceDirectory included excluded
        (files.filesBelow location)) ↔
      ∀ names, files.isDirectoryAt (location ++ names) →
        FileTree.accepts (pathBelow config.sourceDirectory names) := by
  have hall : (∀ names, files.isDirectoryAt (location ++ names) →
      FileTree.accepts (pathBelow config.sourceDirectory names)) ↔
      ((files.directoriesBelow location).map (pathBelow config.sourceDirectory)).find?
        (fun d => !FileTree.accepts d) = none := by
    simp [List.find?_eq_none, FileTree.mem_directoriesBelow]
  rw [discover_eq hroot hdirectory hincluded hexcluded, hall]
  cases ((files.directoriesBelow location).map (pathBelow config.sourceDirectory)).find?
    fun d => !FileTree.accepts d with
  | none => simp
  | some long => simp

/-- Files that are sorted come in the strict order of their paths, however they are listed. -/
theorem selectedPaths_sorted {root : Path} {below : List Location} (hroot : root.text ≠ "")
    (hbelow : below.Nodup) (hnames : ∀ names ∈ below, ∀ name ∈ names, IsName name) :
    (selectedPaths root included excluded below).Pairwise Path.Before := by
  have hdistinct : (((below.filter (isSelected included excluded)).map (pathBelow root)).map
      Path.parts).Nodup := by
    rw [List.map_map]
    refine (hbelow.filter _).map_on fun names hn names' hn' heq => ?_
    exact pathBelow_inj hroot (hnames _ (List.mem_of_mem_filter hn))
      (hnames _ (List.mem_of_mem_filter hn')) heq
  have hparts := (((perm_sortBy Path.precedes _).map Path.parts).nodup_iff).2 hdistinct
  have hsorted := pairwise_sortBy Path.orders_precedes
    ((below.filter (isSelected included excluded)).map (pathBelow root))
  rw [List.Nodup, List.pairwise_map] at hparts
  refine (hsorted.and hparts).imp fun {p q} h => ?_
  exact (Path.precedes_iff.1 h.1).resolve_left h.2

/-- The order in which the files are met does not matter. -/
theorem selectedPaths_eq_of_perm {root : Path} {below below' : List Location}
    (hroot : root.text ≠ "") (hnames : ∀ names ∈ below, ∀ name ∈ names, IsName name)
    (hperm : below.Perm below') :
    selectedPaths root included excluded below = selectedPaths root included excluded below' := by
  refine sortBy_eq_of_perm Path.orders_precedes ((hperm.filter _).map _) ?_
  intro p hp q hq hle hge
  obtain ⟨names, hn, rfl⟩ := List.mem_map.1 hp
  obtain ⟨names', hn', rfl⟩ := List.mem_map.1 hq
  rw [pathBelow_inj hroot (hnames _ (List.mem_of_mem_filter hn))
    (hnames _ (List.mem_of_mem_filter hn')) (Path.parts_eq_of_precedes hle hge)]

/-- Below a source directory the selected files are found, each of them once and in the order of
    their paths, unless a directory there has too long a path to be listed. It makes no difference
    in which order the directories list their entries. -/
theorem discover_selected (hnamed : files.Named)
    (hroot : files.locate? config.sourceDirectory = some location)
    (hdirectory : files.isDirectoryAt location)
    (hincluded : patterns config.includePatterns = .ok included)
    (hexcluded : patterns config.excludePatterns = .ok excluded) :
    ∃ paths, (discover files config = .ok paths ↔ ∀ names,
        files.isDirectoryAt (location ++ names) →
          FileTree.accepts (pathBelow config.sourceDirectory names)) ∧
      (∀ path, path ∈ paths ↔ ∃ names, (files.fileAt? (location ++ names)).isSome ∧
        (∃ p ∈ included, p.selects ("/".intercalate names) = true) ∧
        (∀ p ∈ excluded, p.selects ("/".intercalate names) = false) ∧
        path = pathBelow config.sourceDirectory names) ∧
      (∀ names, (files.fileAt? (location ++ names)).isSome →
        (pathBelow config.sourceDirectory names).parts =
          config.sourceDirectory.parts ++ names.map .name ∧
        files.resolve? (pathBelow config.sourceDirectory names) = some (location ++ names)) ∧
      paths.Pairwise Path.Before ∧
      ∀ walked : List Location, walked.Nodup →
        (∀ names, names ∈ walked ↔ (files.node? (location ++ names)).isSome) →
          paths = selectedPaths config.sourceDirectory included excluded
            (walked.filter fun names => (files.fileAt? (location ++ names)).isSome) := by
  have hbase := FileTree.text_ne_empty_of_accepts (FileTree.locate?_eq_some_iff.1 hroot).1
  have hnode : ∀ {names}, (files.fileAt? (location ++ names)).isSome →
      (files.node? (location ++ names)).isSome := by
    intro names hsome
    obtain ⟨file, hfile⟩ := Option.isSome_iff_exists.1 hsome
    rw [FileTree.node?_of_fileAt? hfile]
    rfl
  have hnames : ∀ {names}, (files.fileAt? (location ++ names)).isSome →
      ∀ name ∈ names, IsName name := by
    intro names hsome name hname
    exact hnamed.name_of_node? (hnode hsome) name (List.mem_append_right _ hname)
  have hlisted : ∀ names ∈ files.filesBelow location, ∀ name ∈ names, IsName name :=
    fun names hmem => hnames (FileTree.mem_filesBelow.1 hmem)
  refine ⟨_, discover_eq_ok_iff hroot hdirectory hincluded hexcluded, fun path => ?_,
    fun names hsome => ⟨?_, ?_⟩, ?_, fun walked hnodup hwalked => ?_⟩
  · simp only [selectedPaths, mem_sortBy, List.mem_map, List.mem_filter, isSelected_iff,
      FileTree.mem_filesBelow, and_assoc, eq_comm (a := path)]
  · exact Path.parts_pathBelow hbase (hnames hsome)
  · exact FileTree.resolve?_pathBelow hroot (hnames hsome) (hnode hsome)
  · exact selectedPaths_sorted hbase FileTree.nodup_filesBelow hlisted
  · -- both lists hold the files, each of them once, so they are sorted alike
    have hperm : (files.filesBelow location).Perm
        (walked.filter fun names => (files.fileAt? (location ++ names)).isSome) := by
      rw [List.perm_ext_iff_of_nodup FileTree.nodup_filesBelow (hnodup.filter _)]
      intro names
      rw [FileTree.mem_filesBelow, List.mem_filter, hwalked]
      exact ⟨fun hsome => ⟨hnode hsome, hsome⟩, fun h => h.2⟩
    exact selectedPaths_eq_of_perm hbase hlisted hperm

/-- Sources in two directories, one of which is left out, beside a file of another kind. -/
def shelf : FileTree :=
  ((((FileTree.empty 2000).add ⟨"/psql/user-get.psql"⟩ ⟨#[]⟩ 1000).add
    ⟨"/psql/legacy/old.psql"⟩ ⟨#[]⟩ 1000).add ⟨"/psql/README.md"⟩ ⟨#[]⟩ 1000).add
      ⟨"/psql/user/order.psql"⟩ ⟨#[]⟩ 1000

/-- All sources of the shelf but those in one directory. -/
def shelfConfig : LoaderConfig where
  sourceDirectory := ⟨"/psql/"⟩
  includePatterns := ["**/*.psql"]
  excludePatterns := ["legacy/**"]
  recordsPath := ⟨"/routines.json"⟩
  session := ⟨"", "", ""⟩
  columnTypePlaceholders := true

/-- What lies in a directory comes before a file whose name only begins like its name. -/
theorem discover_selected_shelf :
    discover shelf shelfConfig =
        .ok [⟨"/psql/user/order.psql"⟩, ⟨"/psql/user-get.psql"⟩] ∧
      List.Pairwise Path.Before [⟨"/psql/user/order.psql"⟩, ⟨"/psql/user-get.psql"⟩] := by
  have hnamed : shelf.Named :=
    ((((FileTree.named_empty 2000).add _ _ _).add _ _ _).add _ _ _).add _ _ _
  have hroot : shelf.locate? shelfConfig.sourceDirectory = some ["psql"] := by decide +kernel
  have hdirectory : shelf.isDirectoryAt ["psql"] := by decide +kernel
  have hcompiles : (patterns shelfConfig.includePatterns).toBool = true ∧
      (patterns shelfConfig.excludePatterns).toBool = true := by decide +kernel
  cases hincluded : patterns shelfConfig.includePatterns with
  | error e => simp [hincluded, Except.toBool] at hcompiles
  | ok included =>
    cases hexcluded : patterns shelfConfig.excludePatterns with
    | error e => simp [hexcluded, Except.toBool] at hcompiles
    | ok excluded =>
      obtain ⟨paths, hpaths, -, -, hsorted, -⟩ :=
        discover_selected hnamed hroot hdirectory hincluded hexcluded
      have hfound : discover shelf shelfConfig =
          .ok [⟨"/psql/user/order.psql"⟩, ⟨"/psql/user-get.psql"⟩] := by decide +kernel
      have hlisted : discover shelf shelfConfig = .ok paths := by
        refine hpaths.2 fun names hbelow => ?_
        rw [← FileTree.mem_directoriesBelow] at hbelow
        revert names
        decide +kernel
      rw [hfound] at hlisted
      obtain rfl := Except.ok.inj hlisted
      exact ⟨hfound, hsorted⟩

end

end StoredRoutines
