import Mathlib.Data.List.Induction
import KeyProtection.Proofs.Logging.Registry

/-! Directories in use. Opening a log only makes empty files and folders, each where there was
nothing and inside a folder that is there; writing only adds to the end of one file. So whatever
is found stays, files only get longer, and all that is found is inside folders. -/

namespace KeyProtection.Logging

namespace FilePath

/-- A path in which nothing is left to resolve. -/
def IsNormal (path : FilePath) : Prop := ∀ name ∈ path, name ≠ "." ∧ name ≠ ".."

instance (path : FilePath) : Decidable path.IsNormal := inferInstanceAs (Decidable (∀ name ∈ path, _))

theorem enter_named (folder : FilePath) {name : String} (named : name ≠ "." ∧ name ≠ "..") :
    enter folder name = folder ++ [name] := by
  rw [enter, if_neg named.1, if_neg named.2]

theorem IsNormal.enter {folder : FilePath} (normal : folder.IsNormal) (part : String) :
    (folder.enter part).IsNormal := by
  rw [FilePath.enter]
  split
  · exact normal
  · split
    · exact fun name member => normal name (List.dropLast_subset folder member)
    · next here above =>
      intro name member
      rcases List.mem_append.mp member with old | new
      · exact normal name old
      · exact List.mem_singleton.mp new ▸ ⟨here, above⟩

theorem IsNormal.normalize {start : FilePath} (normal : start.IsNormal) (parts : List String) :
    (normalize start parts).IsNormal := by
  induction parts generalizing start with
  | nil => exact normal
  | cons part rest later => exact later (normal.enter part)

/-- A normal path leads to where it says. -/
theorem IsNormal.normalize_eq {path : FilePath} (normal : path.IsNormal) (folder : FilePath) :
    FilePath.normalize folder path = folder ++ path := by
  induction path generalizing folder with
  | nil => exact (List.append_nil folder).symm
  | cons name rest later =>
    rw [FilePath.normalize, List.foldl_cons, enter_named folder (normal name List.mem_cons_self)]
    exact (later (fun other member => normal other (List.mem_cons_of_mem name member)) _).trans
      (List.append_cons folder name rest).symm

end FilePath

namespace Node

/-- A file with a text added at its end. -/
def extend (text : String) : Node → Node
  | folder => folder
  | file content => file (content ++ text)

@[simp] theorem extend_folder (text : String) : folder.extend text = folder := rfl

@[simp] theorem extend_file (content text : String) :
    (file content).extend text = file (content ++ text) := rfl

@[simp] theorem extend_empty (node : Node) : node.extend "" = node := by
  cases node with
  | folder => rfl
  | file content => exact congrArg file String.append_empty

theorem extend_extend (node : Node) (first second : String) :
    (node.extend first).extend second = node.extend (first ++ second) := by
  cases node with
  | folder => rfl
  | file content => exact congrArg file String.append_assoc

end Node

namespace Directory

/-- Every path is listed once, with what is found there, and everything is inside folders only. -/
structure Nested (directory : Directory) : Prop where
  distinct : (directory.nodes.map Prod.fst).Nodup
  found : ∀ entry ∈ directory.nodes, directory.find? entry.1 = some entry.2
  inside : ∀ (folder : FilePath) (name : String) (rest : FilePath),
    (directory.find? (folder ++ name :: rest)).isSome → directory.find? folder = some .folder

/-- The folder worked in is there too, by a normal path. -/
structure WellFormed (directory : Directory) : Prop extends Nested directory where
  working : directory.find? directory.working = some .folder
  normal : directory.working.IsNormal

theorem find?_top (directory : Directory) : directory.find? [] = some .folder := if_pos rfl

/-- What is added is found only where nothing was found before. -/
theorem find?_add (directory : Directory) (path other : FilePath) (node : Node) :
    (directory.add path node).find? other =
      (directory.find? other).or (if other = path then some node else none) := by
  by_cases top : other = []
  · simp [find?, top]
  · rw [find?, if_neg top, find?, if_neg top, add, List.lookup_append]
    congr 1
    by_cases same : other = path
    · simp [same]
    · simp [List.lookup_cons, beq_false_of_ne same, same]

/-- What making folders and opening files can lead to: more empty files and folders, each where there was
nothing and inside a folder that is there. -/
inductive Grows : Directory → Directory → Prop
  | refl (directory : Directory) : Grows directory directory
  | add {directory next : Directory} {folder : FilePath} {name : String} {node : Node}
      (grows : Grows directory next) (absent : next.find? (folder ++ [name]) = none)
      (parent : next.find? folder = some .folder) (empty : node = .folder ∨ node = .file "") :
      Grows directory (next.add (folder ++ [name]) node)

theorem Grows.trans {directory next last : Directory} (first : Grows directory next)
    (second : Grows next last) : Grows directory last := by
  induction second with
  | refl => exact first
  | add _ absent parent empty step => exact step.add absent parent empty

theorem Nested.add {directory : Directory} {folder : FilePath} {name : String} {node : Node}
    (nested : directory.Nested) (absent : directory.find? (folder ++ [name]) = none)
    (parent : directory.find? folder = some .folder) :
    (directory.add (folder ++ [name]) node).Nested where
  distinct := by
    rw [Directory.add, List.map_append]
    refine List.nodup_append.mpr ⟨nested.distinct, by simp, ?_⟩
    intro path listed other last same
    obtain ⟨entry, member, rfl⟩ := List.mem_map.mp listed
    have present := nested.found entry member
    rw [same, List.mem_singleton.mp last, absent] at present
    cases present
  found := by
    intro entry listed
    rw [find?_add]
    rcases List.mem_append.mp listed with old | new
    · rw [nested.found entry old, Option.some_or]
    · rw [List.mem_singleton.mp new, absent, Option.none_or, if_pos rfl]
  inside := by
    intro outer part rest present
    rw [find?_add] at present ⊢
    suffices directory.find? outer = some .folder by rw [this, Option.some_or]
    by_cases same : outer ++ part :: rest = folder ++ [name]
    · rcases List.eq_nil_or_concat rest with rfl | ⟨front, last, rfl⟩
      · rw [(List.append_inj' same rfl).1]
        exact parent
      · have whole : (outer ++ part :: front) ++ [last] = folder ++ [name] := by
          simpa using same
        have inner : outer ++ part :: front = folder := (List.append_inj' whole rfl).1
        exact nested.inside outer part front (by rw [inner, parent]; rfl)
    · rw [if_neg same, Option.or_none] at present
      exact nested.inside outer part rest present

/-- What is found stays. -/
theorem Grows.find?_eq {directory next : Directory} {path : FilePath} {node : Node}
    (grows : Grows directory next) (found : directory.find? path = some node) :
    next.find? path = some node := by
  induction grows with
  | refl => exact found
  | add _ absent _ _ step => rw [find?_add, step, Option.some_or]

theorem Grows.working_eq {directory next : Directory} (grows : Grows directory next) :
    next.working = directory.working := by
  induction grows with
  | refl => rfl
  | add _ _ _ _ step => exact step

theorem Grows.wellFormed {directory next : Directory} (grows : Grows directory next)
    (wellFormed : directory.WellFormed) : next.WellFormed where
  toNested := by
    induction grows with
    | refl => exact wellFormed.toNested
    | add _ absent parent _ step => exact step.add absent parent
  working := by
    rw [grows.working_eq]
    exact grows.find?_eq wellFormed.working
  normal := grows.working_eq ▸ wellFormed.normal

/-- Folders to a place are those to the one above it, and the place. -/
theorem foldersTo_concat (above front : FilePath) (name : String) :
    foldersTo above (front ++ [name]) =
      foldersTo above front ++ [(above ++ (front ++ [name]), .folder)] := by
  induction front generalizing above with
  | nil => rfl
  | cons first rest later =>
    rw [List.cons_append, foldersTo, foldersTo, later, List.cons_append, List.append_assoc]
    rfl

/-- With nothing but the folders to a place, there are exactly those. -/
theorem nested_foldersTo (working place : FilePath) (runLimit : Nat) :
    Nested ⟨working, runLimit, foldersTo [] place⟩ ∧
      ∀ path, find? ⟨working, runLimit, foldersTo [] place⟩ path =
        if path <+: place then some .folder else none := by
  induction place using List.reverseRecOn with
  | nil =>
    refine ⟨⟨List.nodup_nil, (fun _ listed => nomatch listed), fun folder name rest present => ?_⟩, ?_⟩
    · rw [find?, if_neg (by simp)] at present
      cases present
    · intro path
      simp only [find?, List.prefix_nil]
      rfl
  | append_singleton front name step =>
    obtain ⟨nested, found⟩ := step
    have made : Directory.mk working runLimit (foldersTo [] (front ++ [name])) =
        (Directory.mk working runLimit (foldersTo [] front)).add (front ++ [name]) .folder := by
      rw [foldersTo_concat, List.nil_append]
      rfl
    have absent : ¬ front ++ [name] <+: front := fun inside => by
      have shorter := inside.length_le
      rw [List.length_append, List.length_singleton] at shorter
      omega
    rw [made]
    refine ⟨nested.add ((found _).trans (if_neg absent))
      ((found _).trans (if_pos (List.prefix_refl front))), fun path => ?_⟩
    rw [find?_add, found]
    by_cases inside : path <+: front
    · simp [inside, List.prefix_concat_iff]
    · simp [inside, List.prefix_concat_iff]

theorem wellFormed_bare {working : FilePath} (normal : working.IsNormal) (runLimit : Nat) :
    (bare working runLimit).WellFormed where
  toNested := (nested_foldersTo working working runLimit).1
  working := ((nested_foldersTo working working runLimit).2 working).trans
    (if_pos (List.prefix_refl working))
  normal := normal

/-- What is in a file, and nothing where there is none. -/
def content (directory : Directory) (path : FilePath) : String :=
  match directory.find? path with
  | some (.file content) => content
  | _ => ""

theorem content_of_find? {directory : Directory} {path : FilePath} {content : String}
    (found : directory.find? path = some (.file content)) : directory.content path = content := by
  rw [Directory.content, found]

/-- What is written stands at the end of a file, if nothing is written where there is no file. -/
theorem content_of_extend {directory next : Directory} {path : FilePath} {text : String}
    (extended : next.find? path = (directory.find? path).map (Node.extend text))
    (nothing : (∀ content, directory.find? path ≠ some (.file content)) → text = "") :
    next.content path = directory.content path ++ text := by
  rw [content, extended, content]
  cases found : directory.find? path with
  | none =>
    rw [nothing (by simp [found])]
    rfl
  | some node =>
    cases node with
    | folder =>
      rw [nothing (by simp [found])]
      rfl
    | file content => rfl

/-- What is made holds nothing. -/
theorem Grows.content_eq {directory next : Directory} (grows : Grows directory next)
    (path : FilePath) : next.content path = directory.content path := by
  induction grows with
  | refl => rfl
  | @add next folder name node _ _ _ empty step =>
    rw [← step, content, content, find?_add]
    cases next.find? path with
    | some node => rfl
    | none =>
      rw [Option.none_or]
      by_cases same : path = folder ++ [name]
      · rw [if_pos same]
        rcases empty with rfl | rfl
        · rfl
        · rfl
      · rw [if_neg same]

/-- Names lead only where their walk ends, and in front of every name there is a folder. -/
theorem locate_ok {directory : Directory} {folder path : FilePath} {names : List String}
    (located : directory.locate folder names = .ok path) :
    path = names.foldl FilePath.enter folder ∧
      ∀ before name after, names = before ++ name :: after →
        directory.find? (before.foldl FilePath.enter folder) = some .folder := by
  induction names generalizing folder with
  | nil =>
    refine ⟨(Except.ok.inj located).symm, ?_⟩
    intro before name after absurd
    simp at absurd
  | cons name rest later =>
    rw [locate] at located
    split at located
    · next here =>
      split at located
      · cases located
      · obtain ⟨walked, front⟩ := later located
        refine ⟨walked, ?_⟩
        intro before last after split
        cases before with
        | nil => exact here
        | cons first before =>
          obtain ⟨rfl, inner⟩ := List.cons.inj split
          exact front before last after inner
    · cases located
    · cases located

theorem follow_ok {directory : Directory} {route : Route} {path : FilePath}
    (followed : directory.follow route = .ok path) :
    directory.locate route.start route.names = .ok path := by
  rw [follow] at followed
  split at followed
  · cases followed
  · split at followed
    · cases followed
    · exact followed

/-- Where names lead from a folder and nothing is found, something can be made: in a folder that is
there. -/
theorem exists_folder {directory : Directory} {start path : FilePath} {names : List String}
    (nested : directory.Nested) (started : directory.find? start = some .folder)
    (located : directory.locate start names = .ok path) (absent : directory.find? path = none) :
    ∃ folder name, path = folder ++ [name] ∧ directory.find? folder = some .folder := by
  obtain ⟨walked, front⟩ := locate_ok located
  rcases List.eq_nil_or_concat names with rfl | ⟨before, last, rfl⟩
  · rw [walked, List.foldl_nil, started] at absent
    cases absent
  · have parent := front before last [] List.concat_eq_append
    rw [List.concat_eq_append, List.foldl_append, List.foldl_cons, List.foldl_nil] at walked
    generalize before.foldl FilePath.enter start = base at walked parent
    -- A step to the folder itself or to the one above would end where something is found.
    by_cases here : last = "."
    · rw [walked, FilePath.enter, if_pos here, parent] at absent
      cases absent
    · by_cases above : last = ".."
      · rw [walked, FilePath.enter, if_neg here, if_pos above] at absent
        rcases List.eq_nil_or_concat base with rfl | ⟨folder, name, rfl⟩
        · rw [List.dropLast_nil, find?_top] at absent
          cases absent
        · rw [List.concat_eq_append] at parent absent
          have outer := nested.inside folder name [] (Option.isSome_of_eq_some parent)
          rw [List.dropLast_concat, outer] at absent
          cases absent
      · exact ⟨_, last, walked.trans (FilePath.enter_named _ ⟨here, above⟩), parent⟩

/-- Where names lead from a folder, an empty file or a folder can be made if nothing is found there. -/
theorem grows_add {directory : Directory} {start path : FilePath} {names : List String} {node : Node}
    (nested : directory.Nested) (started : directory.find? start = some .folder)
    (located : directory.locate start names = .ok path) (absent : directory.find? path = none)
    (empty : node = .folder ∨ node = .file "") : Grows directory (directory.add path node) := by
  obtain ⟨folder, name, rfl, parent⟩ := exists_folder nested started located absent
  exact (Grows.refl directory).add absent parent empty

theorem makeFolder_grows {directory : Directory} (wellFormed : directory.WellFormed) {route : Route}
    (started : directory.find? route.start = some .folder) :
    Grows directory (directory.makeFolder route).1 := by
  rw [makeFolder]
  split
  · exact .refl directory
  · next path followed =>
    split
    · exact .refl directory
    · exact .refl directory
    · next absent => exact grows_add wellFormed.toNested started (follow_ok followed) absent (.inl rfl)

theorem makeFolders_grows {directory : Directory} (wellFormed : directory.WellFormed) {start : FilePath}
    (started : directory.find? start = some .folder) (parts : List PathPart) :
    Grows directory (directory.makeFolders start parts).1 := by
  induction parts with
  | nil => exact .refl directory
  | cons part above step =>
    let route := FilePath.routeOf start (part :: above).reverse
    have own : Grows _ ((directory.makeFolders start above).1.makeFolder route).1 :=
      makeFolder_grows (step.wellFormed wellFormed) (step.find?_eq started)
    have last := step.trans own
    rw [makeFolders]
    dsimp only
    split
    · exact makeFolder_grows wellFormed started
    · split
      · split
        · exact step
        · exact last
      · split
        · exact step
        · exact last
      · exact step

theorem openFile_grows {directory : Directory} {path : FilePath} (wellFormed : directory.WellFormed)
    (normal : path.IsNormal) (slashes : Nat) : Grows directory (directory.openFile path slashes).1 := by
  rw [openFile]
  split
  · exact .refl directory
  · next located followed =>
    have there := follow_ok followed
    have walked := (locate_ok there).1.trans (normal.normalize_eq [])
    rw [walked, List.nil_append] at there
    split
    · exact .refl directory
    · exact .refl directory
    · next absent => exact grows_add wellFormed.toNested directory.find?_top there absent (.inr rfl)

/-- Paths start in a folder that is there, by a normal path. -/
theorem WellFormed.startOf {directory : Directory} (wellFormed : directory.WellFormed) (given : String) :
    directory.find? (directory.startOf given) = some .folder ∧ (directory.startOf given).IsNormal := by
  rw [Directory.startOf]
  split
  · exact ⟨directory.find?_top, fun _ member => nomatch member⟩
  · exact ⟨wellFormed.working, wellFormed.normal⟩

theorem openLog_grows {directory : Directory} (wellFormed : directory.WellFormed)
    (given : String) : Grows directory (directory.openLog given).1 := by
  obtain ⟨started, normal⟩ := wellFormed.startOf given
  rw [openLog]
  dsimp only
  split
  · exact .refl directory
  · have prepared := makeFolders_grows wellFormed started (FilePath.folderParts given.toList).reverse
    split
    · exact prepared.trans (openFile_grows (prepared.wellFormed wellFormed) (normal.normalize _) _)
    · exact prepared

theorem openFile_ok {directory : Directory} {path opened : FilePath} {slashes : Nat}
    (success : (directory.openFile path slashes).2 = .ok opened) :
    ∃ content, (directory.openFile path slashes).1.find? opened = some (.file content) := by
  rw [openFile] at success ⊢
  split at success
  · cases success
  · split at success
    · cases success
    · next content found =>
      obtain rfl := Except.ok.inj success
      exact ⟨content, found⟩
    · next absent =>
      obtain rfl := Except.ok.inj success
      exact ⟨"", by rw [find?_add, absent, Option.none_or, if_pos rfl]⟩

/-- A log that could be opened is a file. -/
theorem openLog_ok {directory : Directory} {path : String} {opened : FilePath}
    (success : (directory.openLog path).2 = .ok opened) :
    ∃ content, (directory.openLog path).1.find? opened = some (.file content) := by
  rw [openLog] at success ⊢
  dsimp only at success ⊢
  split at success
  · cases success
  · next shallow =>
    rw [if_neg shallow]
    split at success
    · exact openFile_ok success
    · cases success

theorem append_eq (directory : Directory) (path : FilePath) (text : String) :
    directory.append path text =
      { directory with nodes := directory.nodes.map fun (found, node) =>
          (found, if found = path then node.extend text else node) } := by
  rw [append]
  congr 2
  funext ⟨found, node⟩
  cases node with
  | folder => simp
  | file content => rfl

/-- Writing adds to the one file, and leaves everything else as it is. -/
theorem find?_append (directory : Directory) (path other : FilePath) (text : String) :
    (directory.append path text).find? other =
      (directory.find? other).map fun node => if other = path then node.extend text else node := by
  rw [find?, find?, append_eq]
  split
  · simp
  · exact lookup_map_entry (fun found node => if found = path then node.extend text else node)
      other directory.nodes

theorem Nested.append {directory : Directory} (nested : directory.Nested)
    (path : FilePath) (text : String) : (directory.append path text).Nested where
  distinct := by
    rw [append_eq, List.map_map]
    exact nested.distinct
  found := by
    intro entry listed
    rw [append_eq] at listed
    obtain ⟨⟨found, node⟩, member, rfl⟩ := List.mem_map.mp listed
    rw [find?_append, nested.found _ member]
    rfl
  inside := by
    intro folder name rest present
    rw [find?_append, Option.isSome_map] at present
    rw [find?_append, nested.inside folder name rest present]
    simp

theorem WellFormed.append {directory : Directory} (wellFormed : directory.WellFormed)
    (path : FilePath) (text : String) : (directory.append path text).WellFormed where
  toNested := wellFormed.toNested.append path text
  working := by
    rw [find?_append]
    simp [append_eq, wellFormed.working]
  normal := wellFormed.normal

end Directory

end KeyProtection.Logging
