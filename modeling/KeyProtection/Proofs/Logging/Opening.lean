import KeyProtection.Proofs.Logging.Directory

/-! What opening logs makes. A log that cannot be opened leaves no more behind than folders on the way of
its path. Logs that are opened, one after the other, leave their files and the folders on their ways, so
that what is there in the end depends on which logs were opened and not on their order. -/

namespace KeyProtection.Logging

namespace FilePath

/-- The places that parts lead through from a folder, which are given in reverse. -/
def Passes (start : FilePath) (reversed : List PathPart) (place : FilePath) : Prop :=
  ∃ above, above <:+ reversed ∧ place = normalize start (above.reverse.map PathPart.name)

theorem Passes.cons {start place : FilePath} {part : PathPart} {above : List PathPart}
    (passes : Passes start above place) : Passes start (part :: above) place := by
  obtain ⟨further, ends, same⟩ := passes
  exact ⟨further, ends.trans (List.suffix_cons part above), same⟩

theorem passes_cons_iff {start place : FilePath} {part : PathPart} {above : List PathPart} :
    Passes start (part :: above) place ↔
      place = normalize start ((part :: above).reverse.map PathPart.name) ∨ Passes start above place := by
  constructor
  · rintro ⟨further, ends, rfl⟩
    rcases List.suffix_cons_iff.mp ends with rfl | ends
    · exact .inl rfl
    · exact .inr ⟨further, ends, rfl⟩
  · rintro (rfl | passes)
    · exact ⟨part :: above, List.suffix_refl _, rfl⟩
    · exact passes.cons

/-- A part that stays where it is leads to the same place as those before it. -/
theorem normalize_here (start : FilePath) {part : PathPart} (here : part.name = ".")
    (above : List PathPart) :
    normalize start ((part :: above).reverse.map PathPart.name) =
      normalize start (above.reverse.map PathPart.name) := by
  simp [normalize, enter, here]

end FilePath

namespace Directory

/-- The folders that a path as given leads through. -/
def OnWay (directory : Directory) (given : String) (place : FilePath) : Prop :=
  ∃ front, front <+: FilePath.folderParts given.toList ∧
    place = FilePath.normalize (directory.startOf given) (front.map PathPart.name)

theorem passes_reverse_iff {directory : Directory} {given : String} {place : FilePath} :
    FilePath.Passes (directory.startOf given) (FilePath.folderParts given.toList).reverse place ↔
      directory.OnWay given place := by
  constructor
  · rintro ⟨above, ends, rfl⟩
    exact ⟨above.reverse, List.reverse_suffix.mp (by simpa using ends), rfl⟩
  · rintro ⟨front, begins, rfl⟩
    exact ⟨front.reverse, List.reverse_suffix.mpr begins, by rw [List.reverse_reverse]⟩

section

variable {directory next : Directory} (same : next.working = directory.working) (given : String)

include same

/-- Where a path leads depends only on the folder worked in. -/
theorem target_of_working : next.target given = directory.target given := by
  rw [target, target, startOf, startOf, same]

theorem onWay_of_working {place : FilePath} : next.OnWay given place ↔ directory.OnWay given place := by
  rw [OnWay, OnWay, startOf, startOf, same]

end

/-- All stays as it is, but for folders that are made at some places where there was nothing. -/
structure Furnishes (directory next : Directory) (places : FilePath → Prop) : Prop where
  working : next.working = directory.working
  runLimit : next.runLimit = directory.runLimit
  nodes : ∀ place, next.find? place = directory.find? place ∨
    (directory.find? place = none ∧ next.find? place = some .folder ∧ places place)

theorem Furnishes.refl (directory : Directory) (places : FilePath → Prop) :
    Furnishes directory directory places := ⟨rfl, rfl, fun _ => .inl rfl⟩

theorem Furnishes.find?_eq {directory next : Directory} {places : FilePath → Prop}
    (furnishes : Furnishes directory next places) {place : FilePath} {node : Node}
    (found : directory.find? place = some node) : next.find? place = some node := by
  rcases furnishes.nodes place with same | ⟨absent, _, _⟩
  · rw [same, found]
  · rw [found] at absent
    cases absent

theorem Furnishes.trans {directory next last : Directory} {places : FilePath → Prop}
    (first : Furnishes directory next places) (second : Furnishes next last places) :
    Furnishes directory last places where
  working := second.working.trans first.working
  runLimit := second.runLimit.trans first.runLimit
  nodes place := by
    rcases first.nodes place with same | ⟨absent, folder, there⟩
    · rw [← same]
      exact second.nodes place
    · exact .inr ⟨absent, second.find?_eq folder, there⟩

theorem Furnishes.mono {directory next : Directory} {places more : FilePath → Prop}
    (furnishes : Furnishes directory next places) (within : ∀ place, places place → more place) :
    Furnishes directory next more where
  working := furnishes.working
  runLimit := furnishes.runLimit
  nodes place := by
    rcases furnishes.nodes place with same | ⟨absent, folder, there⟩
    · exact .inl same
    · exact .inr ⟨absent, folder, within place there⟩

theorem follow_eq_normalize {directory : Directory} {route : Route} {path : FilePath}
    (followed : directory.follow route = .ok path) : path = FilePath.normalize route.start route.names :=
  (locate_ok (follow_ok followed)).1

theorem makeFolder_furnishes (directory : Directory) (route : Route) :
    Furnishes directory (directory.makeFolder route).1
      fun place => place = FilePath.normalize route.start route.names := by
  rw [makeFolder]
  split
  · exact .refl directory _
  · next path followed =>
    split
    · exact .refl directory _
    · exact .refl directory _
    · next absent =>
      refine ⟨rfl, rfl, fun place => ?_⟩
      rw [find?_add]
      by_cases same : place = path
      · refine .inr ⟨same ▸ absent, ?_, same.trans (follow_eq_normalize followed)⟩
        rw [same, absent, Option.none_or, if_pos rfl]
      · rw [if_neg same, Option.or_none]
        exact .inl rfl

/-- Going to a place does not fail because of a file in that place. -/
theorem follow_ne_fileExists (directory : Directory) (route : Route) :
    directory.follow route ≠ .error .fileExists := by
  have locate_ne (folder : FilePath) (names : List String) :
      directory.locate folder names ≠ .error .fileExists := by
    induction names generalizing folder with
    | nil => simp [locate]
    | cons name rest later =>
      rw [locate]
      split
      · split
        · simp
        · exact later _
      · simp
      · simp
  rw [follow]
  split
  · simp
  · split
    · simp
    · exact locate_ne _ _

/-- An attempt to make folders that has made them all, or has found a file in the place of one. -/
def Passed (outcome : Except Error Unit) : Prop := outcome = .ok () ∨ outcome = .error .fileExists

theorem makeFolder_present {directory : Directory} {route : Route}
    (passed : Passed (directory.makeFolder route).2) :
    ((directory.makeFolder route).1.find? (FilePath.normalize route.start route.names)).isSome := by
  rw [makeFolder] at passed ⊢
  split
  · next error followed =>
    rw [followed] at passed
    rcases passed with success | occupied
    · cases success
    · obtain rfl := Except.error.inj occupied
      exact absurd followed (follow_ne_fileExists directory route)
  · next path followed =>
    rw [← follow_eq_normalize followed]
    split
    · next found => exact Option.isSome_of_eq_some found
    · next content found => exact Option.isSome_of_eq_some found
    · next absent =>
      rw [find?_add, absent, Option.none_or, if_pos rfl]
      rfl

/-- Parts that lead to something lead through places where something is. -/
theorem present_of_resolve? {directory : Directory} {start place : FilePath} {parts : List PathPart}
    (resolved : (directory.resolve? (FilePath.routeOf start parts.reverse)).isSome)
    (passes : FilePath.Passes start parts place) : (directory.find? place).isSome := by
  rw [resolve?] at resolved
  split at resolved
  · next path followed =>
    obtain ⟨above, ⟨below, rfl⟩, rfl⟩ := passes
    obtain ⟨walked, front⟩ := locate_ok (follow_ok followed)
    rw [FilePath.routeOf, List.reverse_append, List.map_append] at walked front
    cases more : below.reverse with
    | nil =>
      rw [more, List.map_nil, List.append_nil] at walked
      rwa [walked] at resolved
    | cons next after =>
      rw [more] at front
      exact Option.isSome_of_eq_some (front _ next.name (after.map PathPart.name) rfl)
  · cases resolved

/-- The last of some folders is made as it is, or after those above it. -/
theorem makeFolders_cases (directory : Directory) (start : FilePath) (part : PathPart)
    (above : List PathPart) :
    ((directory.resolve? (FilePath.routeOf start above.reverse)).isSome ∧
      directory.makeFolders start (part :: above) =
        directory.makeFolder (FilePath.routeOf start (part :: above).reverse)) ∨
    (Passed (directory.makeFolders start above).2 ∧ part.name = "." ∧
      directory.makeFolders start (part :: above) = ((directory.makeFolders start above).1, .ok ())) ∨
    (Passed (directory.makeFolders start above).2 ∧ directory.makeFolders start (part :: above) =
      (directory.makeFolders start above).1.makeFolder (FilePath.routeOf start (part :: above).reverse)) ∨
    (¬ Passed (directory.makeFolders start above).2 ∧
      directory.makeFolders start (part :: above) = directory.makeFolders start above) := by
  rw [makeFolders]
  by_cases resolved : (directory.resolve? (FilePath.routeOf start above.reverse)).isSome
  · exact .inl ⟨resolved, if_pos resolved⟩
  · rw [if_neg resolved]
    dsimp only
    by_cases passed : Passed (directory.makeFolders start above).2
    · right
      split
      · split
        · next here => exact .inl ⟨passed, here, rfl⟩
        · exact .inr (.inl ⟨passed, rfl⟩)
      · split
        · next here => exact .inl ⟨passed, here, rfl⟩
        · exact .inr (.inl ⟨passed, rfl⟩)
      · next error other failed =>
        rcases passed with success | occupied
        · rw [failed] at success
          cases success
        · rw [failed] at occupied
          exact absurd (Except.error.inj occupied) other
    · refine .inr (.inr (.inr ⟨passed, ?_⟩))
      split
      · next success => exact absurd (.inl success) passed
      · next occupied => exact absurd (.inr occupied) passed
      · next error _ failed => rw [← failed]

/-- Making folders makes nothing else, and only on the way that their parts lead. -/
theorem makeFolders_furnishes (directory : Directory) (start : FilePath) (parts : List PathPart) :
    Furnishes directory (directory.makeFolders start parts).1 (FilePath.Passes start parts) := by
  induction parts with
  | nil => exact .refl directory _
  | cons part above step =>
    have last (prepared : Directory) :
        Furnishes prepared (prepared.makeFolder (FilePath.routeOf start (part :: above).reverse)).1
          (FilePath.Passes start (part :: above)) :=
      (makeFolder_furnishes prepared _).mono fun _ same => FilePath.passes_cons_iff.mpr (.inl same)
    have before : Furnishes directory (directory.makeFolders start above).1
        (FilePath.Passes start (part :: above)) := step.mono fun _ => FilePath.Passes.cons
    rcases makeFolders_cases directory start part above with ⟨_, same⟩ | ⟨_, _, same⟩ | ⟨_, same⟩ |
      ⟨_, same⟩
    · exact same ▸ last directory
    · exact same ▸ before
    · exact same ▸ before.trans (last _)
    · exact same ▸ before

/-- Once folders are made, something is wherever their parts lead. -/
theorem makeFolders_present {directory : Directory} {start place : FilePath} {parts : List PathPart}
    (started : directory.find? start = some .folder)
    (passed : Passed (directory.makeFolders start parts).2) (passes : FilePath.Passes start parts place) :
    ((directory.makeFolders start parts).1.find? place).isSome := by
  induction parts generalizing place with
  | nil =>
    obtain ⟨above, ends, rfl⟩ := passes
    rw [List.suffix_nil.mp ends]
    exact Option.isSome_of_eq_some started
  | cons part above step =>
    -- Making the last folder keeps what there is where the parts above lead through.
    have last {prepared : Directory}
        (there : ∀ place, FilePath.Passes start above place → (prepared.find? place).isSome)
        (passed : Passed (prepared.makeFolder (FilePath.routeOf start (part :: above).reverse)).2) :
        ((prepared.makeFolder (FilePath.routeOf start (part :: above).reverse)).1.find? place).isSome := by
      rcases FilePath.passes_cons_iff.mp passes with rfl | further
      · exact makeFolder_present passed
      · obtain ⟨node, found⟩ := Option.isSome_iff_exists.mp (there place further)
        exact Option.isSome_of_eq_some ((makeFolder_furnishes prepared _).find?_eq found)
    rcases makeFolders_cases directory start part above with ⟨resolved, same⟩ | ⟨before, here, same⟩ |
      ⟨before, same⟩ | ⟨before, same⟩
    · rw [same] at passed ⊢
      exact last (fun _ => present_of_resolve? resolved) passed
    · rw [same]
      rcases FilePath.passes_cons_iff.mp passes with rfl | further
      · rw [FilePath.normalize_here start here]
        exact step before ⟨above, List.suffix_refl _, rfl⟩
      · exact step before further
    · rw [same] at passed ⊢
      exact last (fun _ => step before) passed
    · exact absurd (same ▸ passed) before

/-- A file is refused, or it is there, or it is made. -/
theorem openFile_cases (directory : Directory) (path : FilePath) (slashes : Nat) :
    (∃ error, directory.openFile path slashes = (directory, .error error)) ∨
    (∃ content, directory.find? path = some (.file content) ∧
      directory.openFile path slashes = (directory, .ok path)) ∨
    (directory.find? path = none ∧
      directory.openFile path slashes = (directory.add path (.file ""), .ok path)) := by
  rw [openFile]
  split
  · exact .inl ⟨_, rfl⟩
  · split
    · exact .inl ⟨_, rfl⟩
    · next content found => exact .inr (.inl ⟨content, found, rfl⟩)
    · next absent => exact .inr (.inr ⟨absent, rfl⟩)

/-- A log is opened after the folders of its path have been made, and else nothing but folders is. -/
theorem openLog_cases (directory : Directory) (given : String) :
    (∃ next error, directory.openLog given = (next, .error error) ∧
      Furnishes directory next (directory.OnWay given)) ∨
    ∃ prepared slashes, directory.openLog given = prepared.openFile (directory.target given) slashes ∧
      Furnishes directory prepared (directory.OnWay given) ∧
      (directory.find? (directory.startOf given) = some .folder →
        ∀ place, directory.OnWay given place → (prepared.find? place).isSome) := by
  have folders := (makeFolders_furnishes directory (directory.startOf given)
    (FilePath.folderParts given.toList).reverse).mono fun _ => passes_reverse_iff.mp
  rw [openLog]
  dsimp only
  split
  · exact .inl ⟨directory, _, rfl, .refl directory _⟩
  · split
    · next made =>
      refine .inr ⟨_, _, rfl, folders, fun started place onWay => ?_⟩
      exact makeFolders_present started (.inl made) (passes_reverse_iff.mpr onWay)
    · exact .inl ⟨_, _, rfl, folders⟩

/-- A log that cannot be opened leaves nothing behind but folders on the way of its path. -/
theorem openLog_furnishes {directory : Directory} {given : String} {error : Error}
    (fails : (directory.openLog given).2 = .error error) :
    Furnishes directory (directory.openLog given).1 (directory.OnWay given) := by
  rcases openLog_cases directory given with ⟨next, _, same, folders⟩ | ⟨prepared, slashes, same, folders, _⟩
  · rw [same]
    exact folders
  · rw [same] at fails ⊢
    rcases openFile_cases prepared (directory.target given) slashes with ⟨_, refused⟩ | ⟨_, _, opened⟩ |
      ⟨_, opened⟩
    · rw [refused]
      exact folders
    · rw [opened] at fails
      cases fails
    · rw [opened] at fails
      cases fails

/-- What logs leave that have been opened: each its file, and folders on the ways of their paths. -/
structure Opens (directory next : Directory) (given : List String) : Prop where
  working : next.working = directory.working
  kept : ∀ place node, directory.find? place = some node → next.find? place = some node
  files : ∀ path ∈ given, ∃ content, next.find? (directory.target path) = some (.file content)
  folders : ∀ path ∈ given, ∀ place, directory.OnWay path place → (next.find? place).isSome
  made : ∀ place, directory.find? place = none → next.find? place = none ∨
    (next.find? place = some (.file "") ∧ ∃ path ∈ given, place = directory.target path) ∨
    (next.find? place = some .folder ∧ ∃ path ∈ given, directory.OnWay path place)

theorem Opens.nothing (directory : Directory) : Opens directory directory [] where
  working := rfl
  kept _ _ found := found
  files _ member := nomatch member
  folders _ member := nomatch member
  made _ absent := .inl absent

theorem openLog_opens {directory : Directory} {given : String} {opened : FilePath}
    (started : directory.find? (directory.startOf given) = some .folder)
    (success : (directory.openLog given).2 = .ok opened) :
    opened = directory.target given ∧ Opens directory (directory.openLog given).1 [given] := by
  rcases openLog_cases directory given with ⟨_, _, same, _⟩ | ⟨prepared, slashes, same, folders, present⟩
  · rw [same] at success
    cases success
  have there := present started
  rw [same] at success ⊢
  rcases openFile_cases prepared (directory.target given) slashes with ⟨_, refused⟩ |
    ⟨content, found, opened⟩ | ⟨absent, new⟩
  · rw [refused] at success
    cases success
  · rw [opened] at success ⊢
    refine ⟨(Except.ok.inj success).symm, ⟨folders.working, fun place node => folders.find?_eq, ?_, ?_, ?_⟩⟩
    · intro path member
      exact ⟨content, List.mem_singleton.mp member ▸ found⟩
    · intro path member place onWay
      exact there place (List.mem_singleton.mp member ▸ onWay)
    · intro place missing
      rcases folders.nodes place with same | ⟨_, folder, onWay⟩
      · exact .inl (same.trans missing)
      · exact .inr (.inr ⟨folder, given, List.mem_singleton_self given, onWay⟩)
  · rw [new] at success ⊢
    refine ⟨(Except.ok.inj success).symm, ⟨folders.working, ?_, ?_, ?_, ?_⟩⟩
    · intro place node found
      rw [find?_add, folders.find?_eq found, Option.some_or]
    · intro path member
      rw [List.mem_singleton.mp member, find?_add, absent, Option.none_or, if_pos rfl]
      exact ⟨"", rfl⟩
    · intro path member place onWay
      rw [find?_add]
      simp [there place (List.mem_singleton.mp member ▸ onWay)]
    · intro place missing
      rw [find?_add]
      rcases folders.nodes place with same | ⟨_, folder, onWay⟩
      · rw [same, missing, Option.none_or]
        by_cases file : place = directory.target given
        · rw [if_pos file]
          exact .inr (.inl ⟨rfl, given, List.mem_singleton_self given, file⟩)
        · rw [if_neg file]
          exact .inl rfl
      · rw [folder, Option.some_or]
        exact .inr (.inr ⟨rfl, given, List.mem_singleton_self given, onWay⟩)

theorem Opens.append {directory next last : Directory} {given more : List String}
    (first : Opens directory next given) (second : Opens next last more) :
    Opens directory last (given ++ more) where
  working := second.working.trans first.working
  kept place node found := second.kept place node (first.kept place node found)
  files path member := by
    rcases List.mem_append.mp member with old | new
    · obtain ⟨content, found⟩ := first.files path old
      exact ⟨content, second.kept _ _ found⟩
    · rw [← target_of_working first.working]
      exact second.files path new
  folders path member place onWay := by
    rcases List.mem_append.mp member with old | new
    · obtain ⟨node, found⟩ := Option.isSome_iff_exists.mp (first.folders path old place onWay)
      exact Option.isSome_of_eq_some (second.kept place node found)
    · exact second.folders path new place ((onWay_of_working first.working path).mpr onWay)
  made place absent := by
    rcases first.made place absent with still | ⟨file, path, member, here⟩ |
      ⟨folder, path, member, onWay⟩
    · rcases second.made place still with none | ⟨file, path, member, here⟩ |
        ⟨folder, path, member, onWay⟩
      · exact .inl none
      · rw [target_of_working first.working] at here
        exact .inr (.inl ⟨file, path, List.mem_append_right given member, here⟩)
      · rw [onWay_of_working first.working] at onWay
        exact .inr (.inr ⟨folder, path, List.mem_append_right given member, onWay⟩)
    · exact .inr (.inl ⟨second.kept place _ file, path, List.mem_append_left more member, here⟩)
    · exact .inr (.inr ⟨second.kept place _ folder, path, List.mem_append_left more member, onWay⟩)

/-- What is there after some logs have been opened is there after the same ones in any order: something
new is a file exactly if a log was opened in its place, and a folder if it is on a way to one. -/
theorem Opens.find?_of_same {directory next other : Directory} {given more : List String}
    (opens : Opens directory next given) (opensToo : Opens directory other more)
    (same : ∀ path, path ∈ given ↔ path ∈ more) {place : FilePath} {node : Node}
    (found : next.find? place = some node) : other.find? place = some node := by
  cases before : directory.find? place with
  | some old =>
    rw [opensToo.kept place old before, ← opens.kept place old before, found]
  | none =>
    rcases opens.made place before with absent | ⟨file, path, member, rfl⟩ |
      ⟨folder, path, member, onWay⟩
    · rw [absent] at found
      cases found
    · rw [file] at found
      obtain ⟨content, there⟩ := opensToo.files path ((same path).mp member)
      rcases opensToo.made _ before with absent | ⟨fileToo, _⟩ | ⟨folder, _⟩
      · rw [there] at absent
        cases absent
      · exact fileToo.trans found
      · rw [there] at folder
        cases folder
    · rw [folder] at found
      have there := opensToo.folders path ((same path).mp member) place onWay
      rcases opensToo.made place before with absent | ⟨_, other, memberToo, rfl⟩ | ⟨folderToo, _⟩
      · rw [absent] at there
        cases there
      · obtain ⟨content, file⟩ := opens.files other ((same other).mpr memberToo)
        rw [file] at folder
        cases folder
      · exact folderToo.trans found

theorem Opens.find?_eq {directory next other : Directory} {given more : List String}
    (opens : Opens directory next given) (opensToo : Opens directory other more)
    (same : ∀ path, path ∈ given ↔ path ∈ more) (place : FilePath) :
    next.find? place = other.find? place := by
  apply Option.ext
  intro node
  exact ⟨opens.find?_of_same opensToo same,
    opensToo.find?_of_same opens fun path => (same path).symm⟩

end Directory

end KeyProtection.Logging
