import Mathlib.Data.List.Forall2
import TypedClient.Proofs.Files.Paths
import TypedClient.Run

/-!
# What formatting can do to a run

Programs may do anything to the files, and they may fail. A module that is formatted holds
afterwards what its file holds, if that can be read, and every other file is reported as it was
written (`forall₂_isReloaded`). Whether a program succeeds has no part in what is run next: only
what it does to the files has (`runAll_congr`). A record that is kept of the programs shows each
formatter once and in order, over the names of the modules that hold something (`runAll_recorded`,
`exists_invocations_eq`). None of this can fail (`settles_formatBy`), so the result of a run does
not depend on its formatters (`result_generate_formatters`).
-/

namespace TypedClient

namespace Files

/-- A path with a file name has a directory. -/
theorem exists_parent?_of_fileName? {path name : List Char} (h : fileName? path = some name) :
    ∃ directory, parent? path = some directory := by
  have hsteps : steps (dropTail path.reverse).reverse ≠ [] := by
    rw [steps_dropTail, List.reverse_reverse]
    intro hnil
    rw [fileName?, hnil] at h
    cases h
  unfold parent?
  split
  · next hnil =>
      rw [hnil] at hsteps
      exact absurd rfl hsteps
  · next hroot =>
      rw [hroot] at hsteps
      exact absurd rfl hsteps
  · exact ⟨_, rfl⟩

theorem exists_fileName?_of_extension? {path extension : List Char}
    (h : extension? path = some extension) : ∃ name, fileName? path = some name := by
  unfold extension? at h
  split at h
  · cases h
  · next name hname => exact ⟨name, hname⟩

end Files

namespace Formatting

open Files (FileTree fileName? parent?)
open Render (Artifact)

/-! ## Programs -/

section Programs

variable {files : Type} {executor other : Executor files}

/-- The executor with a record of the programs that it is told to run. -/
def recorded (executor : Executor files) : Executor (files × List Invocation) :=
  fun earlier call state =>
    (((executor earlier call state.1).1, state.2 ++ [call]), (executor earlier call state.1).2)

/-- Programs run once each, in order. -/
theorem runAll_recorded (earlier : List Invocation) (t : files) (record calls : List Invocation) :
    runAll (recorded executor) earlier (t, record) calls =
      (runAll executor earlier t calls, record ++ calls) := by
  induction calls generalizing earlier t record with
  | nil => simp [runAll_nil]
  | cons call calls ih => simp [runAll, recorded, ih]

/-- What is left behind depends on what programs do to the files, and not on their success. -/
theorem runAll_congr (h : ∀ earlier call t, (other earlier call t).1 = (executor earlier call t).1)
    (earlier : List Invocation) (t : files) (calls : List Invocation) :
    runAll other earlier t calls = runAll executor earlier t calls := by
  induction calls generalizing earlier t with
  | nil => rfl
  | cons call calls ih => rw [runAll, runAll, h, ih]

end Programs

/-! ## Modules -/

theorem exists_fileName?_of_isModule {a : Artifact} (h : isModule a = true) :
    ∃ name, fileName? a.path = some name :=
  Files.exists_fileName?_of_extension? (eq_of_beq h)

theorem isModule_of_isTarget {a : Artifact} (h : isTarget a = true) : isModule a = true :=
  (Bool.and_eq_true_iff.1 h).1

/-- What is reported for a file afterwards, if files can be read in this way. -/
structure IsReloaded {error : Type} (read : List Char → Except error String)
    (before after : Artifact) : Prop where
  path_eq : after.path = before.path
  text_of_other : isModule before = false → after.text = before.text
  text_of_read : isModule before = true → ∀ text, read before.path = .ok text → after.text = text
  text_of_unread : ∀ e, read before.path = .error e → after.text = before.text

theorem isReloaded_reload {error : Type} (read : List Char → Except error String) (a : Artifact) :
    IsReloaded read a (reload read a) where
  path_eq := reload_path read a
  text_of_other h := by rw [reload, h, if_neg Bool.false_ne_true]
  text_of_read h text hread := by rw [reload, if_pos h, hread]
  text_of_unread e hread := by
    unfold reload
    split
    · rw [hread]
    · rfl

theorem forall₂_isReloaded {error : Type} (read : List Char → Except error String)
    (artifacts : List Artifact) :
    List.Forall₂ (IsReloaded read) artifacts (artifacts.map (reload read)) := by
  rw [List.forall₂_map_right_iff]
  exact List.forall₂_same.2 fun a _ => isReloaded_reload read a

/-! ## Invocations -/

section Invocations

variable {artifacts : List Artifact}

theorem workingDirectory?_of_forall (h : ∀ a ∈ artifacts, isTarget a = false) :
    workingDirectory? artifacts = none := by
  rw [workingDirectory?, List.find?_eq_none.2 fun a ha => by simp [h a ha]]
  rfl

/-- The programs run where the first file is that is handed to them. -/
theorem exists_workingDirectory?_eq {a : Artifact} (ha : a ∈ artifacts) (h : isTarget a = true) :
    ∃ first directory, artifacts.find? isTarget = some first ∧
      parent? first.path = some directory ∧ workingDirectory? artifacts = some directory := by
  obtain ⟨first, hfirst⟩ := Option.isSome_iff_exists.1 (List.find?_isSome.2 ⟨a, ha, h⟩)
  obtain ⟨name, hname⟩ :=
    exists_fileName?_of_isModule (isModule_of_isTarget (List.find?_some hfirst))
  obtain ⟨directory, hdirectory⟩ := Files.exists_parent?_of_fileName? hname
  refine ⟨first, directory, hfirst, hdirectory, ?_⟩
  rw [workingDirectory?, hfirst]
  exact hdirectory

/-- No file that is handed to the programs lacks a name. -/
theorem map_targetNames (artifacts : List Artifact) :
    (targetNames artifacts).map (fun name => some name.toList) =
      (artifacts.filter isTarget).map fun a => fileName? a.path := by
  have hnames : ∀ a ∈ artifacts.filter isTarget, ∃ name, fileName? a.path = some name := by
    intro a ha
    exact exists_fileName?_of_isModule (isModule_of_isTarget (List.mem_filter.1 ha).2)
  rw [targetNames]
  generalize artifacts.filter isTarget = targets at hnames
  induction targets with
  | nil => rfl
  | cons a targets ih =>
      obtain ⟨name, hname⟩ := hnames a List.mem_cons_self
      rw [List.filterMap_cons_some (by rw [hname]; rfl), List.map_cons, List.map_cons, hname,
        String.toList_ofList, ih fun b hb => hnames b (List.mem_cons_of_mem a hb)]

theorem exists_invocations_eq (formatters : List Formatter) {a : Artifact} (ha : a ∈ artifacts)
    (h : isTarget a = true) :
    ∃ first directory, artifacts.find? isTarget = some first ∧
      parent? first.path = some directory ∧
      invocations formatters artifacts =
        formatters.map fun f => ⟨f.program, f.arguments ++ targetNames artifacts, directory⟩ := by
  obtain ⟨first, directory, hfirst, hparent, hdirectory⟩ := exists_workingDirectory?_eq ha h
  refine ⟨first, directory, hfirst, hparent, ?_⟩
  rw [invocations, hdirectory]

end Invocations

/-! ## Formatting -/

section Formatting

variable {files error : Type} {read : files → List Char → Except error String}
  {executor : Executor files} {formatters : List Formatter} {isAsked : Bool}
  {artifacts : List Artifact} {t : files}

theorem formatBy_of_idle (h : isAsked = false ∨ ∀ a ∈ artifacts, isTarget a = false) :
    formatBy read executor formatters isAsked artifacts t = ⟨t, artifacts, []⟩ := by
  rw [formatBy, if_neg]
  rcases h with rfl | h
  · simp
  · simp [workingDirectory?_of_forall h]

theorem formatBy_of_target {a : Artifact} (ha : a ∈ artifacts) (h : isTarget a = true) :
    formatBy read executor formatters true artifacts t =
      ⟨runAll executor [] t (invocations formatters artifacts),
        artifacts.map
          (reload (read (runAll executor [] t (invocations formatters artifacts)))),
        invocations formatters artifacts⟩ := by
  obtain ⟨first, directory, -, -, hdirectory⟩ := exists_workingDirectory?_eq ha h
  rw [formatBy, hdirectory, if_pos (by rfl)]

/-- Either nothing is run, or there is a module with something in it. -/
theorem idle_or_exists_isTarget (isAsked : Bool) (artifacts : List Artifact) :
    (isAsked = false ∨ ∀ a ∈ artifacts, isTarget a = false) ∨
      isAsked = true ∧ ∃ a ∈ artifacts, isTarget a = true := by
  cases isAsked with
  | false => exact .inl (.inl rfl)
  | true =>
      by_cases h : ∃ a ∈ artifacts, isTarget a = true
      · exact .inr ⟨rfl, h⟩
      · refine .inl (.inr fun a ha => ?_)
        rw [← Bool.not_eq_true]
        exact fun htarget => h ⟨a, ha, htarget⟩

/-- The record of an executor is the list of programs that is reported. -/
theorem formatBy_recorded (read : files → List Char → Except error String)
    (executor : Executor files) (formatters : List Formatter) (isAsked : Bool)
    (artifacts : List Artifact) (t : files) :
    formatBy (fun state => read state.1) (recorded executor) formatters isAsked artifacts (t, []) =
      let done := formatBy read executor formatters isAsked artifacts t
      ⟨(done.tree, done.calls), done.artifacts, done.calls⟩ := by
  rcases idle_or_exists_isTarget isAsked artifacts with hidle | ⟨rfl, a, ha, htarget⟩
  · rw [formatBy_of_idle hidle, formatBy_of_idle hidle]
  · rw [formatBy_of_target ha htarget, formatBy_of_target ha htarget, runAll_recorded,
      List.nil_append]

theorem formatBy_congr {other : Executor files}
    (h : ∀ earlier call t, (other earlier call t).1 = (executor earlier call t).1) :
    formatBy read other formatters isAsked artifacts t =
      formatBy read executor formatters isAsked artifacts t := by
  rw [formatBy, formatBy]
  simp only [runAll_congr h]

theorem map_path_formatBy (read : files → List Char → Except error String)
    (executor : Executor files) (formatters : List Formatter) (isAsked : Bool)
    (artifacts : List Artifact) (t : files) :
    (formatBy read executor formatters isAsked artifacts t).artifacts.map Artifact.path =
      artifacts.map Artifact.path := by
  rcases idle_or_exists_isTarget isAsked artifacts with hidle | ⟨rfl, a, ha, htarget⟩
  · rw [formatBy_of_idle hidle]
  · rw [formatBy_of_target ha htarget, List.map_map]
    exact List.map_congr_left fun b _ => reload_path _ b

end Formatting

/-! ## Runs -/

/-- The result of a run is the same whatever its formatters are and do. -/
theorem result_generate_formatters (s : Surroundings) (r : Client.GenerateRequest) (t : FileTree)
    (executor : Executor) (formatters : List Formatter) :
    (Run.generate { s with executor, formatters } r t).result = (Run.generate s r t).result := by
  have hprepare : Run.prepare { s with executor, formatters } r t = Run.prepare s r t := rfl
  rw [Run.generate, Run.generate, hprepare]
  split
  · rfl
  · next plan artifacts _ =>
      simp only
      split
      · rfl
      · next written _ => simp only [format, map_path_formatBy]

/-- What formatting may leave behind: the record that is kept of the programs is the list that is
reported, and what is reported for the files depends on what the programs did to them. -/
structure Settles {files error : Type} (read : files → List Char → Except error String)
    (executor : Executor files) (formatters : List Formatter) (isAsked : Bool)
    (artifacts : List Artifact) (t : files) (done : Formatted files) : Prop where
  map_path : done.artifacts.map Artifact.path = artifacts.map Artifact.path
  recorded_eq :
    formatBy (fun state => read state.1) (recorded executor) formatters isAsked artifacts (t, []) =
      ⟨(done.tree, done.calls), done.artifacts, done.calls⟩
  eq_of_idle : isAsked = false ∨ (∀ a ∈ artifacts, isTarget a = false) → done = ⟨t, artifacts, []⟩
  calls_eq : isAsked = true → (∃ a ∈ artifacts, isTarget a = true) →
    ∃ names first directory,
      names.map (fun name => some name.toList) =
        (artifacts.filter isTarget).map (fun a => fileName? a.path) ∧
      artifacts.find? isTarget = some first ∧ parent? first.path = some directory ∧
      done.calls = formatters.map fun f => ⟨f.program, f.arguments ++ names, directory⟩
  tree_eq : done.tree = runAll executor [] t done.calls
  reloaded : isAsked = true → (∃ a ∈ artifacts, isTarget a = true) →
    List.Forall₂ (IsReloaded (read done.tree)) artifacts done.artifacts
  eq_of_same_files : ∀ other : Executor files,
    (∀ earlier call t, (other earlier call t).1 = (executor earlier call t).1) →
      formatBy read other formatters isAsked artifacts t = done

theorem settles_formatBy {files error : Type} (read : files → List Char → Except error String)
    (executor : Executor files) (formatters : List Formatter) (isAsked : Bool)
    (artifacts : List Artifact) (t : files) :
    Settles read executor formatters isAsked artifacts t
      (formatBy read executor formatters isAsked artifacts t) where
  map_path := map_path_formatBy ..
  recorded_eq := formatBy_recorded ..
  eq_of_idle := formatBy_of_idle
  calls_eq := by
    rintro rfl ⟨a, ha, htarget⟩
    obtain ⟨first, directory, hfirst, hparent, hcalls⟩ :=
      exists_invocations_eq formatters ha htarget
    rw [formatBy_of_target ha htarget]
    exact ⟨targetNames artifacts, first, directory, map_targetNames artifacts, hfirst, hparent,
      hcalls⟩
  tree_eq := by
    rcases idle_or_exists_isTarget isAsked artifacts with hidle | ⟨rfl, a, ha, htarget⟩
    · rw [formatBy_of_idle hidle, runAll_nil]
    · rw [formatBy_of_target ha htarget]
  reloaded := by
    rintro rfl ⟨a, ha, htarget⟩
    rw [formatBy_of_target ha htarget]
    exact forall₂_isReloaded _ artifacts
  eq_of_same_files _ := formatBy_congr

/-- Formatting ends well whatever files are, whatever programs do to them and whether or not they
fail, and it keeps the paths of the files in order. If it is not asked for, or no module holds
anything, nothing is run and nothing changes. Otherwise every formatter is run once, in order, over
the names of the modules that hold something; each module is reported with what its file holds then,
if that can be read, and everything else as it was. So the result of a run is the same with any
formatters. -/
theorem formatBy_spec :
    (∀ (files error : Type) (read : files → List Char → Except error String)
      (executor : Executor files) (formatters : List Formatter) (isAsked : Bool)
      (artifacts : List Artifact) (t : files),
      Settles read executor formatters isAsked artifacts t
        (formatBy read executor formatters isAsked artifacts t)) ∧
    ∀ (s : Surroundings) (r : Client.GenerateRequest) (t : FileTree) (executor : Executor)
      (formatters : List Formatter),
      (Run.generate { s with executor, formatters } r t).result = (Run.generate s r t).result :=
  ⟨fun _ _ => settles_formatBy, result_generate_formatters⟩

/-- Two modules, one of them to be removed, a module without anything in it and a file of another
kind, all in one directory. -/
def writtenFiles : List Artifact := [
  ⟨"out/schema.py".toList, "x=1\n"⟩, ⟨"out/api.py".toList, "y=2\n"⟩,
  ⟨"out/__init__.py".toList, "\n"⟩, ⟨"out/notes.txt".toList, "z=3\n"⟩]

/-- A program that fails, having changed every file but one, which it has removed. -/
def careless : Executor := fun _ _ t =>
  let rewritten := (writtenFiles.map Artifact.path).foldl (fun t path =>
    match t.write path "# changed\n" with
    | .ok written => written
    | .error _ => t) t
  (rewritten.remove "out/schema.py".toList, .ok ⟨1, "", "cannot parse"⟩)

theorem formatBy_spec_careless :
    (∃ a ∈ writtenFiles, isTarget a = true) ∧
    ∃ done : Formatted, done = formatBy FileTree.read careless standardFormatters true writtenFiles
        (.ofFiles (writtenFiles.map fun a => (String.ofList a.path, a.text))) ∧
      done.artifacts.map Artifact.text = ["x=1\n", "# changed\n", "# changed\n", "z=3\n"] ∧
      done.calls.map Invocation.arguments =
        [["--quiet", "schema.py", "api.py"],
          ["--profile", "black", "--quiet", "schema.py", "api.py"]] ∧
      List.Forall₂ (IsReloaded (FileTree.read done.tree)) writtenFiles done.artifacts := by
  have htarget : ∃ a ∈ writtenFiles, isTarget a = true := ⟨_, List.mem_cons_self, by decide +kernel⟩
  refine ⟨htarget, _, rfl, by decide +kernel, by decide +kernel, ?_⟩
  exact (formatBy_spec.1 FileTree Files.FileError FileTree.read careless standardFormatters true
    writtenFiles _).reloaded rfl htarget

end Formatting

end TypedClient
