import Mathlib.Data.List.Nodup
import TypedClient.Proofs.Files.Trees
import TypedClient.Proofs.Lexical.Identifiers
import TypedClient.Proofs.Plan.FunctionNames
import TypedClient.Run

/-!
# What a run writes

A run prepares everything before it writes anything.  So it either fails with the files as they
were, or it goes on to write the rendered files, and then these and the directories above them are
all that can be new (`generate_allOrNothing`).  Each file is one step of the writing
(`writeOne_eq_ok`), and every step keeps where the paths of the earlier ones lead
(`writeAll_eq_ok`).

A path stands for the file that it leads to.  Where there are links, the entry at the path may be
one, and several paths may lead to one file, which then holds what is written last.
-/

namespace TypedClient.Run

open Client (GenerateRequest Settings)
open Files (FileTree IsFileName Place)
open Plan (exists_of_isOk ok_of_bind)
open Render (Artifact moduleFile)

variable {t t' : FileTree} {output : List Char} {directory : Place}

/-- The place of a rendered file right below a directory. -/
def filePlace (directory : Place) (a : Artifact) : Place := directory ++ [String.ofList a.path]

/-- The path of one of the rendered files leads to the file at the place. -/
def IsWritten (output : List Char) (files : List Artifact) (t : FileTree) (place : Place)
    (number : Nat) : Prop :=
  ∃ a ∈ files, t.find (Files.join output a.path) = .ok (place, .file number)

/-- The second tree is the first with the rendered files written.  The path of each leads to a file
with its text, unless the path of a later one leads to this file too. -/
structure Stored (output : List Char) (files : List Artifact) (before after : FileTree) :
    Prop where
  exists_leadsTo : ∀ a ∈ files, ∃ number, after.LeadsTo (Files.join output a.path) number
  text_eq : ∀ front a back number, files = front ++ a :: back →
    after.LeadsTo (Files.join output a.path) number →
    (∀ b ∈ back, ¬ after.LeadsTo (Files.join output b.path) number) →
      after.text number = a.text
  grows : before.Grows (IsWritten output files after) after

theorem filePlace_inj {a b : Artifact} :
    filePlace directory a = filePlace directory b ↔ a.path = b.path := by
  rw [filePlace, filePlace, List.append_right_inj, List.singleton_inj, String.ofList_inj]

theorem stored_nil : Stored output [] t t where
  exists_leadsTo := by simp
  text_eq := by simp
  grows := .refl _ t

/-- What is written later changes none of the files but those that it is written to. -/
theorem Stored.cons {a : Artifact} {files : List Artifact} {middle : FileTree}
    (hfirst : Stored output [a] t middle) (hrest : Stored output files middle t') :
    Stored output (a :: files) t t' where
  exists_leadsTo := by
    intro b hb
    rcases List.mem_cons.1 hb with rfl | hb
    · obtain ⟨number, place, hfind⟩ := hfirst.exists_leadsTo b List.mem_cons_self
      exact ⟨number, place, hrest.grows.find hfind⟩
    · exact hrest.exists_leadsTo b hb
  text_eq := by
    intro front b back number hfiles hleads hlast
    cases front with
    | cons first front =>
        exact hrest.text_eq front b back number (List.cons.inj hfiles).2 hleads hlast
    | nil =>
        obtain ⟨rfl, rfl⟩ := List.cons.inj hfiles
        -- the path led to this file already when it was written
        obtain ⟨number', place, hfind⟩ := hfirst.exists_leadsTo a List.mem_cons_self
        obtain ⟨other, hother⟩ := hleads
        have hsame := (hrest.grows.find hfind).symm.trans hother
        cases hsame
        have hfile := (FileTree.find_eq_ok_iff.1 hfind).2
        rw [hrest.grows.text_eq _ _ hfile]
        · exact hfirst.text_eq [] a [] _ rfl ⟨_, hfind⟩ (by simp)
        · rintro other ⟨b, hb, hwritten⟩
          exact hlast b hb ⟨other, hwritten⟩
  grows := by
    refine (hfirst.grows.mono ?_).trans (hrest.grows.mono ?_)
    · rintro place number ⟨b, hb, hfind⟩
      rw [List.mem_singleton.1 hb] at hfind
      exact ⟨a, List.mem_cons_self, hrest.grows.find hfind⟩
    · rintro place number ⟨b, hb, hfind⟩
      exact ⟨b, List.mem_cons_of_mem a hb, hfind⟩

theorem mapError_eq_ok {ε ε' α : Type} {f : ε → ε'} {x : Except ε α} {a : α}
    (h : x.mapError f = .ok a) : x = .ok a := by
  cases x with
  | error e => cases h
  | ok b =>
      cases h
      rfl

/-- Writing one file makes directories at most and sets the text of the file that its path leads
to. -/
theorem writeOne_eq_ok {a : Artifact} (h : writeOne (placed output a) t = (t', .ok ())) :
    Stored output [a] t t' := by
  unfold writeOne at h
  split at h
  · cases h
  · next made hmade =>
      obtain ⟨hmakes, -⟩ := FileTree.makeDirectories_eq_ok (mapError_eq_ok hmade)
      split at h
      · cases h
      · next written hwritten =>
          cases h
          obtain ⟨place, number, hfind, htext, hwrites⟩ := FileTree.write_eq_ok hwritten
          refine ⟨?_, ?_, (hmakes.mono ?_).trans (hwrites.mono ?_)⟩
          · intro b hb
            rw [List.mem_singleton.1 hb]
            exact ⟨number, place, hfind⟩
          · rintro front b back number' hfiles ⟨other, hother⟩ -
            have hb : b ∈ [a] := hfiles ▸ List.mem_append_right front List.mem_cons_self
            obtain rfl := List.mem_singleton.1 hb
            have hsame := hfind.symm.trans hother
            cases hsame
            exact htext
          · exact fun _ _ => False.elim
          · rintro _ _ ⟨rfl, rfl⟩
            exact ⟨a, List.mem_singleton_self a, hfind⟩

theorem writeAll_eq_ok {files : List Artifact}
    (h : writeAll t (files.map (placed output)) = (t', .ok ())) : Stored output files t t' := by
  induction files generalizing t with
  | nil =>
      cases h
      exact stored_nil
  | cons a files ih =>
      rw [List.map_cons, writeAll] at h
      split at h
      · next written hwritten => exact (writeOne_eq_ok hwritten).cons (ih h)
      · cases h

/-- Writing opens the output directory and writes the files. -/
theorem write_eq_ok {files : List Artifact}
    (h : write output (files.map (placed output)) t = (t', .ok ())) :
    Stored output files t t' ∧ ∃ directory, t'.Opens output directory := by
  unfold write at h
  split at h
  · cases h
  · next made hmade =>
      obtain ⟨hmakes, directory, hopens⟩ := FileTree.makeDirectories_eq_ok (mapError_eq_ok hmade)
      have hstored := writeAll_eq_ok h
      refine ⟨⟨hstored.exists_leadsTo, hstored.text_eq, (hmakes.mono ?_).trans hstored.grows⟩,
        directory, hstored.grows.find hopens⟩
      exact fun _ _ => False.elim

/-! ### Where the files lie -/

/-- A link may make one file of what is at two places: there is a link at one of them, or the
entries are two names of one file. -/
def Linked (t : FileTree) (place other : Place) : Prop :=
  t.IsLink place ∨ t.IsLink other ∨
    ∃ number, t.at? place = some (.file number) ∧ t.at? other = some (.file number)

/-- The second tree is the first with the rendered files written to distinct places in one
directory.  What a file's path leads to lies at its place, unless there was a link, and no two of
the files are one, unless they were linked. -/
structure Written (output : List Char) (directory : Place) (files : List Artifact)
    (before after : FileTree) : Prop extends Stored output files before after where
  nodup : (files.map (filePlace directory)).Nodup
  opens : after.Opens output directory
  place_eq : ∀ a ∈ files, ∀ place number,
    after.find (Files.join output a.path) = .ok (place, .file number) →
      place = filePlace directory a ∨ before.IsLink (filePlace directory a)
  linked : ∀ a ∈ files, ∀ b ∈ files, a.path ≠ b.path → ∀ number,
    after.LeadsTo (Files.join output a.path) number →
    after.LeadsTo (Files.join output b.path) number →
      Linked before (filePlace directory a) (filePlace directory b)

theorem Stored.written {files : List Artifact} (h : Stored output files t t')
    (hopens : t'.Opens output directory) (hnames : ∀ a ∈ files, IsFileName a.path)
    (hnodup : (files.map Artifact.path).Nodup) : Written output directory files t t' := by
  have hplace : ∀ a ∈ files, ∀ place number,
      t'.find (Files.join output a.path) = .ok (place, .file number) →
        place = filePlace directory a ∨ t.IsLink (filePlace directory a) := by
    intro a ha place number hfind
    obtain ⟨other, hother, hentry⟩ := FileTree.exists_opens_of_locate_join (hnames a ha)
      (FileTree.find_eq_ok_iff.1 hfind).1
    cases hother.unique hopens
    exact hentry.imp_right fun ⟨target, htarget⟩ => ⟨target, h.grows.at?_eq_link htarget⟩
  refine ⟨h, (Plan.nodup_map_iff_nodup_map fun a _ b _ => filePlace_inj).2 hnodup, hopens, hplace,
    ?_⟩
  rintro a ha b hb hne number ⟨place, hfind⟩ ⟨other, hother⟩
  obtain rfl | hlink := hplace a ha place number hfind
  · obtain rfl | hlink := hplace b hb other number hother
    · obtain heq | hboth := h.grows.eq_or_at?_eq _ _ number (FileTree.find_eq_ok_iff.1 hfind).2
        (FileTree.find_eq_ok_iff.1 hother).2
      · exact absurd (filePlace_inj.1 heq) hne
      · exact Or.inr (Or.inr ⟨number, hboth⟩)
    · exact Or.inr (Or.inl hlink)
  · exact Or.inl hlink

/-- A file that nothing links to another lies at its place and holds its text. -/
theorem Written.exists_find_eq {files : List Artifact} {a : Artifact}
    (h : Written output directory files t t') (ha : a ∈ files)
    (hlink : ¬ t.IsLink (filePlace directory a))
    (hlinked : ∀ b ∈ files, a.path ≠ b.path →
      ¬ Linked t (filePlace directory a) (filePlace directory b)) :
    ∃ number, t'.find (Files.join output a.path) = .ok (filePlace directory a, .file number) ∧
      t'.text number = a.text := by
  obtain ⟨number, place, hfind⟩ := h.exists_leadsTo a ha
  obtain rfl := (h.place_eq a ha place number hfind).resolve_right hlink
  obtain ⟨front, back, rfl⟩ := List.append_of_mem ha
  refine ⟨number, hfind, h.text_eq front a back number rfl ⟨_, hfind⟩ ?_⟩
  intro b hb hleads
  have hbmem : b ∈ front ++ a :: back :=
    List.mem_append_right front (List.mem_cons_of_mem a hb)
  have hne : a.path ≠ b.path := by
    have hnodup := h.nodup
    rw [List.map_append, List.map_cons, List.nodup_append] at hnodup
    intro heq
    exact (List.nodup_cons.1 hnodup.2.1).1 (List.mem_map.2 ⟨b, hb, filePlace_inj.2 heq.symm⟩)
  exact hlinked b hbmem hne (h.linked a ha b hbmem hne number ⟨_, hfind⟩ hleads)

/-! ### The files of a run -/

/-- The file names of a run: its two modules and the one that marks a package. -/
def fileNames (s : Settings) : List (List Char) :=
  [s.schemaModule, s.clientModule, Client.packageModule].map fun name => (moduleFile name).toList

theorem toList_moduleFile (name : String) :
    (moduleFile name).toList = name.toList ++ ['.', 'p', 'y'] := String.toList_append

theorem moduleFile_inj {a b : String} : (moduleFile a).toList = (moduleFile b).toList ↔ a = b := by
  rw [toList_moduleFile, toList_moduleFile, List.append_left_inj, String.toList_inj]

theorem isFileName_moduleFile {name : String} (h : Lexical.isValidIdentifier name = true) :
    IsFileName (moduleFile name).toList := by
  have hlast : ∀ step : List Char, step.getLast? ≠ some 'y' → (moduleFile name).toList ≠ step := by
    rintro step hstep rfl
    rw [toList_moduleFile] at hstep
    simp at hstep
  have hchar : ∀ c, Lexical.isIdentifierChar c = false → c ∉ ['.', 'p', 'y'] →
      c ∉ (moduleFile name).toList := by
    intro c hc hsuffix hmem
    rw [toList_moduleFile, List.mem_append, or_iff_left hsuffix] at hmem
    exact Bool.false_ne_true (hc.symm.trans
      ((Lexical.isWord_of_isValidIdentifier h).chars c hmem))
  refine ⟨?_, hlast _ (by decide), hchar '/' (by decide) (by decide),
    hchar '\x00' (by decide) (by decide)⟩
  rw [Files.isMove, Bool.and_eq_true, Bool.not_eq_true', List.isEmpty_eq_false_iff, bne_iff_ne]
  exact ⟨hlast [] (by decide), hlast ['.'] (by decide)⟩

/-- A request that passes its check names two modules that are told apart, neither of which is the
one that marks a package. -/
theorem checkModules_eq_ok {s : Settings} (h : Client.checkModules s = .ok ()) :
    Client.checkModule s.schemaModule = .ok () ∧ Client.checkModule s.clientModule = .ok () ∧
      s.schemaModule ≠ s.clientModule := by
  obtain ⟨⟨⟩, hschema, h⟩ := ok_of_bind h
  obtain ⟨⟨⟩, hclient, h⟩ := ok_of_bind h
  refine ⟨mapError_eq_ok hschema, mapError_eq_ok hclient, ?_⟩
  intro heq
  rw [if_pos (beq_iff_eq.2 heq)] at h
  cases h

theorem isFileName_and_nodup_of_check {r : GenerateRequest} (h : r.check = .ok ()) :
    (∀ name ∈ fileNames r.settings, IsFileName name) ∧ (fileNames r.settings).Nodup := by
  obtain ⟨⟨⟩, -, h⟩ := ok_of_bind h
  obtain ⟨⟨⟩, hmodules, -⟩ := ok_of_bind h
  obtain ⟨hschema, hclient, hne⟩ := checkModules_eq_ok hmodules
  obtain ⟨-, hschema, hschemaPackage⟩ := (Client.checkModule_eq_ok_iff _).1 hschema
  obtain ⟨-, hclient, hclientPackage⟩ := (Client.checkModule_eq_ok_iff _).1 hclient
  have hpackage : Lexical.isValidIdentifier Client.packageModule = true := by decide
  constructor
  · simp only [fileNames, List.forall_mem_map, List.forall_mem_cons]
    exact ⟨isFileName_moduleFile hschema, isFileName_moduleFile hclient,
      isFileName_moduleFile hpackage, by simp⟩
  · refine List.Nodup.map (fun a b => moduleFile_inj.1) ?_
    simp [hne, hschemaPackage, hclientPackage]

theorem render_eq_ok {set : Template.TemplateSet} {values : List (String × Json)} {s : Settings}
    {files : List Artifact} (h : Render.render set values s = .ok files) :
    files.map Artifact.path = fileNames s := by
  obtain ⟨library, -, h⟩ := ok_of_bind h
  obtain ⟨models, -, h⟩ := ok_of_bind h
  obtain ⟨client, -, h⟩ := ok_of_bind h
  cases h
  rfl

/-- What is written has been checked and rendered. -/
theorem prepare_eq_ok {s : Surroundings} {r : GenerateRequest} {plan : Plan}
    {files : List Artifact} (h : prepare s r t = .ok (plan, files)) :
    r.check = .ok () ∧ files.map Artifact.path = fileNames r.settings := by
  obtain ⟨⟨⟩, hcheck, h⟩ := ok_of_bind h
  obtain ⟨document, -, h⟩ := ok_of_bind h
  obtain ⟨built, -, h⟩ := ok_of_bind h
  obtain ⟨artifacts, hartifacts, h⟩ := ok_of_bind h
  cases h
  obtain ⟨set, -, hrender⟩ := ok_of_bind (mapError_eq_ok hartifacts)
  exact ⟨mapError_eq_ok hcheck, render_eq_ok hrender⟩

section Generate

variable {s : Surroundings} {r : GenerateRequest} {plan : Plan} {files : List Artifact}

theorem generate_of_write_error {problem : OutputProblem}
    (hprepare : prepare s r t = .ok (plan, files))
    (hwrite : write r.output (files.map (placed r.output)) t = (t', .error problem)) :
    (generate s r t).result = .error (.output problem) := by
  simp only [generate, hprepare, hwrite]

theorem generate_of_write_ok (hprepare : prepare s r t = .ok (plan, files))
    (hwrite : write r.output (files.map (placed r.output)) t = (t', .ok ())) :
    (∃ report, (generate s r t).result = .ok report) ∧
      (r.settings.format = false → (generate s r t).tree = t') := by
  simp only [generate, hprepare, hwrite]
  refine ⟨⟨_, rfl⟩, ?_⟩
  intro hformat
  rw [hformat, Formatting.format_not_asked]

/-- A run ends in one of three ways: before it writes, while it writes, or well. -/
theorem generate_cases (s : Surroundings) (r : GenerateRequest) (t : FileTree) :
    (∃ e, generate s r t = ⟨t, [], .error e⟩) ∨
    (∃ problem, (generate s r t).result = .error (.output problem)) ∨
    ∃ plan files written, prepare s r t = .ok (plan, files) ∧
      write r.output (files.map (placed r.output)) t = (written, .ok ()) := by
  -- nothing that comes after the writing can fail
  cases hprepare : prepare s r t with
  | error e => exact Or.inl ⟨e, generate_tree_of_prepare_error hprepare⟩
  | ok prepared =>
      obtain ⟨plan, files⟩ := prepared
      rcases hwrite : write r.output (files.map (placed r.output)) t with ⟨written, problem | ⟨⟩⟩
      · exact Or.inr (Or.inl ⟨problem, generate_of_write_error hprepare hwrite⟩)
      · exact Or.inr (Or.inr ⟨plan, files, written, rfl, hwrite⟩)

end Generate

/-- A world without a web and without programs, whose templates are fixed texts. -/
def plainWorld : Surroundings where
  fetch := Loading.offline
  templates := .loader fun _ =>
    .ok [(Render.modelsName, "models"), (Client.Mode.blocking.clientTemplate, "client")]
  executor := Formatting.noPrograms
  formatters := []

/-- A tree with a document without operations and a link to a directory elsewhere.  In a directory
below that one a link stands in the place of the models. -/
def linkedTree : FileTree where
  current := ["work"]
  entries := [
    (["work", "api.json"], .file 0),
    (["work", "out"], .link "/srv/clients/".toList),
    (["srv"], .directory),
    (["srv", "clients"], .directory),
    (["srv", "clients", "a"], .directory),
    (["srv", "clients", "a", "schema.py"], .link "../../models.py".toList)]
  texts := [(0,
    "\x7b\"openapi\":\"3.0.0\",\"paths\":\x7b\x7d,\"components\":\x7b\"schemas\":\x7b\x7d\x7d\x7d")]

/-- A request to write to a directory inside another. -/
def nestedRequest (source : String) : GenerateRequest where
  source := source
  output := ['o', 'u', 't', '/', 'a']
  settings := {}

/-- The models are written to where the link leads, and the link stays. -/
example :
    let after := (generate plainWorld (nestedRequest "api.json") linkedTree).tree
    after.textAt? ["srv", "models.py"] = some "models\n" ∧
      after.textAt? ["srv", "clients", "a", "api.py"] = some "client\n" ∧
      after.at? ["srv", "clients", "a", "schema.py"] = some (.link "../../models.py".toList) := by
  decide +kernel

end TypedClient.Run
