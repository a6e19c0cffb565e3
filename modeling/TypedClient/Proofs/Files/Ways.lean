import TypedClient.Files.Tree
import TypedClient.Proofs.Files.Paths

/-!
# Where paths lead

A path leads to a place along a way (`FileTree.Way`), which follows every link that it meets and
counts them (`locate_eq_ok_iff`).  A path opens a directory (`FileTree.Opens`) if what is joined to
it is found inside that directory; a file name that is joined to it leads to the place right below
the directory, or on along the link that stands there (`exists_opens_of_locate_join`).
-/

namespace TypedClient.Files

open TypedClient.Text

/-- A name of one step that moves downwards. -/
structure IsFileName (name : List Char) : Prop where
  isMove : isMove name = true
  ne_dots : name ≠ ['.', '.']
  slash_not_mem : '/' ∉ name
  nul_not_mem : '\x00' ∉ name

theorem child_of_isMove_eq_false {step : List Char} (h : isMove step = false) (place : Place) :
    child place step = place := by
  rw [isMove_eq_not, Bool.not_eq_false'] at h
  rw [child, if_pos h]

theorem child_of_isFileName {name : List Char} (h : IsFileName name) (place : Place) :
    child place name = place ++ [String.ofList name] := by
  have hmove := h.isMove
  rw [isMove_eq_not, Bool.not_eq_true'] at hmove
  rw [child, hmove, beq_eq_false_iff_ne.2 h.ne_dots, if_neg Bool.false_ne_true,
    if_neg Bool.false_ne_true]

namespace FileTree

variable {t : FileTree}

/-! ### Ways -/

/-- A way from a place along steps to another place, on which some number of links is followed.
The target of a link is walked before the steps behind the link. -/
inductive Way (t : FileTree) : (links : Nat) → Place → List (List Char) → Place → Prop
  | nil (place : Place) : Way t 0 place [] place
  | step {links : Nat} {place last : Place} {step : List Char} {rest : List (List Char)}
      (hplace : t.at? place = some .directory)
      (hnext : ∀ target, t.at? (child place step) ≠ some (.link target))
      (hrest : Way t links (child place step) rest last) : Way t links place (step :: rest) last
  | link {links : Nat} {place last : Place} {step target : List Char} {rest : List (List Char)}
      (hplace : t.at? place = some .directory)
      (hlink : t.at? (child place step) = some (.link target))
      (hrest : Way t links (start place target) (splitAt (· == '/') target ++ rest) last) :
      Way t (links + 1) place (step :: rest) last

section Way

variable {links most : Nat} {place last : Place} {step : List Char}
  {steps rest others : List (List Char)}

theorem follow_eq_ok_iff {next : Place} :
    t.follow place step = .ok next ↔ t.at? place = some .directory ∧ next = child place step := by
  unfold follow
  split
  · next heq => simp [heq]
  · next heq => simp [heq, eq_comm]
  · next e hne heq => simpa [heq] using fun h => absurd h hne

theorem resolve_nil : t.resolve most place [] = .ok place := by rw [resolve, walk]

theorem resolve_cons_of_not_link (hplace : t.at? place = some .directory)
    (hnext : ∀ target, t.at? (child place step) ≠ some (.link target)) :
    t.resolve most place (step :: rest) = t.resolve most (child place step) rest := by
  have hwalk : t.walk place (step :: rest) = t.walk (child place step) rest := by
    simp only [walk, follow, hplace]
  rw [resolve, hwalk, ← resolve]

theorem resolve_cons_of_link {target : List Char} (hplace : t.at? place = some .directory)
    (hlink : t.at? (child place step) = some (.link target)) :
    t.resolve (most + 1) place (step :: rest) =
      t.resolve most (start place target) (splitAt (· == '/') target ++ rest) := by
  rw [resolve]
  simp only [walk, follow, hplace, hlink]

theorem resolve_zero_of_link {target : List Char} (hplace : t.at? place = some .directory)
    (hlink : t.at? (child place step) = some (.link target)) :
    t.resolve 0 place (step :: rest) = .error .tooManyLinks := by
  rw [resolve]
  simp only [walk, follow, hplace, hlink]

theorem at?_of_resolve_cons (h : t.resolve most place (step :: rest) = .ok last) :
    t.at? place = some .directory := by
  cases hfollow : t.follow place step with
  | ok next => exact (follow_eq_ok_iff.1 hfollow).1
  | error e =>
      rw [resolve, walk, hfollow] at h
      cases h

/-- A link uses up one of `most`, every other step one of the steps. -/
theorem exists_way_of_resolve (h : t.resolve most place steps = .ok last) :
    ∃ links ≤ most, t.Way links place steps last := by
  induction most using Nat.strongRecOn generalizing place steps with
  | ind most ihlinks =>
      induction steps generalizing place with
      | nil =>
          rw [resolve_nil] at h
          cases h
          exact ⟨0, Nat.zero_le _, .nil _⟩
      | cons step rest ih =>
          have hplace := at?_of_resolve_cons h
          by_cases hlink : ∃ target, t.at? (child place step) = some (.link target)
          · obtain ⟨target, htarget⟩ := hlink
            cases most with
            | zero =>
                rw [resolve_zero_of_link hplace htarget] at h
                cases h
            | succ most =>
                rw [resolve_cons_of_link hplace htarget] at h
                obtain ⟨links, hle, hway⟩ := ihlinks most (Nat.lt_succ_self most) h
                exact ⟨links + 1, Nat.succ_le_succ hle, .link hplace htarget hway⟩
          · rw [not_exists] at hlink
            rw [resolve_cons_of_not_link hplace hlink] at h
            obtain ⟨links, hle, hway⟩ := ih h
            exact ⟨links, hle, .step hplace hlink hway⟩

theorem Way.resolve_eq (h : t.Way links place steps last) (hle : links ≤ most) :
    t.resolve most place steps = .ok last := by
  induction h generalizing most with
  | nil place => exact resolve_nil
  | step hplace hnext _ ih => rw [resolve_cons_of_not_link hplace hnext, ih hle]
  | link hplace hlink _ ih =>
      obtain ⟨most, rfl⟩ := Nat.exists_eq_add_of_le' hle
      rw [← Nat.add_assoc, resolve_cons_of_link hplace hlink, ih (Nat.le_add_left _ _)]

/-- Resolving finds the ends of the ways that do not follow too many links. -/
theorem resolve_eq_ok_iff :
    t.resolve most place steps = .ok last ↔ ∃ links ≤ most, t.Way links place steps last :=
  ⟨exists_way_of_resolve, fun ⟨_, hle, h⟩ => h.resolve_eq hle⟩

theorem Way.at?_of_cons (h : t.Way links place (step :: rest) last) :
    t.at? place = some .directory := by
  cases h with
  | step hplace _ _ => exact hplace
  | link hplace _ _ => exact hplace

/-- A way that ends at a directory begins at one. -/
theorem Way.at?_of_at? (h : t.Way links place steps last) (hlast : t.at? last = some .directory) :
    t.at? place = some .directory := by
  cases h with
  | nil => exact hlast
  | step hplace _ _ => exact hplace
  | link hplace _ _ => exact hplace

theorem Way.append {links' : Nat} {middle : Place} (h : t.Way links place steps middle)
    (h' : t.Way links' middle others last) :
    t.Way (links + links') place (steps ++ others) last := by
  induction h with
  | nil place =>
      rw [Nat.zero_add]
      exact h'
  | step hplace hnext _ ih => exact .step hplace hnext (ih h')
  | link hplace hlink _ ih =>
      rw [Nat.add_right_comm]
      refine .link hplace hlink ?_
      have hrest := ih h'
      rw [List.append_assoc] at hrest
      exact hrest

theorem way_append_iff :
    t.Way links place (steps ++ others) last ↔
      ∃ m middle k, t.Way m place steps middle ∧ t.Way k middle others last ∧ m + k = links := by
  constructor
  · intro h
    -- the steps grow when a link is followed, so the induction is on the way
    generalize hall : steps ++ others = all at h
    induction h generalizing steps with
    | nil place =>
        obtain ⟨rfl, rfl⟩ := List.append_eq_nil_iff.1 hall
        exact ⟨0, place, 0, .nil place, .nil place, rfl⟩
    | @step links place last first rest hplace hnext hrest ih =>
        cases steps with
        | nil =>
            rw [List.nil_append] at hall
            exact ⟨0, place, links, .nil place, hall ▸ .step hplace hnext hrest,
              Nat.zero_add links⟩
        | cons _ steps =>
            obtain ⟨rfl, hsame⟩ := List.cons.inj hall
            obtain ⟨m, middle, k, hsteps, hothers, hadd⟩ := ih hsame
            exact ⟨m, middle, k, .step hplace hnext hsteps, hothers, hadd⟩
    | @link links place last first target rest hplace hlink hrest ih =>
        cases steps with
        | nil =>
            rw [List.nil_append] at hall
            exact ⟨0, place, links + 1, .nil place, hall ▸ .link hplace hlink hrest,
              Nat.zero_add (links + 1)⟩
        | cons _ steps =>
            obtain ⟨rfl, rfl⟩ := List.cons.inj hall
            obtain ⟨m, middle, k, hsteps, hothers, rfl⟩ := ih (List.append_assoc _ steps others)
            exact ⟨m + 1, middle, k, .link hplace hlink hsteps, hothers, Nat.add_right_comm m 1 k⟩
  · rintro ⟨m, middle, k, hsteps, hothers, rfl⟩
    exact hsteps.append hothers

theorem way_cons_of_isMove_eq_false (hstep : isMove step = false) :
    t.Way links place (step :: rest) last ↔
      t.at? place = some .directory ∧ t.Way links place rest last := by
  have hchild := child_of_isMove_eq_false hstep place
  constructor
  · intro h
    cases h with
    | step hplace _ hrest =>
        rw [hchild] at hrest
        exact ⟨hplace, hrest⟩
    | link hplace hlink _ =>
        rw [hchild, hplace] at hlink
        cases hlink
  · rintro ⟨hplace, hrest⟩
    refine .step hplace ?_ (hchild.symm ▸ hrest)
    rw [hchild, hplace]
    intro target heq
    cases heq

/-- On the way to a directory only the steps that move count. -/
theorem way_filter_isMove_iff (hlast : t.at? last = some .directory)
    (steps : List (List Char)) :
    t.Way links place (steps.filter isMove) last ↔ t.Way links place steps last := by
  induction steps generalizing links place with
  | nil => rfl
  | cons step steps ih =>
      cases hstep : isMove step with
      | true =>
          rw [List.filter_cons_of_pos hstep, ← List.singleton_append, way_append_iff,
            ← List.singleton_append (l := steps), way_append_iff]
          simp only [ih]
      | false =>
          rw [List.filter_cons_of_neg (by simp [hstep]), ih, way_cons_of_isMove_eq_false hstep,
            iff_and_self]
          intro h
          exact h.at?_of_at? hlast

end Way

/-! ### What paths lead to -/

theorem resolvePath_eq_ok_iff {path : List Char} {steps : List (List Char)} {place : Place} :
    t.resolvePath path steps = .ok place ↔ path ≠ [] ∧ '\x00' ∉ path ∧
      ∃ links ≤ maxLinks, t.Way links (start t.current path) steps place := by
  rw [← resolve_eq_ok_iff]
  unfold resolvePath
  split
  · next hempty => simp [List.isEmpty_iff.1 hempty]
  · next hempty =>
      split
      · next hnul => simp [List.contains_iff_mem.1 hnul]
      · next hnul =>
          rw [List.isEmpty_iff] at hempty
          rw [List.contains_iff_mem] at hnul
          exact ⟨fun h => ⟨hempty, hnul, h⟩, fun h => h.2.2⟩

theorem locate_eq_ok_iff {path : List Char} {place : Place} :
    t.locate path = .ok place ↔ path ≠ [] ∧ '\x00' ∉ path ∧
      ∃ links ≤ maxLinks, t.Way links (start t.current path) (splitAt (· == '/') path) place :=
  resolvePath_eq_ok_iff

theorem find_eq_ok_iff {path : List Char} {place : Place} {e : Entry} :
    t.find path = .ok (place, e) ↔ t.locate path = .ok place ∧ t.at? place = some e := by
  unfold find
  constructor
  · intro h
    split at h
    · cases h
    · next found hlocate =>
        split at h
        · next entry hentry =>
            cases h
            exact ⟨hlocate, hentry⟩
        · cases h
  · rintro ⟨hlocate, hentry⟩
    simp only [hlocate, hentry]

/-- A path leads to the place that it names, unless there is a link. -/
theorem locate_of_locateName {path : List Char} {place : Place}
    (h : t.locateName path = .ok place) (hplace : ∀ target, t.at? place ≠ some (.link target)) :
    t.locate path = .ok place := by
  unfold locateName at h
  split at h
  · cases h
  · next directory hresolve =>
      obtain ⟨hne, hnul, links, hle, hway⟩ := resolvePath_eq_ok_iff.1 hresolve
      obtain ⟨hdirectory, rfl⟩ := follow_eq_ok_iff.1 h
      refine locate_eq_ok_iff.2 ⟨hne, hnul, links, hle, ?_⟩
      have hlast := hway.append (.step hdirectory hplace (.nil _))
      rwa [List.dropLast_append_getLast] at hlast

/-- There is a link at the place. -/
def IsLink (t : FileTree) (place : Place) : Prop := ∃ target, t.at? place = some (.link target)

/-- The path leads to the file. -/
def LeadsTo (t : FileTree) (path : List Char) (number : Nat) : Prop :=
  ∃ place, t.find path = .ok (place, .file number)

/-- The path opens the directory at the place.  The empty path opens the current directory. -/
def Opens (t : FileTree) (path : List Char) (place : Place) : Prop :=
  t.find (join path ['.']) = .ok (place, .directory)

theorem locate_join_iff {name : List Char} (hne : name ≠ []) (hslash : '/' ∉ name)
    (hnul : '\x00' ∉ name) {path : List Char} {place : Place} :
    t.locate (join path name) = .ok place ↔ '\x00' ∉ path ∧ ∃ m directory k,
      t.Way m (start t.current path) (steps path) directory ∧ t.Way k directory [name] place ∧
        m + k ≤ maxLinks := by
  obtain ⟨front, hsplit, hfront⟩ := exists_splitAt_join hslash path
  have hdirectory : ∀ {m k : Nat} {directory : Place}, t.Way k directory [name] place →
      (t.Way m (start t.current path) (steps path) directory ↔
        t.Way m (start t.current path) front directory) := by
    intro m k directory h
    rw [← hfront]
    exact way_filter_isMove_iff h.at?_of_cons front
  rw [locate_eq_ok_iff, hsplit, mem_join_iff hslash path (by decide), start,
    isAbsolute_join hslash]
  simp only [join_ne_nil hslash path hne, hnul, ne_eq, not_false_iff, true_and, or_false,
    way_append_iff]
  refine and_congr_right fun _ => ?_
  constructor
  · rintro ⟨_, hle, m, directory, k, hsteps, hname, rfl⟩
    exact ⟨m, directory, k, (hdirectory hname).2 hsteps, hname, hle⟩
  · rintro ⟨m, directory, k, hsteps, hname, hle⟩
    exact ⟨m + k, hle, m, directory, k, (hdirectory hname).1 hsteps, hname, rfl⟩

theorem way_dot_iff {links : Nat} {place last : Place} :
    t.Way links place [['.']] last ↔
      t.at? place = some .directory ∧ links = 0 ∧ last = place := by
  rw [way_cons_of_isMove_eq_false rfl]
  refine and_congr_right fun _ => ?_
  constructor
  · intro h
    cases h
    exact ⟨rfl, rfl⟩
  · rintro ⟨rfl, rfl⟩
    exact .nil last

theorem opens_iff {path : List Char} {place : Place} :
    t.Opens path place ↔ '\x00' ∉ path ∧ t.at? place = some .directory ∧
      ∃ links ≤ maxLinks, t.Way links (start t.current path) (steps path) place := by
  rw [Opens, find_eq_ok_iff, locate_join_iff (List.cons_ne_nil _ _) (by decide) (by decide),
    and_assoc]
  refine and_congr_right fun _ => ?_
  simp only [way_dot_iff]
  constructor
  · rintro ⟨⟨m, directory, k, hsteps, ⟨hdirectory, rfl, rfl⟩, hle⟩, -⟩
    exact ⟨hdirectory, m, hle, hsteps⟩
  · rintro ⟨hplace, links, hle, hsteps⟩
    exact ⟨⟨links, place, 0, hsteps, ⟨hplace, rfl, rfl⟩, hle⟩, hplace⟩

theorem opens_of_locate {path : List Char} {place : Place} (hlocate : t.locate path = .ok place)
    (hplace : t.at? place = some .directory) : t.Opens path place := by
  obtain ⟨-, hnul, links, hle, hway⟩ := locate_eq_ok_iff.1 hlocate
  refine opens_iff.2 ⟨hnul, hplace, links, hle, ?_⟩
  rw [steps_eq_filter]
  exact (way_filter_isMove_iff hplace _).2 hway

theorem opens_trimPath_iff {path : List Char} {place : Place} :
    t.Opens (trimPath path) place ↔ t.Opens path place := by
  rw [opens_iff, opens_iff, mem_trimPath_iff (by decide) (by decide), steps_trimPath, start,
    isAbsolute_trimPath, start]

theorem at?_current : t.at? t.current = some .directory := by simp [at?, isBase]

theorem opens_nil : t.Opens [] t.current :=
  opens_iff.2 ⟨List.not_mem_nil, at?_current, 0, Nat.zero_le _, .nil _⟩

theorem Opens.unique {path : List Char} {place other : Place} (h : t.Opens path place)
    (h' : t.Opens path other) : place = other := by
  have heq := h.symm.trans h'
  cases heq
  rfl

/-- A joined file name leads right below the directory that the path opens, or on along the link
that stands there. -/
theorem exists_opens_of_locate_join {name : List Char} (hname : IsFileName name)
    {path : List Char} {place : Place} (h : t.locate (join path name) = .ok place) :
    ∃ directory, t.Opens path directory ∧
      (place = directory ++ [String.ofList name] ∨
        t.IsLink (directory ++ [String.ofList name])) := by
  have hne : name ≠ [] := by
    rintro rfl
    exact absurd hname.isMove (by decide)
  obtain ⟨hnul, m, directory, k, hsteps, hlast, hle⟩ :=
    (locate_join_iff hne hname.slash_not_mem hname.nul_not_mem).1 h
  refine ⟨directory, opens_iff.2 ⟨hnul, hlast.at?_of_cons, m, by omega, hsteps⟩, ?_⟩
  rw [← child_of_isFileName hname]
  cases hlast with
  | step _ _ hrest =>
      cases hrest
      exact Or.inl rfl
  | link _ hlink _ => exact Or.inr ⟨_, hlink⟩

end FileTree

end TypedClient.Files
