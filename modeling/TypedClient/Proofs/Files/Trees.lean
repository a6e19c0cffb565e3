import TypedClient.Proofs.Files.Ways

/-!
# What file operations do

Making directories and writing files let a tree grow (`FileTree.Grows`): all entries stay what they
were, so that every path leads where it led before (`Grows.find`).  Making directories leaves a path
that opens (`makeDirectories_eq_ok`), and writing a text leaves a path that leads to a file with
this text (`write_eq_ok`).
-/

namespace TypedClient.Files

namespace FileTree

variable {t t' t'' : FileTree}

/-! ### Growing -/

/-- The second tree has grown out of the first.  Every entry is what it was; what is new are
directories and written files, each of which is a file of its own, and no other file has another
text.  `written` tells at which place which file was written. -/
structure Grows (written : Place → Nat → Prop) (t t' : FileTree) : Prop where
  current_eq : t'.current = t.current
  at?_eq_some : ∀ place e, t.at? place = some e → t'.at? place = some e
  at?_of_none : ∀ place, t.at? place = none → t'.at? place = none ∨
    t'.at? place = some .directory ∨
    ∃ number, t'.at? place = some (.file number) ∧ written place number
  text_eq : ∀ place number, t.at? place = some (.file number) →
    (∀ other, ¬ written other number) → t'.text number = t.text number
  eq_or_at?_eq : ∀ place other number, t'.at? place = some (.file number) →
    t'.at? other = some (.file number) →
      place = other ∨ t.at? place = some (.file number) ∧ t.at? other = some (.file number)

section Grows

variable {written written' : Place → Nat → Prop}

theorem Grows.refl (written : Place → Nat → Prop) (t : FileTree) : Grows written t t where
  current_eq := rfl
  at?_eq_some _ _ h := h
  at?_of_none _ h := Or.inl h
  text_eq _ _ _ _ := rfl
  eq_or_at?_eq _ _ _ h h' := Or.inr ⟨h, h'⟩

theorem Grows.mono (h : Grows written t t')
    (hle : ∀ place number, written place number → written' place number) :
    Grows written' t t' where
  current_eq := h.current_eq
  at?_eq_some := h.at?_eq_some
  at?_of_none place hnone := by
    obtain hnone' | hdirectory | ⟨number, hfile, hwritten⟩ := h.at?_of_none place hnone
    · exact Or.inl hnone'
    · exact Or.inr (Or.inl hdirectory)
    · exact Or.inr (Or.inr ⟨number, hfile, hle _ _ hwritten⟩)
  text_eq place number hfile hother :=
    h.text_eq place number hfile fun other hwritten => hother other (hle _ _ hwritten)
  eq_or_at?_eq := h.eq_or_at?_eq

theorem Grows.trans (h : Grows written t t') (h' : Grows written t' t'') :
    Grows written t t'' where
  current_eq := h'.current_eq.trans h.current_eq
  at?_eq_some place e he := h'.at?_eq_some place e (h.at?_eq_some place e he)
  at?_of_none place hnone := by
    obtain hnone' | hdirectory | ⟨number, hfile, hwritten⟩ := h.at?_of_none place hnone
    · exact h'.at?_of_none place hnone'
    · exact Or.inr (Or.inl (h'.at?_eq_some _ _ hdirectory))
    · exact Or.inr (Or.inr ⟨number, h'.at?_eq_some _ _ hfile, hwritten⟩)
  text_eq place number hfile hother :=
    (h'.text_eq place number (h.at?_eq_some _ _ hfile) hother).trans
      (h.text_eq place number hfile hother)
  eq_or_at?_eq place other number hplace hother := by
    obtain heq | ⟨hplace', hother'⟩ := h'.eq_or_at?_eq place other number hplace hother
    · exact Or.inl heq
    · exact h.eq_or_at?_eq place other number hplace' hother'

/-- No link is new. -/
theorem Grows.at?_eq_link (h : Grows written t t') {place : Place} {target : List Char}
    (hlink : t'.at? place = some (.link target)) : t.at? place = some (.link target) := by
  cases hplace : t.at? place with
  | some e => rw [← hplace, ← hlink, hplace, h.at?_eq_some place e hplace]
  | none =>
      obtain hnone | hdirectory | ⟨number, hfile, -⟩ := h.at?_of_none place hplace
      · rw [hnone] at hlink
        cases hlink
      · rw [hdirectory] at hlink
        cases hlink
      · rw [hfile] at hlink
        cases hlink

theorem Grows.way (h : Grows written t t') {links : Nat} {place last : Place}
    {steps : List (List Char)} (hway : t.Way links place steps last) :
    t'.Way links place steps last := by
  induction hway with
  | nil place => exact .nil place
  | step hplace hnext _ ih =>
      exact .step (h.at?_eq_some _ _ hplace)
        (fun target hlink => hnext target (h.at?_eq_link hlink)) ih
  | link hplace hlink _ ih => exact .link (h.at?_eq_some _ _ hplace) (h.at?_eq_some _ _ hlink) ih

theorem Grows.locate (h : Grows written t t') {path : List Char} {place : Place}
    (hlocate : t.locate path = .ok place) : t'.locate path = .ok place := by
  obtain ⟨hne, hnul, links, hle, hway⟩ := locate_eq_ok_iff.1 hlocate
  refine locate_eq_ok_iff.2 ⟨hne, hnul, links, hle, ?_⟩
  rw [h.current_eq]
  exact h.way hway

/-- What a path leads to, it leads to in the grown tree. -/
theorem Grows.find (h : Grows written t t') {path : List Char} {place : Place} {e : Entry}
    (hfind : t.find path = .ok (place, e)) : t'.find path = .ok (place, e) := by
  obtain ⟨hlocate, hplace⟩ := find_eq_ok_iff.1 hfind
  exact find_eq_ok_iff.2 ⟨h.locate hlocate, h.at?_eq_some place e hplace⟩

end Grows

/-! ### Making directories and writing -/

theorem lookup_filter_ne {α β : Type} [BEq α] [LawfulBEq α] {key other : α} (hne : other ≠ key)
    (l : List (α × β)) : (l.filter fun p => p.1 != key).lookup other = l.lookup other := by
  induction l with
  | nil => rfl
  | cons p l ih =>
      by_cases hp : p.1 = key
      · rw [List.filter_cons_of_neg (by simp [hp]), ih, List.lookup_cons, hp,
          beq_eq_false_iff_ne.2 hne]
      · rw [List.filter_cons_of_pos (by simp [hp]), List.lookup_cons, List.lookup_cons, ih]

theorem at?_set_of_ne {place other : Place} (hne : other ≠ place) (e : Entry) :
    (t.set place e).at? other = t.at? other := by
  have hlookup : (t.set place e).entries.lookup other = t.entries.lookup other := by
    rw [set, List.lookup_cons, beq_eq_false_iff_ne.2 hne, lookup_filter_ne hne]
  rw [at?, at?, hlookup]
  rfl

/-- An entry at a free place changes no entry. -/
theorem at?_set_of_at?_eq_none {place other : Place} {e f : Entry} (hplace : t.at? place = none)
    (hother : t.at? other = some f) : (t.set place e).at? other = some f := by
  rw [at?_set_of_ne, hother]
  rintro rfl
  rw [hplace] at hother
  cases hother

theorem isBase_eq_false {place : Place} (h : t.at? place = none) : t.isBase place = false := by
  unfold at? at h
  split at h
  · cases h
  · next hbase => exact Bool.eq_false_iff.2 hbase

theorem text_setText (number : Nat) (text : String) :
    (t.setText number text).text number = text := by
  simp [FileTree.text, setText]

theorem text_setText_of_ne {number other : Nat} (hne : other ≠ number) (text : String) :
    (t.setText number text).text other = t.text other := by
  rw [FileTree.text, FileTree.text, setText, List.lookup_cons, beq_eq_false_iff_ne.2 hne,
    lookup_filter_ne hne]

theorem lt_fresh {place : Place} {number : Nat} (h : t.at? place = some (.file number)) :
    number < t.fresh := by
  have hmem : number ∈ t.entries.filterMap fun p => p.2.number? := by
    unfold at? at h
    split at h
    · cases h
    · obtain ⟨front, back, hentries, -⟩ := List.lookup_eq_some_iff.1 h
      exact List.mem_filterMap.2 ⟨(place, .file number), by simp [hentries], rfl⟩
  rw [fresh]
  generalize t.entries.filterMap (fun p => p.2.number?) = numbers at hmem
  induction numbers with
  | nil => cases hmem
  | cons first numbers ih =>
      rw [List.foldr_cons]
      rcases List.mem_cons.1 hmem with rfl | hmem
      · omega
      · have := ih hmem
        omega

theorem eq_or_at?_of_at?_set {place other : Place} {e f : Entry} (hplace : t.at? place = none)
    (h : (t.set place e).at? other = some f) : other = place ∧ f = e ∨ t.at? other = some f := by
  by_cases hother : other = place
  · rw [hother, at?_set t place e (isBase_eq_false hplace), Option.some.injEq] at h
    exact Or.inl ⟨hother, h.symm⟩
  · rw [at?_set_of_ne hother] at h
    exact Or.inr h

/-- A new directory, or a new file with a fresh number, lets the tree grow. -/
theorem grows_set {place : Place} {e : Entry} {written : Place → Nat → Prop}
    (hplace : t.at? place = none) (hlink : ∀ target, e ≠ .link target)
    (hfile : ∀ number, e = .file number → number = t.fresh ∧ written place number) :
    Grows written t (t.set place e) where
  current_eq := rfl
  at?_eq_some _ _ := at?_set_of_at?_eq_none hplace
  at?_of_none other hother := by
    by_cases hne : other = place
    · rw [hne, at?_set t place e (isBase_eq_false hplace)]
      cases e with
      | directory => exact Or.inr (Or.inl rfl)
      | file number => exact Or.inr (Or.inr ⟨number, rfl, (hfile number rfl).2⟩)
      | link target => exact absurd rfl (hlink target)
    · rw [at?_set_of_ne hne]
      exact Or.inl hother
  text_eq _ _ _ _ := rfl
  eq_or_at?_eq place' other number h h' := by
    obtain ⟨hplace', he⟩ | hold := eq_or_at?_of_at?_set hplace h
    · obtain ⟨hother, -⟩ | hold' := eq_or_at?_of_at?_set hplace h'
      · exact Or.inl (hplace'.trans hother.symm)
      · exact absurd (lt_fresh hold') ((hfile number he.symm).1 ▸ Nat.lt_irrefl _)
    · obtain ⟨-, he⟩ | hold' := eq_or_at?_of_at?_set hplace h'
      · exact absurd (lt_fresh hold) ((hfile number he.symm).1 ▸ Nat.lt_irrefl _)
      · exact Or.inr ⟨hold, hold'⟩

/-- A new text lets the tree grow. -/
theorem grows_setText {place : Place} {number : Nat} {written : Place → Nat → Prop}
    (hwritten : written place number) (text : String) :
    Grows written t (t.setText number text) where
  current_eq := rfl
  at?_eq_some _ _ h := h
  at?_of_none _ h := Or.inl h
  text_eq other number' _ hother := by
    apply text_setText_of_ne
    rintro rfl
    exact hother place hwritten
  eq_or_at?_eq _ _ _ h h' := Or.inr ⟨h, h'⟩

theorem makeDirectory_eq_ok {path : List Char} (h : t.makeDirectory path = .ok t') :
    Grows (fun _ _ => False) t t' ∧ ∃ place, t'.Opens path place := by
  unfold makeDirectory at h
  split at h
  · cases h
  · next place hname =>
      split at h
      · cases h
      · next hnone =>
          cases h
          have hgrows : Grows (fun _ _ => False) t (t.set place .directory) :=
            grows_set hnone (by simp) (by simp)
          have hlocate := hgrows.locate (locate_of_locateName hname (by simp [hnone]))
          exact ⟨hgrows, place, opens_trimPath_iff.1
            (opens_of_locate hlocate (at?_set t place _ (isBase_eq_false hnone)))⟩

theorem exists_opens_of_hasDirectory {path : List Char} (h : t.hasDirectory path = true) :
    ∃ place, t.Opens path place := by
  unfold hasDirectory at h
  split at h
  · next place hfind =>
      obtain ⟨hlocate, hplace⟩ := find_eq_ok_iff.1 hfind
      exact ⟨place, opens_of_locate hlocate hplace⟩
  · cases h

theorem climb_eq_ok {levels : Nat} {path : List Char}
    (h : makeDirectories.climb levels t path = .ok t') :
    Grows (fun _ _ => False) t t' ∧ ∃ place, t'.Opens path place := by
  -- the calls below make room for `path`; that `levels` suffices plays no part in what is made
  fun_induction makeDirectories.climb levels t path generalizing t' with
  | case1 levels t path hempty =>
      cases h
      rw [List.isEmpty_iff.1 hempty]
      exact ⟨.refl _ t, t.current, opens_nil⟩
  | case2 levels t path _ made hmade =>
      cases h
      exact makeDirectory_eq_ok hmade
  | case4 t path _ _ levels above _ below hbelow made hmade ih =>
      cases h
      obtain ⟨hgrows, hopens⟩ := makeDirectory_eq_ok hmade
      exact ⟨(ih hbelow).1.trans hgrows, hopens⟩
  | case5 t path _ _ levels above _ below hbelow e _ hdirectory ih =>
      cases h
      exact ⟨(ih hbelow).1, exists_opens_of_hasDirectory hdirectory⟩
  | case8 levels t path _ e _ _ hdirectory =>
      cases h
      exact ⟨.refl _ t, exists_opens_of_hasDirectory hdirectory⟩
  | case3 | case6 | case7 | case9 => cases h

/-- Making directories writes no file, and the path opens one of them. -/
theorem makeDirectories_eq_ok {path : List Char} (h : t.makeDirectories path = .ok t') :
    Grows (fun _ _ => False) t t' ∧ ∃ place, t'.Opens path place :=
  climb_eq_ok h

/-- Writing sets the text of the file that the path leads to, which is new if it led to nothing. -/
theorem write_eq_ok {path : List Char} {text : String} (h : t.write path text = .ok t') :
    ∃ place number, t'.find path = .ok (place, .file number) ∧ t'.text number = text ∧
      Grows (fun p n => p = place ∧ n = number) t t' := by
  unfold write at h
  split at h
  · cases h
  · next place hlocate =>
      split at h
      · next hnone =>
          cases h
          have hset : Grows (fun p n => p = place ∧ n = t.fresh) t (t.set place (.file t.fresh)) :=
            grows_set hnone (by simp) (by simp)
          have hgrows := hset.trans (grows_setText ⟨rfl, rfl⟩ text)
          exact ⟨place, t.fresh, find_eq_ok_iff.2 ⟨hgrows.locate hlocate,
            at?_set t place _ (isBase_eq_false hnone)⟩, text_setText _ _, hgrows⟩
      · next number hfile =>
          cases h
          have hgrows : Grows (fun p n => p = place ∧ n = number) t (t.setText number text) :=
            grows_setText ⟨rfl, rfl⟩ text
          exact ⟨place, number, find_eq_ok_iff.2 ⟨hgrows.locate hlocate, hfile⟩,
            text_setText _ _, hgrows⟩
      · cases h

end FileTree

end TypedClient.Files
