import TypedClient.Plan.Endpoint
import TypedClient.Proofs.Lists
import TypedClient.Proofs.Text.Replacement

/-!
# Names in paths

A path is read as names between braces and other characters. Rewriting its names is one relation on
texts, `Rewritten`, which has one result for each path (`Rewritten.unique`). Parameters that replace
their names one after another carry it out (`rewritten_templateOf`): no replacement makes or breaks
a pair of braces, so each of them only changes what has become of the names so far.
-/

namespace TypedClient.Plan

open Text (replaceAll)

variable {f : List Char → List Char} {name other cs ds : List Char}

/-! ## Names between braces -/

/-- What can stand between braces as a name. -/
structure IsPathName (name : List Char) : Prop where
  ne_nil : name ≠ []
  not_mem_open : '\x7b' ∉ name
  not_mem_close : '\x7d' ∉ name

instance : DecidablePred IsPathName := fun name =>
  decidable_of_iff (name ≠ [] ∧ '\x7b' ∉ name ∧ '\x7d' ∉ name)
    ⟨fun h => ⟨h.1, h.2.1, h.2.2⟩, fun h => ⟨h.1, h.2, h.3⟩⟩

/-- Some name between braces begins the text. -/
def StartsWithName (cs : List Char) : Prop :=
  ∃ name rest, IsPathName name ∧ cs = braced name ++ rest

/-- The name stands between braces somewhere in the text. -/
def StandsIn (name cs : List Char) : Prop := IsPathName name ∧ braced name <:+: cs

/-- The second text is the first one with all names between braces rewritten and nothing else. -/
inductive Rewritten (f : List Char → List Char) : List Char → List Char → Prop where
  | nil : Rewritten f [] []
  | name {name rest rest' : List Char} (hname : IsPathName name) (h : Rewritten f rest rest') :
      Rewritten f (braced name ++ rest) (braced (f name) ++ rest')
  | other {c : Char} {rest rest' : List Char} (hother : ¬StartsWithName (c :: rest))
      (h : Rewritten f rest rest') : Rewritten f (c :: rest) (c :: rest')

theorem braced_append (name rest : List Char) :
    braced name ++ rest = '\x7b' :: (name ++ '\x7d' :: rest) := by
  simp [braced]

theorem braced_append_inj {rest rest' : List Char} (hname : '\x7d' ∉ name) (hother : '\x7d' ∉ other)
    (h : braced name ++ rest = braced other ++ rest') : name = other ∧ rest = rest' := by
  rw [braced_append, braced_append, List.cons.injEq] at h
  exact append_cons_inj hname hother h.2

/-- A path is read from the left: a name between braces at once, anything else by its character. -/
theorem path_induction {P : List Char → Prop} (nil : P [])
    (name : ∀ name rest, IsPathName name → P rest → P (braced name ++ rest))
    (other : ∀ c rest, ¬StartsWithName (c :: rest) → P rest → P (c :: rest)) (cs : List Char) :
    P cs := by
  induction hn : cs.length using Nat.strong_induction_on generalizing cs with
  | _ n ih =>
      cases cs with
      | nil => exact nil
      | cons c rest =>
          by_cases hstart : StartsWithName (c :: rest)
          · obtain ⟨first, rest', hfirst, heq⟩ := hstart
            rw [heq]
            refine name first rest' hfirst (ih rest'.length ?_ rest' rfl)
            rw [← hn, heq, braced_append, List.length_cons, List.length_append, List.length_cons]
            omega
          · exact other c rest hstart (ih rest.length (by rw [← hn]; simp) rest rfl)

/-- A path is rewritten in one way only. -/
theorem Rewritten.unique {ds' : List Char} (h : Rewritten f cs ds) (h' : Rewritten f cs ds') :
    ds = ds' := by
  induction h generalizing ds' with
  | nil => cases h' with
    | nil => rfl
  | @name name rest rest' hname h ih =>
      generalize hcs : braced name ++ rest = cs at h'
      cases h' with
      | nil => simp [braced] at hcs
      | name hname' h' =>
          obtain ⟨rfl, rfl⟩ := braced_append_inj hname.not_mem_close hname'.not_mem_close hcs
          rw [ih h']
      | other hother => exact absurd ⟨name, rest, hname, hcs.symm⟩ hother
  | @other c rest rest' hother h ih =>
      generalize hcs : c :: rest = cs at h'
      cases h' with
      | nil => cases hcs
      | name hname' h' => exact absurd ⟨_, _, hname', hcs⟩ hother
      | other hother' h' =>
          cases hcs
          rw [ih h']

/-- Only what becomes of the names in the path counts. -/
theorem Rewritten.congr {g : List Char → List Char} (h : Rewritten f cs ds)
    (hfg : ∀ name, StandsIn name cs → f name = g name) : Rewritten g cs ds := by
  induction h with
  | nil => exact .nil
  | @name name rest rest' hname h ih =>
      have hname' : StandsIn name (braced name ++ rest) := ⟨hname, List.infix_append_left⟩
      rw [hfg name hname']
      refine .name hname (ih fun other hother => hfg other ⟨hother.1, ?_⟩)
      exact hother.2.trans (List.suffix_append _ _).isInfix
  | other hother h ih =>
      refine .other hother (ih fun other hother => hfg other ⟨hother.1, ?_⟩)
      exact hother.2.trans (List.suffix_cons _ _).isInfix

theorem rewritten_self (cs : List Char) : Rewritten (fun name => name) cs cs := by
  induction cs using path_induction with
  | nil => exact .nil
  | name name rest hname ih => exact .name hname ih
  | other c rest hother ih => exact .other hother ih

/-! ## One replacement -/

/-- Rewriting changes nothing in front of a closing brace without an opening one. -/
theorem Rewritten.exists_eq_append {word rest' : List Char} (hopen : '\x7b' ∉ word)
    (h : Rewritten f cs (word ++ '\x7d' :: rest')) : ∃ rest, cs = word ++ '\x7d' :: rest := by
  induction word generalizing cs with
  | nil =>
      cases h with
      | other hother h => exact ⟨_, rfl⟩
  | cons w word ih =>
      have hw : '\x7b' ≠ w := fun heq => hopen (heq ▸ List.mem_cons_self)
      have hword : '\x7b' ∉ word := fun hmem => hopen (List.mem_cons_of_mem w hmem)
      generalize hds : (w :: word) ++ '\x7d' :: rest' = ds at h
      cases h with
      | nil => cases hds
      | name hname h =>
          rw [braced_append, List.cons_append, List.cons.injEq] at hds
          exact absurd hds.1.symm hw
      | other hother h =>
          cases hds
          obtain ⟨rest, rfl⟩ := ih hword h
          exact ⟨rest, rfl⟩

theorem replaceAll_append_of_not_mem (hcs : '\x7b' ∉ cs) (word replacement rest : List Char) :
    replaceAll (braced word) replacement (cs ++ rest) =
      cs ++ replaceAll (braced word) replacement rest := by
  induction cs with
  | nil => rfl
  | cons c cs ih =>
      have hc : '\x7b' ≠ c := fun heq => hcs (heq ▸ List.mem_cons_self)
      have hhead : ¬braced word <+: c :: (cs ++ rest) := by
        rintro ⟨rest', heq⟩
        rw [braced_append, List.cons.injEq] at heq
        exact hc heq.1
      rw [List.cons_append, Text.replaceAll_cons hhead,
        ih fun hmem => hcs (List.mem_cons_of_mem c hmem)]
      rfl

/-- Another name between braces stays. -/
theorem replaceAll_braced_append {word replacement rest : List Char} (hname : IsPathName name)
    (hword : IsPathName word) (hne : name ≠ word) :
    replaceAll (braced word) replacement (braced name ++ rest) =
      braced name ++ replaceAll (braced word) replacement rest := by
  have hhead : ¬braced word <+: '\x7b' :: (name ++ '\x7d' :: rest) := by
    rintro ⟨rest', heq⟩
    rw [← braced_append] at heq
    exact hne (braced_append_inj hword.not_mem_close hname.not_mem_close heq).1.symm
  have hinside : '\x7b' ∉ name ++ ['\x7d'] := by simpa using hname.not_mem_open
  have hrest := replaceAll_append_of_not_mem hinside word replacement rest
  rw [List.append_assoc, List.append_assoc, List.singleton_append, List.singleton_append] at hrest
  rw [braced_append, Text.replaceAll_cons hhead, hrest, braced_append]

/-- Replacing a name between braces changes what has become of the names. -/
theorem Rewritten.replaceAll {word : List Char} (h : Rewritten f cs ds) (hword : IsPathName word)
    (hf : ∀ name, IsPathName name → IsPathName (f name)) (value : List Char) :
    Rewritten (fun name => if f name = word then value else f name) cs
      (replaceAll (braced word) (braced value) ds) := by
  have hne : braced word ≠ [] := by simp [braced]
  induction h with
  | nil => exact .nil
  | @name name rest rest' hname h ih =>
      by_cases heq : f name = word
      · have hsame := Rewritten.name hname ih
        rw [if_pos heq, ← Text.replaceAll_append hne] at hsame
        rwa [heq]
      · have hother := Rewritten.name hname ih
        rwa [if_neg heq, ← replaceAll_braced_append (hf name hname) hword heq] at hother
  | @other c rest rest' hother h ih =>
      have hhead : ¬braced word <+: c :: rest' := by
        -- a name that stands in the result has stood in the path
        rintro ⟨tail, heq⟩
        rw [braced_append, List.cons.injEq] at heq
        obtain ⟨rfl, rfl⟩ := heq
        obtain ⟨tail', rfl⟩ := h.exists_eq_append hword.not_mem_open
        exact hother ⟨word, tail', hword, (braced_append word tail').symm⟩
      rw [Text.replaceAll_cons hhead]
      exact .other hother ih

/-! ## One replacement after another -/

/-- What becomes of a name when each parameter in turn replaces its own one. -/
def replacedBy (parameters : List PathParameter) (name : List Char) : List Char :=
  parameters.foldl (fun name p => if name = p.wireName.toList then p.name.toList else name) name

theorem rewritten_foldl {parameters : List PathParameter}
    (hwire : ∀ p ∈ parameters, IsPathName p.wireName.toList)
    (hname : ∀ p ∈ parameters, IsPathName p.name.toList) (h : Rewritten f cs ds)
    (hf : ∀ name, IsPathName name → IsPathName (f name)) :
    Rewritten (fun name => replacedBy parameters (f name)) cs
      (parameters.foldl (fun text p =>
        replaceAll (braced p.wireName.toList) (braced p.name.toList) text) ds) := by
  induction parameters generalizing f ds with
  | nil => exact h
  | cons p parameters ih =>
      have hnext := h.replaceAll (hwire p List.mem_cons_self) hf p.name.toList
      refine ih (fun q hq => hwire q (List.mem_cons_of_mem p hq))
        (fun q hq => hname q (List.mem_cons_of_mem p hq)) hnext ?_
      intro name hpath
      simp only
      split
      · exact hname p List.mem_cons_self
      · exact hf name hpath

/-- The template is the path with every name rewritten by all parameters. -/
theorem rewritten_templateOf {parameters : List PathParameter} (path : String)
    (hwire : ∀ p ∈ parameters, IsPathName p.wireName.toList)
    (hname : ∀ p ∈ parameters, IsPathName p.name.toList) :
    Rewritten (replacedBy parameters) path.toList (templateOf parameters path).toList := by
  rw [templateOf, String.toList_ofList]
  exact rewritten_foldl hwire hname (rewritten_self path.toList) fun _ h => h

/-! ## The names of a path -/

theorem bracedNames_open (done : Option (List Char)) (cs : List Char) :
    bracedNames done ('\x7b' :: cs) = bracedNames (some []) cs := rfl

theorem bracedNames_close (d : Char) (done cs : List Char) :
    bracedNames (some (d :: done)) ('\x7d' :: cs) =
      (d :: done).reverse :: bracedNames none cs := rfl

theorem bracedNames_of_ne {c : Char} (hopen : c ≠ '\x7b') (hclose : c ≠ '\x7d')
    (done : Option (List Char)) (cs : List Char) :
    bracedNames done (c :: cs) = bracedNames (done.map (c :: ·)) cs := by
  rw [bracedNames.eq_def]
  simp only [beq_iff_eq, if_neg hopen, if_neg hclose]

/-- What is read behind an opening brace counts only if a closing one follows. -/
theorem bracedNames_some {done : List Char} (hopen : '\x7b' ∉ done) (hclose : '\x7d' ∉ done)
    (h : ¬StartsWithName ('\x7b' :: (done.reverse ++ cs))) :
    bracedNames (some done) cs = bracedNames none cs := by
  induction cs generalizing done with
  | nil => rfl
  | cons c cs ih =>
      by_cases hc : c = '\x7b'
      · rw [hc, bracedNames_open, bracedNames_open]
      · by_cases hc' : c = '\x7d'
        · cases done with
          | nil =>
              rw [hc']
              rfl
          | cons d done =>
              refine absurd ⟨(d :: done).reverse, cs, ⟨by simp, ?_, ?_⟩, ?_⟩ h
              · rwa [List.mem_reverse]
              · rwa [List.mem_reverse]
              · rw [braced_append, hc']
        · rw [bracedNames_of_ne hc hc', bracedNames_of_ne hc hc', Option.map_some, Option.map_none]
          refine ih ?_ ?_ ?_
          · simpa [Ne.symm hc] using hopen
          · simpa [Ne.symm hc'] using hclose
          · simpa using h

theorem bracedNames_cons {c : Char} (h : ¬StartsWithName (c :: cs)) :
    bracedNames none (c :: cs) = bracedNames none cs := by
  by_cases hc : c = '\x7b'
  · rw [hc] at h ⊢
    exact bracedNames_some List.not_mem_nil List.not_mem_nil h
  · by_cases hc' : c = '\x7d'
    · rw [hc']
      rfl
    · exact bracedNames_of_ne hc hc' none cs

theorem bracedNames_some_append {done rest : List Char} (hopen : '\x7b' ∉ name)
    (hclose : '\x7d' ∉ name) (hne : done.reverse ++ name ≠ []) :
    bracedNames (some done) (name ++ '\x7d' :: rest) =
      (done.reverse ++ name) :: bracedNames none rest := by
  induction name generalizing done with
  | nil =>
      cases done with
      | nil => exact absurd rfl hne
      | cons d done => rw [List.nil_append, List.append_nil, bracedNames_close]
  | cons c name ih =>
      have hc : c ≠ '\x7b' := fun heq => hopen (heq ▸ List.mem_cons_self)
      have hc' : c ≠ '\x7d' := fun heq => hclose (heq ▸ List.mem_cons_self)
      rw [List.cons_append, bracedNames_of_ne hc hc', Option.map_some,
        ih (fun hmem => hopen (List.mem_cons_of_mem c hmem))
          (fun hmem => hclose (List.mem_cons_of_mem c hmem)) (by simp)]
      simp

theorem bracedNames_append (hname : IsPathName name) (rest : List Char) :
    bracedNames none (braced name ++ rest) = name :: bracedNames none rest := by
  rw [braced_append, bracedNames_open]
  exact bracedNames_some_append hname.not_mem_open hname.not_mem_close hname.ne_nil

/-- Names between braces do not overlap. -/
theorem braced_infix_append_iff {rest : List Char} (hname : IsPathName name)
    (hother : IsPathName other) :
    braced other <:+: braced name ++ rest ↔ other = name ∨ braced other <:+: rest := by
  constructor
  · rintro ⟨before, after, heq⟩
    rw [List.append_assoc] at heq
    cases before with
    | nil =>
        rw [List.nil_append] at heq
        exact Or.inl (braced_append_inj hother.not_mem_close hname.not_mem_close heq).1
    | cons b before =>
        right
        rw [braced_append, braced_append, List.cons_append, List.cons.injEq] at heq
        -- the opening brace of the other name comes behind the closing one of the first
        rcases List.append_eq_append_iff.1 heq.2 with ⟨gap, rfl, htail⟩ | ⟨gap, rfl, htail⟩
        · cases gap with
          | nil => cases htail
          | cons g gap =>
              rw [List.cons_append, List.cons.injEq] at htail
              rw [← htail.1] at hname
              exact absurd (by simp) hname.not_mem_open
        · cases gap with
          | nil => cases htail
          | cons g gap =>
              rw [List.cons_append, List.cons.injEq] at htail
              rw [htail.2, ← braced_append, ← List.append_assoc]
              exact List.infix_append _ _ _
  · rintro (rfl | hrest)
    · exact List.infix_append_left
    · exact hrest.trans (List.suffix_append _ _).isInfix

/-- The names that are read from a path are those that stand in it between braces. -/
theorem mem_bracedNames_iff (cs name : List Char) :
    name ∈ bracedNames none cs ↔ StandsIn name cs := by
  induction cs using path_induction with
  | nil => simp [bracedNames, StandsIn, braced]
  | name first rest hfirst ih =>
      rw [bracedNames_append hfirst, List.mem_cons, ih, StandsIn, StandsIn]
      constructor
      · rintro (rfl | ⟨hname, hrest⟩)
        · exact ⟨hfirst, List.infix_append_left⟩
        · exact ⟨hname, (braced_infix_append_iff hfirst hname).2 (Or.inr hrest)⟩
      · rintro ⟨hname, hinfix⟩
        exact ((braced_infix_append_iff hfirst hname).1 hinfix).imp_right fun hrest =>
          ⟨hname, hrest⟩
  | other c rest hother ih =>
      rw [bracedNames_cons hother, ih, StandsIn, StandsIn]
      refine and_congr_right fun hname => ?_
      rw [List.infix_cons_iff]
      refine (or_iff_right ?_).symm
      rintro ⟨tail, heq⟩
      exact hother ⟨name, tail, hname, heq.symm⟩

instance (name cs : List Char) : Decidable (StandsIn name cs) :=
  decidable_of_iff _ (mem_bracedNames_iff cs name)

end TypedClient.Plan
