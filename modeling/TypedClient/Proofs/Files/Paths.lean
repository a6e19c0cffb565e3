import Mathlib.Data.List.Basic
import Mathlib.Tactic.Common
import TypedClient.Files.Path

/-!
# Steps of paths

Where a path leads depends on its steps that move and on whether it starts at the root.  Joining a
name without slashes to a path adds one step at the end (`exists_splitAt_join`), and trimming a path
takes away only steps that do not move (`steps_trimPath`).
-/

namespace TypedClient.Files

open TypedClient.Text

/-- Whether a step leads somewhere else. -/
def isMove (step : List Char) : Bool := !step.isEmpty && step != ['.']

theorem isMove_eq_not (step : List Char) : isMove step = !(step.isEmpty || step == ['.']) := by
  rw [isMove, bne, Bool.not_or]

theorem steps_eq_filter (path : List Char) :
    steps path = (splitAt (· == '/') path).filter isMove := rfl

/-- A slash divides the steps in front of it from those behind it. -/
theorem splitAt_append_slash (cs ds : List Char) :
    splitAt (· == '/') (cs ++ '/' :: ds) = splitAt (· == '/') cs ++ splitAt (· == '/') ds :=
  splitAt_append_cons (by decide) cs ds

theorem splitAt_of_not_mem {name : List Char} (h : '/' ∉ name) :
    splitAt (· == '/') name = [name] := by
  apply splitAt_of_all_not
  intro c hc
  rw [beq_eq_false_iff_ne]
  rintro rfl
  exact h hc

/-- A slash at the end moves nowhere. -/
theorem steps_append_slash (cs : List Char) : steps (cs ++ ['/']) = steps cs := by
  rw [steps_eq_filter, splitAt_append_slash, List.filter_append]
  exact List.append_nil _

theorem steps_append_slash_dot (cs : List Char) : steps (cs ++ ['/', '.']) = steps cs := by
  rw [steps_eq_filter, splitAt_append_slash, List.filter_append]
  exact List.append_nil _

section Join

variable {name : List Char} (hslash : '/' ∉ name) (path : List Char)

include hslash

theorem isAbsolute_eq_false : isAbsolute name = false := by
  cases name with
  | nil => rfl
  | cons c cs =>
      rw [isAbsolute, List.head?_cons, beq_eq_false_iff_ne]
      intro heq
      exact hslash (Option.some.inj heq ▸ List.mem_cons_self)

/-- The path with a slash at its end, unless it is empty, in front of the name. -/
theorem exists_join_eq :
    path = [] ∧ join path name = name ∨
      (∃ front, path = front ++ ['/'] ∧ join path name = front ++ '/' :: name) ∨
      path ≠ [] ∧ join path name = path ++ '/' :: name := by
  have habsolute := isAbsolute_eq_false hslash
  by_cases hnil : path = []
  · subst hnil
    exact Or.inl ⟨rfl, join_nil name⟩
  · by_cases hlast : path.getLast? = some '/'
    · obtain ⟨front, rfl⟩ := List.getLast?_eq_some_iff.1 hlast
      refine Or.inr (Or.inl ⟨front, rfl, ?_⟩)
      simp [join, habsolute]
    · refine Or.inr (Or.inr ⟨hnil, ?_⟩)
      simp [join, habsolute, hnil, hlast]

theorem join_ne_nil (hne : name ≠ []) : join path name ≠ [] := by
  obtain ⟨-, heq⟩ | ⟨front, -, heq⟩ | ⟨-, heq⟩ := exists_join_eq hslash path <;> simp [heq, hne]

/-- Joining adds the name behind the steps of the path. -/
theorem exists_splitAt_join : ∃ front,
    splitAt (· == '/') (join path name) = front ++ [name] ∧ front.filter isMove = steps path := by
  have hname := splitAt_of_not_mem hslash
  obtain ⟨rfl, heq⟩ | ⟨front, rfl, heq⟩ | ⟨-, heq⟩ := exists_join_eq hslash path
  · exact ⟨[], by rw [heq, hname, List.nil_append], rfl⟩
  · refine ⟨splitAt (· == '/') front, ?_, (steps_append_slash front).symm⟩
    rw [heq, splitAt_append_slash, hname]
  · refine ⟨splitAt (· == '/') path, ?_, rfl⟩
    rw [heq, splitAt_append_slash, hname]

theorem isAbsolute_join : isAbsolute (join path name) = isAbsolute path := by
  obtain ⟨rfl, heq⟩ | ⟨front, rfl, heq⟩ | ⟨hne, heq⟩ := exists_join_eq hslash path
  · rw [heq, isAbsolute_eq_false hslash]
    rfl
  · rw [heq]
    cases front <;> rfl
  · obtain ⟨c, cs, rfl⟩ := List.exists_cons_of_ne_nil hne
    rw [heq]
    rfl

theorem mem_join_iff {c : Char} (hc : c ≠ '/') : c ∈ join path name ↔ c ∈ path ∨ c ∈ name := by
  obtain ⟨rfl, heq⟩ | ⟨front, rfl, heq⟩ | ⟨-, heq⟩ := exists_join_eq hslash path <;>
    simp [heq, hc]

end Join

/-- What is dropped from the end of a path are slashes and dots that do not move. -/
theorem steps_dropTail (reversed : List Char) :
    steps (dropTail reversed).reverse = steps reversed.reverse := by
  -- the text is reversed, so what is dropped stands in front and is put back at the end
  induction reversed using dropTail.induct with
  | case1 c rest ih =>
      rw [dropTail, ih, List.reverse_cons (a := '/'), steps_append_slash]
  | case2 rest ih =>
      have hreverse : ('.' :: '/' :: rest).reverse = rest.reverse ++ ['/', '.'] := by simp
      rw [dropTail, ih, hreverse, List.reverse_cons, steps_append_slash, steps_append_slash_dot]
  | case3 path hslash hdot => rw [dropTail] <;> assumption

theorem getLast?_dropTail (reversed : List Char) :
    (dropTail reversed).getLast? = reversed.getLast? := by
  induction reversed using dropTail.induct with
  | case1 c rest ih => rw [dropTail, ih, List.getLast?_cons_cons]
  | case2 rest ih => rw [dropTail, ih, List.getLast?_cons_cons]
  | case3 path hslash hdot => rw [dropTail] <;> assumption

theorem mem_dropTail_iff {c : Char} (hslash : c ≠ '/') (hdot : c ≠ '.') (reversed : List Char) :
    c ∈ dropTail reversed ↔ c ∈ reversed := by
  induction reversed using dropTail.induct with
  | case1 d rest ih => rw [dropTail, ih, List.mem_cons (b := '/'), or_iff_right hslash]
  | case2 rest ih => rw [dropTail, ih, List.mem_cons (b := '.'), or_iff_right hdot]
  | case3 path _ _ => rw [dropTail] <;> assumption

/-- Trimming keeps the steps that move. -/
theorem steps_trimPath (path : List Char) : steps (trimPath path) = steps path := by
  rw [trimPath, steps_dropTail, List.reverse_reverse]

theorem isAbsolute_trimPath (path : List Char) : isAbsolute (trimPath path) = isAbsolute path := by
  rw [isAbsolute, isAbsolute, trimPath, List.head?_reverse, getLast?_dropTail,
    List.getLast?_reverse]

theorem mem_trimPath_iff {c : Char} (hslash : c ≠ '/') (hdot : c ≠ '.') (path : List Char) :
    c ∈ trimPath path ↔ c ∈ path := by
  rw [trimPath, List.mem_reverse, mem_dropTail_iff hslash hdot, List.mem_reverse]

end TypedClient.Files
