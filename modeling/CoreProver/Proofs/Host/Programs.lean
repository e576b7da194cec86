import CoreProver.Host.Machine
import Mathlib.Tactic.Common

/-!
# Where programs are found

A path below a directory has a component more than the path alone. A program is started by a path,
or by a name that is looked up in directories; a machine in memory answers such a look-up with a
path that is found again.
-/

namespace CoreProver

namespace Path

theorem split_eq_splitOn (s : List Char) : split s = s.splitOn '/' := by
  rw [List.splitOn]
  induction s with
  | nil => rfl
  | cons c rest ih =>
    rw [split, List.splitOnP_cons_eq_if_modifyHead, ih]
    by_cases hc : c = '/'
    · simp [hc]
    · obtain ⟨part, parts, h⟩ := List.exists_cons_of_ne_nil (List.splitOnP_ne_nil (· == '/') rest)
      simp [hc, h]

theorem split_ne_nil (s : List Char) : split s ≠ [] := by
  rw [split_eq_splitOn]
  exact List.splitOnP_ne_nil _ s

/-- A slash separates the parts before it from those behind it. -/
theorem split_append_slash (s t : List Char) : split (s ++ '/' :: t) = split s ++ split t := by
  simp only [split_eq_splitOn, List.splitOn]
  exact List.splitOnP_append_cons s t (by simp)

/-- Whatever a path starts with counts as one component: the root, a dot or a name. -/
theorem componentCount_of_ne_empty {path : String} (h : path ≠ "") :
    componentCount path = 1 + (split path.toList).tail.countP isComponent := by
  have hne : path.toList ≠ [] := by simpa using h
  obtain ⟨c, rest, hpath⟩ := List.exists_cons_of_ne_nil hne
  by_cases hc : c = '/'
  · simp [componentCount, parts, isAbsolute, hpath, split, hc]
  · obtain ⟨part, parts', hparts⟩ := List.exists_cons_of_ne_nil (split_ne_nil rest)
    simp [componentCount, parts, isAbsolute, hpath, split, hc, hparts, frontComponent]

/-- Below a directory a relative path stands behind a slash. -/
theorem exists_toList_join {base path : String} (hbase : base ≠ "")
    (hpath : isAbsolute path = false) :
    ∃ before, (join base path).toList = before ++ '/' :: path.toList := by
  unfold join
  rw [if_neg (by simp [hbase, hpath])]
  split
  · rename_i hlast
    obtain ⟨before, hbefore⟩ := List.getLast?_eq_some_iff.1 hlast
    exact ⟨before, by simp [hbefore]⟩
  · exact ⟨base.toList, by simp⟩

/-- A directory adds a component to those of a relative path, and the dot in front of the path is
then none. -/
theorem lt_componentCount_join {base path : String} (hbase : base ≠ "")
    (hpath : isAbsolute path = false) :
    (split path.toList).countP isComponent < componentCount (join base path) := by
  obtain ⟨before, hjoin⟩ := exists_toList_join hbase hpath
  have hne : join base path ≠ "" := by
    intro h
    simp [h] at hjoin
  obtain ⟨part, parts, hparts⟩ := List.exists_cons_of_ne_nil (split_ne_nil before)
  rw [componentCount_of_ne_empty hne, hjoin, split_append_slash, hparts]
  simp only [List.cons_append, List.tail_cons, List.countP_append]
  omega

/-- A path of several components has several in every directory. -/
theorem two_le_componentCount_join (base : String) {path : String}
    (h : 2 ≤ componentCount path) : 2 ≤ componentCount (join base path) := by
  by_cases hjoin : isAbsolute path || base.isEmpty
  · rwa [join, if_pos hjoin]
  · obtain ⟨hpath, hbase⟩ : isAbsolute path = false ∧ base ≠ "" := by simpa using hjoin
    have hne : path ≠ "" := by
      rintro rfl
      exact absurd h (by decide)
    have hcount := componentCount_of_ne_empty hne
    have htail :
        (split path.toList).tail.countP isComponent ≤ (split path.toList).countP isComponent :=
      (List.tail_sublist _).countP_le
    have hlt := lt_componentCount_join hbase hpath
    omega

end Path

namespace Host

/-- Whether a machine finds a program to start. A path of one component is looked up in the
directories for programs, any other path has to lead somewhere. -/
def finds (host : Host) (program : String) : Bool :=
  if Path.componentCount program = 1 then (host.findProgram program).isSome
  else host.exists? program

/-- When a name is looked up, the path in the answer is found again. -/
def AnswersFound (host : Host) (name : String) : Prop :=
  ∀ path, host.findProgram name = some path → host.finds path = true

end Host

namespace Machine

theorem exists?_of_startable {m : Machine} {path : String} (h : (m.startable path).isOk = true) :
    m.host.exists? path = true := by
  change (m.find path).isOk = true
  unfold startable at h
  cases hfind : m.find path with
  | error e => simp [hfind, Except.isOk, Except.toBool] at h
  | ok node => rfl

theorem exists_directory_of_findProgram {m : Machine} {name path : String}
    (h : m.findProgram name = some path) :
    ∃ directory, path = Path.join directory name ∧ (m.startable path).isOk = true := by
  have hstart := List.find?_some h
  obtain ⟨directory, -, hpath⟩ := List.mem_map.1 (List.mem_of_find?_eq_some h)
  exact ⟨directory, hpath.symm, hstart⟩

/-- A machine in memory answers with paths that are found again, for every name that stays a
component below a directory. -/
theorem answersFound (m : Machine) {name : String} (hrelative : Path.isAbsolute name = false)
    (hname : 0 < (Path.split name.toList).countP Path.isComponent) : m.host.AnswersFound name := by
  intro path hfind
  change m.findProgram name = some path at hfind
  obtain ⟨directory, hpath, hstart⟩ := exists_directory_of_findProgram hfind
  unfold Host.finds
  split
  · rename_i hone
    -- only in the working directory is the path of the program the name alone
    have hdirectory : directory = "" := by
      by_contra hne
      have hlt := Path.lt_componentCount_join hne hrelative
      rw [← hpath] at hlt
      omega
    have hname : path = name := by simp [hpath, hdirectory, Path.join]
    change (m.findProgram path).isSome = true
    rw [hname, hfind]
    rfl
  · exact exists?_of_startable hstart

end Machine

end CoreProver
