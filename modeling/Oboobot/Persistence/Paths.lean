import Mathlib.Data.List.Basic

/-! Paths, and the files that lie directly in a directory. -/

namespace Oboobot.Persistence

/-- The names a path leads through, in turn. Empty ones and `.` lead nowhere. -/
def components (path : String) : List (List Char) :=
  (path.toList.splitOn '/').filter fun name => name ≠ [] ∧ name ≠ ['.']

/-- `Path::join`: an absolute path replaces the directory. -/
def join (directory path : String) : String :=
  if path.toList.head? = some '/' then path
  else if directory.toList.getLast?.all (· = '/') then directory ++ path
  else directory ++ "/" ++ path

/-- The path leads into the directory and names one file there. -/
def DirectChild (directory path : String) : Prop :=
  ∃ name, components path = components directory ++ [name] ∧ name ≠ ['.', '.']

theorem components_append (front back : String) :
    components (front ++ "/" ++ back) = components front ++ components back := by
  have slash : (front ++ "/" ++ back).toList = front.toList ++ '/' :: back.toList := by
    simp
  rw [components, slash, List.splitOn_append_cons_self, List.filter_append]
  rfl

/-- A relative path continues the directory's. -/
theorem components_join (directory path : String) (relative : path.toList.head? ≠ some '/') :
    components (join directory path) = components directory ++ components path := by
  rw [join, if_neg relative]
  split
  · rename_i slashed
    cases last : directory.toList.getLast? with
    | none =>
      have empty : directory = "" := by
        rw [← String.toList_eq_nil_iff]
        exact List.getLast?_eq_none_iff.mp last
      subst empty
      rw [String.empty_append]
      rfl
    | some char =>
      rw [last] at slashed
      obtain ⟨front, same⟩ := List.getLast?_eq_some_iff.mp last
      have char' : char = '/' := by simpa using slashed
      have split : directory = String.ofList front ++ "/" := by
        rw [← String.toList_inj, same, char']
        simp
      have bare : components (String.ofList front ++ "/") = components (String.ofList front) := by
        have closed := components_append (String.ofList front) ""
        rw [String.append_empty] at closed
        rw [closed]
        exact List.append_nil _
      rw [split, components_append, bare]
  · exact components_append directory path

theorem exists_mem_splitOn {α : Type} [BEq α] [LawfulBEq α] {values : List α} {value separator : α}
    (member : value ∈ values) (other : value ≠ separator) :
    ∃ part ∈ values.splitOn separator, value ∈ part := by
  induction values with
  | nil => cases member
  | cons head rest ih =>
    rw [List.splitOn_cons_eq_if_modifyHead]
    by_cases separates : head = separator
    · rw [if_pos (beq_iff_eq.mpr separates)]
      have later := (List.mem_cons.mp member).resolve_left (separates ▸ other)
      obtain ⟨part, inside, found⟩ := ih later
      exact ⟨part, List.mem_cons_of_mem _ inside, found⟩
    · rw [if_neg (mt beq_iff_eq.mp separates)]
      obtain ⟨first, others, parts⟩ :=
        List.exists_cons_of_ne_nil (List.splitOn_ne_nil separator rest)
      rw [parts] at ih ⊢
      rw [List.modifyHead_cons]
      rcases List.mem_cons.mp member with rfl | later
      · exact ⟨_, List.mem_cons_self, List.mem_cons_self⟩
      · obtain ⟨part, inside, found⟩ := ih later
        rcases List.mem_cons.mp inside with rfl | further
        · exact ⟨_, List.mem_cons_self, List.mem_cons_of_mem _ found⟩
        · exact ⟨part, List.mem_cons_of_mem _ further, found⟩

/-- Wherever there is a letter there is a component. -/
theorem components_ne_nil {path : String} {char : Char} (member : char ∈ path.toList)
    (slash : char ≠ '/') (dot : char ≠ '.') : components path ≠ [] := by
  obtain ⟨name, part, inside⟩ := exists_mem_splitOn member slash
  refine List.ne_nil_of_mem (List.mem_filter.mpr ⟨part, ?_⟩)
  refine decide_eq_true ⟨List.ne_nil_of_mem inside, ?_⟩
  rintro rfl
  exact dot (List.mem_singleton.mp inside)

theorem components_of_plain {path : String} {char : Char} (member : char ∈ path.toList)
    (dot : char ≠ '.') (plain : '/' ∉ path.toList) : components path = [path.toList] := by
  rw [components, List.splitOn_eq_singleton plain]
  refine List.filter_eq_self.mpr ?_
  intro name single
  obtain rfl := List.mem_singleton.mp single
  refine decide_eq_true ⟨List.ne_nil_of_mem member, ?_⟩
  intro same
  rw [same] at member
  exact dot (List.mem_singleton.mp member)

/-- A name between two affixes that have letters stays in the directory exactly as long
as it has no slash. -/
theorem directChild_join_iff {label middle suffix : String} (directory : String)
    {first last : Char} {rest : List Char} (begins : label.toList = first :: rest)
    (firstSlash : first ≠ '/') (firstDot : first ≠ '.') (plain : '/' ∉ label.toList)
    (ends : last ∈ suffix.toList) (lastSlash : last ≠ '/') (lastDot : last ≠ '.')
    (plainSuffix : '/' ∉ suffix.toList) :
    DirectChild directory (join directory (label ++ middle ++ suffix)) ↔ '/' ∉ middle.toList := by
  have starts : (label ++ middle ++ suffix).toList =
      first :: (rest ++ middle.toList ++ suffix.toList) := by
    simp [begins]
  have relative : (label ++ middle ++ suffix).toList.head? ≠ some '/' := by
    rw [starts, List.head?_cons]
    exact fun same => firstSlash (Option.some.inj same)
  have child : DirectChild directory (join directory (label ++ middle ++ suffix)) ↔
      ∃ name, components (label ++ middle ++ suffix) = [name] ∧ name ≠ ['.', '.'] := by
    simp only [DirectChild, components_join directory _ relative, List.append_cancel_left_eq]
  rw [child]
  constructor
  · intro child slashed
    obtain ⟨name, single, _⟩ := child
    obtain ⟨before, after, split⟩ := List.append_of_mem slashed
    have parts : label ++ middle ++ suffix =
        (label ++ .ofList before) ++ "/" ++ (.ofList after ++ suffix) := by
      rw [← String.toList_inj]
      simp [split]
    have initial : components (label ++ .ofList before) ≠ [] :=
      components_ne_nil (by simp [begins] : first ∈ _) firstSlash firstDot
    have final : components (.ofList after ++ suffix) ≠ [] :=
      components_ne_nil (by simp [ends] : last ∈ _) lastSlash lastDot
    rw [parts, components_append] at single
    have count := congrArg List.length single
    rw [List.length_append, List.length_singleton] at count
    have := List.length_pos_iff.mpr initial
    have := List.length_pos_iff.mpr final
    omega
  · intro slashless
    have whole : '/' ∉ (label ++ middle ++ suffix).toList := by
      simp [plain, slashless, plainSuffix]
    refine ⟨_, components_of_plain (by simp [starts] : first ∈ _) firstDot whole, ?_⟩
    rw [starts]
    intro dots
    exact firstDot (List.cons_eq_cons.mp dots).1

end Oboobot.Persistence
