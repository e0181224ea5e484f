import MailProvision.Proofs.Files.Entries

/-!
# Where paths lead

A path that leads to a directory passes through directories only, so where it leads depends on
nothing but the directories of the tree. That is why staging, committing and discarding files never
change where any path leads: they put files into a tree and take files out of it.

Where a path leads, if it leads anywhere, can be told from its text alone (`Location.follow`); the
tree only decides whether it does.
-/

namespace MailProvision

namespace Location

/-- Where one step leads if nothing is missing. -/
def next (location : Location) (name : String) : Location :=
  if name = "." then location
  else if name = ".." then location.dropLast
  else location ++ [.text name]

/-- Where steps lead if nothing is missing. -/
def follow (location : Location) (names : List String) : Location :=
  names.foldl next location

@[simp]
theorem follow_nil (location : Location) : location.follow [] = location :=
  rfl

@[simp]
theorem follow_cons (location : Location) (name : String) (rest : List String) :
    location.follow (name :: rest) = (location.next name).follow rest :=
  rfl

theorem prefix_next {location : Location} {name : String} (downward : name ≠ "..") :
    location <+: location.next name := by
  simp only [next]
  rw [if_neg downward]
  split
  · exact List.prefix_rfl
  · exact List.prefix_append location _

theorem prefix_follow {location : Location} {names : List String} (downward : ".." ∉ names) :
    location <+: location.follow names := by
  induction names generalizing location with
  | nil => exact List.prefix_rfl
  | cons name rest ih =>
      simp only [List.mem_cons, not_or] at downward
      rcases downward with ⟨first, later⟩
      exact (prefix_next (Ne.symm first)).trans (ih later)

end Location

namespace FileTree

/-- Two trees with the same directories. -/
def SameDirectories (tree other : FileTree) : Prop :=
  ∀ location, tree.isDirectoryAt location = other.isDirectoryAt location

/-- A directory stands at a location and at every location above it. -/
def Rooted (tree : FileTree) (location : Location) : Prop :=
  ∀ above, above <+: location → tree.isDirectoryAt above = true

namespace SameDirectories

theorem refl (tree : FileTree) : tree.SameDirectories tree :=
  fun _ => rfl

theorem symm {tree other : FileTree} (same : tree.SameDirectories other) :
    other.SameDirectories tree :=
  fun location => (same location).symm

theorem trans {first second third : FileTree} (left : first.SameDirectories second)
    (right : second.SameDirectories third) : first.SameDirectories third :=
  fun location => (left location).trans (right location)

/-- A file put where no directory stands. -/
theorem insert_file {tree : FileTree} {location : Location}
    (free : tree.isDirectoryAt location = false) (mode : Nat) (content : List UInt8) :
    tree.SameDirectories (tree.insert location (.file mode content)) := by
  intro other
  by_cases same : other = location ∧ other ≠ []
  · rcases same with ⟨rfl, proper⟩
    rw [free]
    simp [isDirectoryAt, proper]
  · simp [isDirectoryAt, get?_insert, same]

/-- A location cleared where no directory stands. -/
theorem erase {tree : FileTree} {location : Location}
    (free : tree.isDirectoryAt location = false) :
    tree.SameDirectories (tree.erase location) := by
  intro other
  by_cases same : other = location ∧ other ≠ []
  · rcases same with ⟨rfl, proper⟩
    rw [free]
    simp [isDirectoryAt, proper]
  · simp [isDirectoryAt, get?_erase, same]

end SameDirectories

theorem Rooted.isDirectoryAt {tree : FileTree} {location : Location}
    (rooted : tree.Rooted location) : tree.isDirectoryAt location = true :=
  rooted location List.prefix_rfl

theorem rooted_root (tree : FileTree) : tree.Rooted [] := by
  intro above isAbove
  simp [List.prefix_nil.mp isAbove, FileTree.isDirectoryAt]

theorem Rooted.of_sameDirectories {tree other : FileTree} {location : Location}
    (rooted : tree.Rooted location) (same : tree.SameDirectories other) :
    other.Rooted location := by
  intro above isAbove
  rw [← same]
  exact rooted above isAbove

theorem Rooted.dropLast {tree : FileTree} {location : Location} (rooted : tree.Rooted location) :
    tree.Rooted location.dropLast :=
  fun above isAbove => rooted above (isAbove.trans (List.dropLast_prefix location))

theorem Rooted.append {tree : FileTree} {location : Location} {name : Name}
    (rooted : tree.Rooted location) (directory : tree.isDirectoryAt (location ++ [name]) = true) :
    tree.Rooted (location ++ [name]) := by
  intro above isAbove
  rcases List.prefix_concat_iff.mp isAbove with whole | isAbove
  · rw [whole]
    exact directory
  · exact rooted above isAbove

/-- A step that succeeds starts in a directory and leads where its name says. -/
theorem step_ok_iff {tree : FileTree} {location next : Location} {name : String} :
    tree.step location name = .ok next ↔
      tree.isDirectoryAt location = true ∧ next = location.next name ∧
        (name = "." ∨ name = ".." ∨
          name.utf8ByteSize ≤ nameLimit ∧ (tree.get? next).isSome = true) := by
  simp only [step, Location.next]
  cases entry : tree.get? location with
  | none => simp [isDirectoryAt, entry]
  | some found =>
      cases found with
      | file mode content => simp [isDirectoryAt, entry]
      | directory =>
          simp only [isDirectoryAt, entry, decide_true, true_and]
          by_cases here : name = "."
          · simp only [here, if_true, Except.ok.injEq, true_or, and_true]
            exact eq_comm
          · by_cases up : name = ".."
            · subst name
              simp only [here, if_true, if_false, Except.ok.injEq, true_or, or_true, and_true]
              exact eq_comm
            · by_cases long : nameLimit < name.utf8ByteSize
              · simp [here, up, long, Nat.not_le.mpr long]
              · simp only [here, up, long, if_false, false_or, Nat.not_lt.mp long, true_and]
                cases below : tree.get? (location ++ [.text name]) with
                | none =>
                    simp only [reduceCtorEq, false_iff]
                    rintro ⟨rfl, found⟩
                    simp [below] at found
                | some found =>
                    simp only [Except.ok.injEq]
                    constructor
                    · rintro rfl
                      exact ⟨rfl, by simp [below]⟩
                    · rintro ⟨rfl, _⟩
                      rfl

@[simp]
theorem walk_nil (tree : FileTree) (location : Location) :
    tree.walk location [] = .ok location :=
  rfl

theorem walk_cons_ok_iff {tree : FileTree} {location final : Location} {name : String}
    {rest : List String} :
    tree.walk location (name :: rest) = .ok final ↔
      tree.step location name = .ok (location.next name) ∧
        tree.walk (location.next name) rest = .ok final := by
  rw [walk]
  cases stepped : tree.step location name with
  | error fault => simp
  | ok next =>
      obtain ⟨_, rfl, _⟩ := step_ok_iff.1 stepped
      simp

theorem walk_append_ok_iff {tree : FileTree} {location final : Location}
    {names rest : List String} :
    tree.walk location (names ++ rest) = .ok final ↔
      tree.walk location names = .ok (location.follow names) ∧
        tree.walk (location.follow names) rest = .ok final := by
  induction names generalizing location with
  | nil => simp
  | cons name names ih => simp only [List.cons_append, walk_cons_ok_iff, ih,
      Location.follow_cons, and_assoc]

/-- A walk that succeeds leads where its text says. -/
theorem walk_eq_follow {tree : FileTree} {location final : Location} {names : List String}
    (walked : tree.walk location names = .ok final) : final = location.follow names := by
  induction names generalizing location with
  | nil => simpa [eq_comm] using walked
  | cons name rest ih => exact ih (walk_cons_ok_iff.1 walked).2

theorem isDirectoryAt_of_walk {tree : FileTree} {location final : Location} {names : List String}
    (walked : tree.walk location names = .ok final)
    (directory : tree.isDirectoryAt final = true) : tree.isDirectoryAt location = true := by
  cases names with
  | nil =>
      simp only [walk_nil, Except.ok.injEq] at walked
      rw [walked]
      exact directory
  | cons name rest => exact (step_ok_iff.1 (walk_cons_ok_iff.1 walked).1).1

/-- A walk to a directory succeeds in every tree that has the same directories. -/
theorem walk_of_sameDirectories {tree other : FileTree} (same : tree.SameDirectories other)
    {location final : Location} {names : List String}
    (walked : tree.walk location names = .ok final)
    (directory : tree.isDirectoryAt final = true) : other.walk location names = .ok final := by
  induction names generalizing location with
  | nil => exact walked
  | cons name rest ih =>
      rcases walk_cons_ok_iff.1 walked with ⟨stepped, onward⟩
      rcases step_ok_iff.1 stepped with ⟨start, _, shape⟩
      have arrived : other.isDirectoryAt (location.next name) = true := by
        rw [← same]
        exact isDirectoryAt_of_walk onward directory
      apply walk_cons_ok_iff.2
      refine ⟨step_ok_iff.2 ⟨?_, rfl, ?_⟩, ih onward⟩
      · rw [← same]
        exact start
      · rcases shape with here | up | ⟨short, _⟩
        · exact .inl here
        · exact .inr (.inl up)
        · exact .inr (.inr ⟨short, by simp [isDirectoryAt_iff.1 arrived]⟩)

/-- A walk that starts where everything above stands ends where everything above stands. -/
theorem rooted_of_walk {tree : FileTree} {location final : Location} {names : List String}
    (rooted : tree.Rooted location) (walked : tree.walk location names = .ok final)
    (directory : tree.isDirectoryAt final = true) : tree.Rooted final := by
  induction names generalizing location with
  | nil =>
      simp only [walk_nil, Except.ok.injEq] at walked
      rwa [← walked]
  | cons name rest ih =>
      rcases walk_cons_ok_iff.1 walked with ⟨stepped, onward⟩
      have arrived := isDirectoryAt_of_walk onward directory
      apply ih _ onward
      simp only [Location.next] at arrived ⊢
      split
      · exact rooted
      · split
        · exact rooted.dropLast
        · simp_all [rooted.append]

/-- A walk without upward steps only needs the directories on the way to its end. -/
theorem walk_of_rooted {tree other : FileTree} {location final : Location} {names : List String}
    (downward : ".." ∉ names) (walked : tree.walk location names = .ok final)
    (rooted : other.Rooted final) : other.walk location names = .ok final := by
  have final_eq := walk_eq_follow walked
  induction names generalizing location with
  | nil => exact walked
  | cons name rest ih =>
      simp only [List.mem_cons, not_or] at downward
      rcases walk_cons_ok_iff.1 walked with ⟨stepped, onward⟩
      rcases step_ok_iff.1 stepped with ⟨_, _, shape⟩
      have arrived : location.next name <+: final := by
        rw [final_eq]
        exact Location.prefix_follow downward.2
      have start : location <+: final :=
        (Location.prefix_next (Ne.symm downward.1)).trans arrived
      apply walk_cons_ok_iff.2
      refine ⟨step_ok_iff.2 ⟨rooted _ start, rfl, ?_⟩, ih downward.2 onward final_eq⟩
      rcases shape with here | up | ⟨short, _⟩
      · exact .inl here
      · exact .inr (.inl up)
      · exact .inr (.inr ⟨short, by simp [isDirectoryAt_iff.1 (rooted _ arrived)]⟩)

end FileTree

end MailProvision
