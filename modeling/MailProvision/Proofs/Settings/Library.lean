import MailProvision.Proofs.Settings.Building
import MailProvision.Settings.File

/-!
# What the library leaves open

Putting the entries of tables in order keeps them all, and what is found under a key is what was
found there, put in order itself (`get?_arrange`). Keys that are left out do not change the order
of the others (`filter_arrange`). A file is read in the format of its extension, in whatever order
the formats are tried (`File.find_of_extension`).
-/

namespace MailProvision

namespace Settings

namespace Entries

variable {rank : String → Nat} {order : Order} {entry : String × Value} {entries : Entries}
  {key : String}

theorem perm_insert (rank : String → Nat) (entry : String × Value) (entries : Entries) :
    (Entries.insert rank entry entries).Perm (entry :: entries) := by
  induction entries with
  | nil => exact .refl _
  | cons first rest ih =>
      rw [Entries.insert]
      split
      · exact .refl _
      · exact (ih.cons first).trans (.swap entry first rest)

theorem perm_arrange (order : Order) (entries : Entries) :
    (arrange order entries).Perm
      (entries.map fun entry => (entry.1, entry.2.arrange (order.below entry.1))) := by
  induction entries with
  | nil => exact .refl _
  | cons entry rest ih => exact (perm_insert _ _ _).trans (ih.cons _)

theorem perm_keys_arrange (order : Order) (entries : Entries) :
    (keys (arrange order entries)).Perm entries.keys := by
  have same := (perm_arrange order entries).map Prod.fst
  rwa [List.map_map] at same

theorem mem_keys_arrange : key ∈ keys (arrange order entries) ↔ key ∈ entries.keys :=
  (perm_keys_arrange order entries).mem_iff

theorem nodup_keys_arrange (order : Order) (nodup : entries.keys.Nodup) :
    (keys (arrange order entries)).Nodup :=
  (perm_keys_arrange order entries).nodup_iff.mpr nodup

theorem get?_insert (new : entry.1 ∉ entries.keys) (key : String) :
    (Entries.insert rank entry entries).get? key =
      if key = entry.1 then some entry.2 else entries.get? key := by
  induction entries with
  | nil => exact get?_cons entry.1 key entry.2 []
  | cons first rest ih =>
      rw [Entries.insert]
      split
      · exact get?_cons entry.1 key entry.2 (first :: rest)
      · have other : entry.1 ≠ first.1 := fun same => new (same ▸ List.mem_cons_self)
        have later : entry.1 ∉ keys rest := fun member => new (List.mem_cons_of_mem _ member)
        refine (get?_cons first.1 key first.2 _).trans ?_
        rw [ih later, get?_cons first.1 key first.2 rest]
        by_cases same : key = first.1
        · rw [if_pos same, if_pos same, if_neg fun equal => other (equal.symm.trans same)]
        · rw [if_neg same, if_neg same]

/-- Under a key stands what stood there, with its own entries in order. -/
theorem get?_arrange (order : Order) (nodup : entries.keys.Nodup) (key : String) :
    Entries.get? (arrange order entries) key =
      (entries.get? key).map fun value => value.arrange (order.below key) := by
  induction entries with
  | nil => rfl
  | cons entry rest ih =>
      rcases entry with ⟨name, value⟩
      rw [keys_cons, List.nodup_cons] at nodup
      have new : name ∉ keys (arrange order rest) :=
        fun member => nodup.1 (mem_keys_arrange.1 member)
      rw [arrange, get?_insert new, get?_cons, ih nodup.2]
      by_cases same : key = name
      · subst same
        rw [if_pos rfl, if_pos rfl, Option.map_some]
      · rw [if_neg same, if_neg same]

/-! ### The order of some of the keys -/

def Sorted (rank : String → Nat) (entries : Entries) : Prop :=
  entries.Pairwise fun first second => rank first.1 ≤ rank second.1

theorem sorted_insert (sorted : Sorted rank entries) (entry : String × Value) :
    Sorted rank (Entries.insert rank entry entries) := by
  induction entries with
  | nil => exact List.pairwise_singleton _ entry
  | cons first rest ih =>
      have parts := List.pairwise_cons.mp sorted
      rw [Entries.insert]
      split
      · rename_i least
        refine List.pairwise_cons.mpr ⟨fun other member => ?_, sorted⟩
        rcases List.mem_cons.mp member with rfl | member
        · exact least
        · exact Nat.le_trans least (parts.1 other member)
      · rename_i greater
        refine List.pairwise_cons.mpr ⟨fun other member => ?_, ih parts.2⟩
        rcases List.mem_cons.mp ((perm_insert rank entry rest).mem_iff.mp member) with rfl | member
        · omega
        · exact parts.1 other member

theorem sorted_arrange (order : Order) (entries : Entries) :
    Sorted (order []) (arrange order entries) := by
  induction entries with
  | nil => exact List.Pairwise.nil
  | cons entry rest ih => exact sorted_insert ih _

theorem insert_of_least (least : ∀ other ∈ entries, rank entry.1 ≤ rank other.1) :
    Entries.insert rank entry entries = entry :: entries := by
  cases entries with
  | nil => rfl
  | cons first rest => exact if_pos (least first List.mem_cons_self)

theorem filter_insert (sorted : Sorted rank entries) (entry : String × Value)
    (kept : String → Bool) :
    (Entries.insert rank entry entries).filter (fun entry => kept entry.1) =
      if kept entry.1 then Entries.insert rank entry (entries.filter fun entry => kept entry.1)
      else entries.filter fun entry => kept entry.1 := by
  induction entries with
  | nil => exact List.filter_cons
  | cons first rest ih =>
      have parts := List.pairwise_cons.mp sorted
      by_cases least : rank entry.1 ≤ rank first.1
      · -- The new entry comes before all that are there, and so before those that are kept.
        have front : ∀ other ∈ first :: rest, rank entry.1 ≤ rank other.1 := by
          intro other member
          rcases List.mem_cons.mp member with rfl | member
          · exact least
          · exact Nat.le_trans least (parts.1 other member)
        rw [insert_of_least front, insert_of_least fun other member =>
          front other (List.mem_filter.mp member).1]
        exact List.filter_cons
      · cases stays : kept first.1 with
        | true =>
            simp only [Entries.insert, least, List.filter_cons, stays, if_false, if_true,
              ih parts.2]
            split <;> rfl
        | false =>
            simp only [Entries.insert, least, List.filter_cons, stays, if_false, Bool.false_eq_true,
              ih parts.2]

theorem filter_arrange (order : Order) (entries : Entries) (kept : String → Bool) :
    List.filter (fun entry => kept entry.1) (arrange order entries) =
      arrange order (entries.filter fun entry => kept entry.1) := by
  induction entries with
  | nil => rfl
  | cons entry rest ih =>
      rcases entry with ⟨key, value⟩
      rw [arrange, filter_insert (sorted_arrange order rest), ih]
      cases stays : kept key with
      | true =>
          rw [if_pos rfl, List.filter_cons, if_pos stays]
          rfl
      | false =>
          rw [if_neg Bool.false_ne_true, List.filter_cons, if_neg (by simp [stays])]

end Entries

/-! ### Formats -/

theorem Format.mem_all (format : Format) : format ∈ Format.all := by
  rcases format with _ | _ | _ | (_ | _ | _) <;> decide

theorem Format.eq_of_extension {format other : Format} {extension : String}
    (known : extension ∈ format.extensions) (also : extension ∈ other.extensions) :
    other = format := by
  have apart : ∀ format ∈ all, ∀ other ∈ all, ∀ extension ∈ format.extensions,
      extension ∈ other.extensions → other = format := by decide
  exact apart format format.mem_all other other.mem_all extension known also

namespace Library

variable {library : Library} {format : Format} {extension : String}

theorem mem_registered_iff :
    (extension, format) ∈ library.registered ↔ extension ∈ format.extensions := by
  have known := library.complete.mem_iff.mpr format.mem_all
  simp [registered, known]

theorem lookup_registered (known : extension ∈ format.extensions) :
    library.registered.lookup extension = some format := by
  have registered : (extension, format) ∈ library.registered := mem_registered_iff.2 known
  cases found : library.registered.lookup extension with
  | none =>
      have absent := List.lookup_eq_none_iff.mp found (extension, format) registered
      simp at absent
  | some other =>
      rcases List.lookup_eq_some_iff.mp found with ⟨front, back, split, _⟩
      have also : (extension, other) ∈ library.registered := by simp [split]
      rw [Format.eq_of_extension known (mem_registered_iff.1 also)]

end Library

/-- The format of a file is the one of its extension. -/
theorem File.find_of_extension {library : Library} {tree : FileTree} {workingDirectory : Location}
    {path extension : String} {format : Format}
    (stands : tree.isFile workingDirectory (Path.join workingDirectory.toPath path) = true)
    (ends : Path.extension? (Path.join workingDirectory.toPath path) = some extension)
    (known : extension ∈ format.extensions) :
    find library tree workingDirectory path =
      .ok (Path.join workingDirectory.toPath path, format) := by
  simp only [find, stands, if_true, ends, Option.getD_some, Library.lookup_registered known]

end Settings

end MailProvision
