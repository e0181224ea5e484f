import MailProvision.Files.Tree

/-!
# Looking up entries

What `get?` sees of a tree after each of the operations that change it. Everything about file trees
that follows is said in terms of `get?` alone, apart from a few equalities of trees: putting a
temporary file into a tree and taking it out again gives back the very same tree.
-/

namespace MailProvision

theorem lookup_filter_key {Key Value : Type} [BEq Key] [LawfulBEq Key] (keep : Key → Bool)
    (items : List (Key × Value)) (key : Key) :
    (items.filter fun item => keep item.1).lookup key =
      if keep key then items.lookup key else none := by
  induction items with
  | nil => simp
  | cons item rest ih =>
      rcases item with ⟨first, value⟩
      by_cases same : key = first
      · subst first
        by_cases kept : keep key
        · simp [kept]
        · simp [kept, ih]
      · have different : (key == first) = false := beq_eq_false_iff_ne.mpr same
        by_cases kept : keep first
        · simp [kept, List.lookup_cons, different, ih]
        · simp [kept, List.lookup_cons, different, ih]

namespace FileTree

@[simp]
theorem get?_root (tree : FileTree) : tree.get? [] = some .directory := by
  simp [get?]

theorem get?_erase (tree : FileTree) (location other : Location) :
    (tree.erase location).get? other =
      if other = location ∧ other ≠ [] then none else tree.get? other := by
  by_cases root : other = []
  · simp [get?, root]
  · have kept := lookup_filter_key (fun key => decide (key ≠ location)) tree.entries other
    simp only [get?, root, if_false, erase, kept]
    by_cases same : other = location
    · subst other
      simp [root]
    · simp [same]

@[simp]
theorem get?_erase_self {location : Location} (proper : location ≠ []) (tree : FileTree) :
    (tree.erase location).get? location = none := by
  simp [get?_erase, proper]

theorem get?_erase_of_ne {location other : Location} (different : other ≠ location)
    (tree : FileTree) : (tree.erase location).get? other = tree.get? other := by
  simp [get?_erase, different]

theorem get?_insert (tree : FileTree) (location other : Location) (entry : Entry) :
    (tree.insert location entry).get? other =
      if other = location ∧ other ≠ [] then some entry else tree.get? other := by
  by_cases root : other = []
  · simp [get?, root]
  · have erased := get?_erase tree location other
    simp only [get?, root, if_false] at erased
    simp only [get?, root, if_false, insert, List.lookup_append, erased]
    by_cases same : other = location
    · subst other
      simp [root]
    · have different : (other == location) = false := beq_eq_false_iff_ne.mpr same
      simp [same, List.lookup_cons, different]

theorem get?_insert_proper {location : Location} (proper : location ≠ []) (tree : FileTree)
    (other : Location) (entry : Entry) :
    (tree.insert location entry).get? other =
      if other = location then some entry else tree.get? other := by
  rw [get?_insert]
  by_cases same : other = location
  · subst other
    simp [proper]
  · simp [same]

@[simp]
theorem get?_insert_self {location : Location} (proper : location ≠ []) (tree : FileTree)
    (entry : Entry) : (tree.insert location entry).get? location = some entry := by
  simp [get?_insert, proper]

theorem get?_insert_of_ne {location other : Location} (different : other ≠ location)
    (tree : FileTree) (entry : Entry) :
    (tree.insert location entry).get? other = tree.get? other := by
  simp [get?_insert, different]

theorem get?_eraseBelow (tree : FileTree) (location other : Location) :
    (tree.eraseBelow location).get? other =
      if location <+: other ∧ other ≠ location then none else tree.get? other := by
  by_cases root : other = []
  · subst other
    have shadow : ¬(location <+: [] ∧ [] ≠ location) := by
      rintro ⟨isBelow, proper⟩
      exact proper (List.prefix_nil.mp isBelow).symm
    simp only [get?_root, if_neg shadow]
  · have kept := lookup_filter_key
      (fun key => decide (key = location) || !location.isPrefixOf key) tree.entries other
    simp only [get?, root, if_false, eraseBelow, kept]
    by_cases same : other = location
    · simp [same]
    · by_cases isBelow : location <+: other
      · simp [same, isBelow, List.isPrefixOf_iff_prefix.mpr isBelow]
      · have apart : location.isPrefixOf other = false := by
          simpa [← List.isPrefixOf_iff_prefix] using isBelow
        simp [isBelow, apart]

theorem isDirectoryAt_iff {tree : FileTree} {location : Location} :
    tree.isDirectoryAt location = true ↔ tree.get? location = some .directory := by
  simp [isDirectoryAt]

/-- No item of the tree is at a location where nothing is found. -/
theorem ne_of_mem_entries {tree : FileTree} {location : Location} {item : Location × Entry}
    (proper : location ≠ []) (absent : tree.get? location = none) (mem : item ∈ tree.entries) :
    item.1 ≠ location := by
  simp only [get?, proper, if_false, List.lookup_eq_none_iff] at absent
  have unequal := absent item mem
  intro same
  simp [same] at unequal

theorem erase_of_absent {tree : FileTree} {location : Location} (proper : location ≠ [])
    (absent : tree.get? location = none) : tree.erase location = tree := by
  have kept : (tree.entries.filter fun item => item.1 ≠ location) = tree.entries := by
    apply List.filter_eq_self.mpr
    intro item mem
    simpa using ne_of_mem_entries proper absent mem
  simp only [erase, kept]

/-- What is put in and taken out again leaves no trace if nothing was there. -/
theorem erase_insert {tree : FileTree} {location : Location} (proper : location ≠ [])
    (absent : tree.get? location = none) (entry : Entry) :
    (tree.insert location entry).erase location = tree := by
  have same := erase_of_absent proper absent
  simp only [erase] at same
  have entries := congrArg FileTree.entries same
  simp_all [insert, erase, List.filter_append]

theorem erase_insert_of_ne {location other : Location} (different : other ≠ location)
    (tree : FileTree) (entry : Entry) :
    (tree.insert location entry).erase other = (tree.erase other).insert location entry := by
  simp only [insert, erase, List.filter_append, List.filter_filter, FileTree.mk.injEq]
  congr 1
  · apply List.filter_congr
    intro item _
    simp [Bool.and_comm]
  · simp [Ne.symm different]

@[simp]
theorem insert_insert (tree : FileTree) (location : Location) (before after : Entry) :
    (tree.insert location before).insert location after = tree.insert location after := by
  simp [insert, erase, List.filter_append, List.filter_filter]

theorem setContent_insert {location : Location} (proper : location ≠ []) (tree : FileTree)
    (mode : Nat) (before content : List UInt8) :
    (tree.insert location (.file mode before)).setContent location content =
      tree.insert location (.file mode content) := by
  simp [setContent, proper]

theorem setMode_insert {location : Location} (proper : location ≠ []) (tree : FileTree)
    (before mode : Nat) (content : List UInt8) :
    (tree.insert location (.file before content)).setMode location mode =
      tree.insert location (.file mode content) := by
  simp [setMode, proper]

end FileTree

end MailProvision
