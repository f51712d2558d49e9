import Mathlib.Data.List.Nodup

/-! Depth-first walks over names. A walk keeps one list of the names it has been to, which all its
branches share. What it is done with is closed: a name that it is not below any more comes with all
names next to it.
-/

namespace SolidityAtlas

/-- `DepthFirst next seen pending result`: the walk takes the names in `pending` one after another;
each one that is not in `seen` yet is added, followed by a walk over what comes next from it, and
the walk ends with `result`. A derivation is finite, so a walk that has one comes to an end.
-/
inductive DepthFirst (next : String → List String)
    : List String → List String → List String → Prop
  | done {seen} : DepthFirst next seen [] seen
  | known {seen name pending result} (old : name ∈ seen)
    (rest : DepthFirst next seen pending result)
    : DepthFirst next seen (name :: pending) result
  | visit {seen name pending below result} (new : name ∉ seen)
    (sub : DepthFirst next (seen ++ [name]) (next name) below)
    (rest : DepthFirst next below pending result)
    : DepthFirst next seen (name :: pending) result

variable {next : String → List String} {path seen pending result other : List String}
  {name : String}

namespace DepthFirst

/-- A walk keeps what it has been to before. -/
theorem isPrefix (walk : DepthFirst next seen pending result) : seen <+: result := by
  induction walk with
  | done => exact List.prefix_rfl
  | known _ _ ih => exact ih
  | visit _ _ _ subKeeps restKeeps =>
      exact ((List.prefix_append _ _).trans subKeeps).trans restKeeps

/-- A walk comes to no name twice. -/
theorem nodup (walk : DepthFirst next seen pending result) (distinct : seen.Nodup)
    : result.Nodup := by
  induction walk with
  | done => exact distinct
  | known _ _ ih => exact ih distinct
  | visit new _ _ subDistinct restDistinct =>
      exact restDistinct (subDistinct (by simpa using List.Nodup.concat new distinct))

/-- A walk comes to all names it is to take. -/
theorem pending_subset (walk : DepthFirst next seen pending result) : pending ⊆ result := by
  induction walk with
  | done => exact List.nil_subset _
  | known old rest ih => exact List.cons_subset.mpr ⟨rest.isPrefix.subset old, ih⟩
  | visit _ sub rest _ ih =>
      refine List.cons_subset.mpr ⟨rest.isPrefix.subset (sub.isPrefix.subset ?_), ih⟩
      exact List.mem_append_right _ List.mem_cons_self

/-- What a walk comes to anew comes with all that is next to it, by induction on the walk. -/
theorem closed (walk : DepthFirst next seen pending result) (member : name ∈ result)
    : name ∈ seen ∨ next name ⊆ result := by
  induction walk with
  | done => exact .inl member
  | known _ _ ih => exact ih member
  | visit _ sub rest subClosed restClosed =>
      rcases restClosed member with middle | whole
      · rcases subClosed middle with old | whole
        · rcases List.mem_append.mp old with old | same
          · exact .inl old
          · obtain rfl := List.mem_singleton.mp same
            exact .inr (List.Subset.trans sub.pending_subset rest.isPrefix.subset)
        · exact .inr (List.Subset.trans whole rest.isPrefix.subset)
      · exact .inr whole

/-- Two walks over the same names end with the same list, by induction on the first one. -/
theorem unique (walk : DepthFirst next seen pending result)
    (again : DepthFirst next seen pending other)
    : result = other := by
  induction walk generalizing other with
  | done =>
      cases again
      rfl
  | known old _ ih =>
      cases again with
      | known _ rest => exact ih rest
      | visit new _ _ => exact absurd old new
  | visit new _ _ subUnique restUnique =>
      cases again with
      | known old _ => exact absurd old new
      | visit _ sub rest =>
          obtain rfl := subUnique sub
          exact restUnique rest

end DepthFirst

/-- The names of a list are settled apart from those on a path: the list has the path, and with any
other name all that is next to it.
-/
structure Settled (next : String → List String) (path seen : List String) : Prop where
  onPath : path ⊆ seen
  closed : ∀ name ∈ seen, name ∉ path → next name ⊆ seen

/-- A name that is added to the list and to the path leaves the others settled. -/
theorem Settled.enter (settled : Settled next path seen)
    : Settled next (name :: path) (seen ++ [name]) where
  onPath := List.cons_subset.mpr ⟨by simp, List.subset_append_of_subset_left _ settled.onPath⟩
  closed := by
    intro other member away
    rw [List.mem_cons, not_or] at away
    rcases List.mem_append.mp member with old | same
    · exact List.subset_append_of_subset_left _ (settled.closed other old away.2)
    · exact absurd (List.mem_singleton.mp same) away.1

/-- A walk settles everything it comes to. -/
theorem DepthFirst.settled (walk : DepthFirst next seen pending result)
    (settled : Settled next path seen)
    : Settled next path result where
  onPath := List.Subset.trans settled.onPath walk.isPrefix.subset
  closed := by
    intro name member away
    rcases walk.closed member with old | whole
    · exact List.Subset.trans (settled.closed name old away) walk.isPrefix.subset
    · exact whole

end SolidityAtlas
