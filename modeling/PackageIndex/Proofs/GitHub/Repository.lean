import PackageIndex.GitHub.Health
import PackageIndex.Proofs.Http.Address
/-!
The repository of a project root: the two names after that of the code host, if both are there.
-/
namespace PackageIndex

namespace Text

/-- The first piece of a text is all of it, or ends at the first mark. -/
theorem splitOn_eq_cons {sep : Char} {cs piece : List Char} {pieces : List (List Char)}
    (h : cs.splitOn sep = piece :: pieces) :
    sep ∉ piece ∧ (pieces = [] ∧ cs = piece ∨
      ∃ rest, cs = piece ++ sep :: rest ∧ pieces = rest.splitOn sep) := by
  by_cases hmem : sep ∈ cs
  · obtain ⟨first, rest, rfl, hfirst⟩ := List.eq_append_cons_of_mem hmem
    rw [List.splitOn_append_cons_self_of_not_mem hfirst] at h
    cases h
    exact ⟨hfirst, .inr ⟨rest, rfl, rfl⟩⟩
  · rw [List.splitOn_eq_singleton hmem] at h
    cases h
    exact ⟨hmem, .inl ⟨rfl, rfl⟩⟩

end Text

namespace GitHub.Health

/-- A project root is the repository of an owner, or lies below it. -/
structure InRepository (root owner repository : String) : Prop where
  named : owner ≠ "" ∧ repository ≠ ""
  whole : '/' ∉ owner.toList ∧ '/' ∉ repository.toList
  root : root = "github.com/" ++ owner ++ "/" ++ repository ∨
    ∃ rest, root = "github.com/" ++ owner ++ "/" ++ repository ++ "/" ++ rest

variable {root owner repository slug : String}

theorem slug?_of_pieces {cs first second : List Char} {more : List (List Char)}
    (hroot : root.toList = "github.com/".toList ++ cs)
    (hpieces : cs.splitOn '/' = first :: second :: more) (hfirst : first ≠ [])
    (hsecond : second ≠ []) : slug? root = some (String.ofList (first ++ '/' :: second)) := by
  have hprefix : "github.com/".toList.isPrefixOf root.toList = true := by
    rw [hroot, List.isPrefixOf_iff_prefix]
    exact List.prefix_append _ _
  have hrest : root.toList.drop "github.com/".toList.length = cs := by
    rw [hroot, List.drop_left]
  simp only [slug?, hprefix, ite_true, hrest, Text.splitAt_eq_splitOn, hpieces, hfirst, hsecond,
    or_self, ite_false]

theorem pieces_of_slug? (h : slug? root = some slug) :
    ∃ cs first second more, root.toList = "github.com/".toList ++ cs ∧
      cs.splitOn '/' = first :: second :: more ∧ first ≠ [] ∧ second ≠ [] ∧
      slug = String.ofList (first ++ '/' :: second) := by
  simp only [slug?, Text.splitAt_eq_splitOn] at h
  split at h
  next hprefix =>
    obtain ⟨cs, hroot⟩ := List.isPrefixOf_iff_prefix.mp hprefix
    rw [← hroot, List.drop_left] at h
    split at h
    next first second more hpieces =>
      split at h
      · cases h
      next hempty =>
        rw [not_or] at hempty
        exact ⟨cs, first, second, more, hroot.symm, hpieces, hempty.1, hempty.2,
          (Option.some.inj h).symm⟩
    next => cases h
  next => cases h

theorem slug?_of_inRepository (h : InRepository root owner repository) :
    slug? root = some (owner ++ "/" ++ repository) := by
  obtain ⟨⟨howner, hrepository⟩, ⟨hfirst, hsecond⟩, hroot⟩ := h
  have hslug : owner ++ "/" ++ repository =
      String.ofList (owner.toList ++ '/' :: repository.toList) := by
    simp [← String.toList_inj]
  rw [hslug]
  have howner' : owner.toList ≠ [] := by simpa using howner
  have hrepository' : repository.toList ≠ [] := by simpa using hrepository
  rcases hroot with rfl | ⟨rest, rfl⟩
  · have hpieces : (owner.toList ++ '/' :: repository.toList).splitOn '/' =
        [owner.toList, repository.toList] := by
      rw [List.splitOn_append_cons_self_of_not_mem hfirst, List.splitOn_eq_singleton hsecond]
    exact slug?_of_pieces (by simp) hpieces howner' hrepository'
  · have hpieces :
        (owner.toList ++ '/' :: (repository.toList ++ '/' :: rest.toList)).splitOn '/' =
          owner.toList :: repository.toList :: rest.toList.splitOn '/' := by
      rw [List.splitOn_append_cons_self_of_not_mem hfirst,
        List.splitOn_append_cons_self_of_not_mem hsecond]
    exact slug?_of_pieces (by simp) hpieces howner' hrepository'

theorem exists_inRepository (h : slug? root = some slug) :
    ∃ owner repository, InRepository root owner repository ∧
      slug = owner ++ "/" ++ repository := by
  obtain ⟨cs, first, second, more, hroot, hpieces, hfirst, hsecond, rfl⟩ := pieces_of_slug? h
  obtain ⟨hwhole, ⟨hnone, _⟩ | ⟨rest, rfl, hrest⟩⟩ := Text.splitOn_eq_cons hpieces
  · cases hnone
  obtain ⟨hwhole', hmore⟩ := Text.splitOn_eq_cons hrest.symm
  refine ⟨String.ofList first, String.ofList second, ⟨⟨by simpa, by simpa⟩, by simp_all, ?_⟩,
    by simp [← String.toList_inj]⟩
  rcases hmore with ⟨_, rfl⟩ | ⟨rest', rfl, _⟩
  · exact .inl (by simp [← String.toList_inj, hroot])
  · exact .inr ⟨String.ofList rest', by simp [← String.toList_inj, hroot]⟩

theorem slug?_eq_some_iff : slug? root = some slug ↔
    ∃ owner repository, InRepository root owner repository ∧
      slug = owner ++ "/" ++ repository := by
  constructor
  · exact exists_inRepository
  · rintro ⟨owner, repository, h, rfl⟩
    exact slug?_of_inRepository h

end GitHub.Health

end PackageIndex
