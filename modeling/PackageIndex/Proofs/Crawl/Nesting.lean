import PackageIndex.Proofs.Catalog.Readable
import PackageIndex.Proofs.Crawl.Transition
/-!
Packages nested below another one. However a package is read, the paths that are listed with it are
the stored ones that consist of its path, a slash and any rest; they stand in the order of their
bytes and each of them once. What lies below a nested path lies below the outer one, too, and the
request that refreshes a package tells whether anything does.
-/
namespace PackageIndex

namespace Catalog

/-- The catalog hands out the package of a path, asked for it or for the package that is due
first. -/
inductive Reports (c : Catalog) : String → Entry → Prop
  | byPath {path : String} {entry : Entry} : c.get path = .ok (some entry) → Reports c path entry
  | mostOverdue {entry : Entry} :
      c.mostOverdue = .ok (some entry) → Reports c entry.record.importPath entry

/-- All that is stored below a path, in the order of the bytes. What only starts with the same
characters is not among it. -/
structure Nests (c : Catalog) (path : String) (subs : List String) : Prop where
  mem_iff : ∀ sub, sub ∈ subs ↔ (∃ row, c.packages.find? sub = some row) ∧ LiesBelow path sub
  ascending : subs.Pairwise fun sub sub' => Text.bytes sub < Text.bytes sub'
  not_mem : ∀ rest, (∀ rest', rest ≠ "/" ++ rest') → path ++ rest ∉ subs

variable {c : Catalog} {path p q r : String} {row : PackageRow} {entry : Entry} {record : Record}

theorem liesBelow_append_iff {rest : String} :
    LiesBelow path (path ++ rest) ↔ ∃ rest', rest = "/" ++ rest' := by
  simp only [LiesBelow, ← String.toList_inj, String.toList_append, List.append_assoc,
    List.append_cancel_left_eq]

theorem LiesBelow.trans (h : LiesBelow p q) (h' : LiesBelow q r) : LiesBelow p r := by
  obtain ⟨rest, rfl⟩ := h
  obtain ⟨rest', rfl⟩ := h'
  exact ⟨rest ++ "/" ++ rest', by simp only [String.append_assoc]⟩

theorem mem_subdirs_iff {sub : String} :
    sub ∈ c.subdirs path ↔
      (∃ row, c.packages.find? sub = some row) ∧ '\x00' ∉ path.toList ∧ LiesBelow path sub := by
  rw [subdirs, List.mem_filter, Table.mem_keys_iff, isBelow_iff]

theorem mem_subdirs_trans (hq : q ∈ c.subdirs p) (hr : r ∈ c.subdirs q) : r ∈ c.subdirs p := by
  rw [mem_subdirs_iff] at *
  exact ⟨hr.1, hq.2.1, hq.2.2.trans hr.2.2⟩

theorem nests_subdirs (h : '\x00' ∉ path.toList) : c.Nests path (c.subdirs path) where
  mem_iff sub := by
    rw [mem_subdirs_iff]
    exact and_congr_right' (and_iff_right h)
  ascending := (c.packages.keys_ascending.filter _).imp Text.lt_iff_bytes_lt.mp
  not_mem rest hrest hmem := by
    obtain ⟨rest', heq⟩ := liesBelow_append_iff.mp (mem_subdirs_iff.mp hmem).2.2
    exact hrest rest' heq

theorem mostOverdue_of_first (hfirst : c.packages.First (·.nextCrawl) path row)
    (hread : row.record? path = some record) : c.mostOverdue = .ok (some (c.entry record)) := by
  rw [← mostOverdueRow?_eq_some_iff] at hfirst
  simp only [mostOverdue, hfirst, hread]

theorem exists_first_of_mostOverdue (h : c.mostOverdue = .ok (some entry)) :
    ∃ path row record, c.packages.First (·.nextCrawl) path row ∧
      row.record? path = some record ∧ entry = c.entry record := by
  rw [mostOverdue] at h
  cases hrow : c.mostOverdueRow? with
  | none => simp [hrow] at h
  | some found =>
      obtain ⟨path, row⟩ := found
      cases hread : row.record? path with
      | none => simp [hrow, hread] at h
      | some record =>
          simp only [hrow, hread, Except.ok.injEq, Option.some.injEq] at h
          exact ⟨path, row, record, mostOverdueRow?_eq_some_iff.mp hrow, hread, h.symm⟩

theorem Reports.subdirs_eq (h : c.Reports path entry) : entry.subdirs = c.subdirs path := by
  cases h with
  | byPath hget =>
      obtain ⟨row, record, -, hread, rfl⟩ := get_eq_some_iff.mp hget
      exact congrArg c.subdirs (record?_fields hread).1
  | mostOverdue hmost =>
      obtain ⟨_, _, record, -, -, rfl⟩ := exists_first_of_mostOverdue hmost
      rfl

end Catalog

namespace Crawl

variable {settings : CrawlSettings} {fetch : Fetcher} {faults later : CatalogFaults}
variable {clock now : Instant} {c : Catalog}

theorem Transition.asksAbout_of_refresh {result : Result} {request : FetchRequest}
    (h : Transition settings fetch faults later clock now c result)
    (hasked : result.asked = some request) (hreason : request.reason = .refresh) :
    ∃ r, AsksAbout c r request := by
  cases h with
  | new => cases hasked; cases hreason
  | refresh _ _ _ _ _ _ hasks _ => cases hasked; exact ⟨_, hasks⟩
  | notPopped | notSearched | empty | unreadable | notDue => cases hasked

end Crawl

namespace Catalog

/-- Of every package that can be read and has no NUL in its path, both readings list exactly what is
stored below it, in order and each path once. Nesting is transitive, and whoever asks for the
refresh of a package says that something is stored below it if and only if that is so. -/
theorem nested_paths_are_reported (c : Catalog) :
    (∀ path entry, c.Reports path entry → '\x00' ∉ path.toList → c.Nests path entry.subdirs) ∧
    (∀ path row record, c.packages.find? path = some row → row.record? path = some record →
      ∃ subs, c.get path = .ok (some ⟨record, subs⟩) ∧
        (c.packages.First (·.nextCrawl) path row → c.mostOverdue = .ok (some ⟨record, subs⟩))) ∧
    (∀ p q entry entry', c.Reports p entry → c.Reports q entry' → q ∈ entry.subdirs →
      ∀ r ∈ entry'.subdirs, r ∈ entry.subdirs) ∧
    ∀ (settings : CrawlSettings) (fetch : Fetcher) (faults later : CatalogFaults)
      (clock now : Instant) (request : FetchRequest),
      (Crawl.run settings fetch faults later clock now c).asked = some request →
      request.reason = .refresh → '\x00' ∉ request.importPath.toList →
      (request.hasSubdirs = true ↔ c.HasBelow request.importPath) := by
  refine ⟨?_, ?_, ?_, ?_⟩
  · intro path entry hreports hnul
    rw [hreports.subdirs_eq]
    exact nests_subdirs hnul
  · intro path row record hrow hread
    exact ⟨c.subdirs record.importPath, get_eq_some_iff.mpr ⟨row, record, hrow, hread, rfl⟩,
      fun hfirst => mostOverdue_of_first hfirst hread⟩
  · intro p q entry entry' hp hq hmem r hr
    rw [hp.subdirs_eq] at hmem ⊢
    rw [hq.subdirs_eq] at hr
    exact mem_subdirs_trans hmem hr
  · intro settings fetch faults later clock now request hasked hreason hnul
    obtain ⟨r, hasks⟩ :=
      (Crawl.transition_iff_eq_run.mpr rfl).asksAbout_of_refresh hasked hreason
    rw [hasks.importPath] at hnul ⊢
    rw [hasks.hasSubdirs]
    exact and_iff_right hnul

/-- A path of more bytes than characters, two paths below it, and one that only starts as it. -/
def accented : Catalog :=
  ["é", "é/ü", "é/ü/", "éü/x"].foldl
    (fun c path => c.putDocument { importPath := path, projectRoot := "é" } none false) {}

/-- The request that refreshes the outermost path. -/
def accentedRequest : FetchRequest :=
  { importPath := "é", reason := .refresh
    prior := some { importPath := "é", projectRoot := "é" }
    hasSubdirs := true, priorCrawl := some .epoch }

theorem accented_path_has_two_below :
    (∃ entry, accented.Reports "é" entry ∧ entry.subdirs = ["é/ü", "é/ü/"] ∧
      accented.Nests "é" entry.subdirs) ∧
    (Crawl.run {} (fun _ => .ok none) (fun _ => none) (fun _ => none) .epoch .epoch
      accented).asked = some accentedRequest ∧ accented.HasBelow accentedRequest.importPath := by
  obtain ⟨hnests, hread, _, hasks⟩ := nested_paths_are_reported accented
  obtain ⟨subs, hget, _⟩ := hread "é" _ _ rfl rfl
  have hasked : (Crawl.run {} (fun _ => .ok none) (fun _ => none) (fun _ => none) .epoch .epoch
      accented).asked = some accentedRequest := by decide
  have hreported : accented.Reports "é" ⟨_, subs⟩ := .byPath hget
  exact ⟨⟨_, hreported, hreported.subdirs_eq, hnests "é" _ hreported (by decide)⟩, hasked,
    (hasks _ _ _ _ _ _ _ hasked rfl (by decide)).mp rfl⟩

end Catalog

end PackageIndex
