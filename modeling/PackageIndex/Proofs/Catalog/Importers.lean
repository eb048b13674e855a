import PackageIndex.Proofs.Catalog.Readable
import PackageIndex.Proofs.Json.Lenient
/-!
Who imports a package. The query reads the stored lists with the lenient reader; in a catalog that
comes from the empty one it counts the packages whose records list the path.
-/
namespace PackageIndex

/-- The lenient reader finds in a row the imports of its record. -/
theorem PackageRow.Written.texts?_imports {path : String} {row : PackageRow}
    (h : row.Written path) :
    Json.Lenient.texts? row.imports.toList =
      (row.record? path).map fun r => r.document.imports.map String.toList := by
  obtain ⟨d, nextCrawl, suppressed, rfl, rfl⟩ := h
  rw [record?_ofDocument, Option.map_some, ofDocument, String.toList_ofList]
  exact Json.Lenient.texts?_ofStrings d.imports

namespace Catalog

variable {c : Catalog} {packages : List Record}

theorem texts?_packages (hwritten : c.Written) (hpackages : c.all = .ok packages) :
    (c.packages.values.mapM fun row => Json.Lenient.texts? row.imports.toList) =
      some (packages.map fun r => r.document.imports.map String.toList) := by
  rw [mapM_eq_some_iff, Table.values, List.map_map]
  calc c.packages.rows.map (fun row => Json.Lenient.texts? row.2.imports.toList)
    _ = c.packages.rows.map fun row =>
          (row.2.record? row.1).map fun r => r.document.imports.map String.toList := by
        refine List.map_congr_left fun row hrow => ?_
        exact (hwritten row.1 row.2 (Table.mem_rows_iff.mp hrow)).texts?_imports
    _ = (c.packages.rows.map fun row => row.2.record? row.1).map
          (Option.map fun r => r.document.imports.map String.toList) := by
        rw [List.map_map]
        rfl
    _ = (packages.map fun r => r.document.imports.map String.toList).map some := by
        rw [all_eq_ok_iff.mp hpackages, List.map_map, List.map_map]
        rfl

theorem importerCount_of_written (hwritten : c.Written) (hpackages : c.all = .ok packages)
    (path : String) :
    c.importerCount path = .ok (packages.countP fun r => path ∈ r.document.imports) := by
  have hmem (texts : List String) : path.toList ∈ texts.map String.toList ↔ path ∈ texts := by
    simp only [List.mem_map, String.toList_inj, exists_eq_right]
  rw [importerCount, texts?_packages hwritten hpackages]
  simp only [List.filter_map, List.length_map, List.countP_eq_length_filter, Function.comp_def,
    hmem]

end Catalog

end PackageIndex
