import PackageIndex.Schema.Opening
/-!
The schemas of the two stores: the catalog, which gained its named blobs with the second
version, and the run history.
-/
namespace PackageIndex.Schema

def packagesTable : TableSchema :=
  { name := "packages"
    columns :=
      [ { name := "import_path", type := .text, isPrimaryKey := true }
      , { name := "project_root", type := .text, nonNull := true }
      , { name := "etag", type := .text, nonNull := true }
      , { name := "name", type := .text, nonNull := true }
      , { name := "synopsis", type := .text, nonNull := true }
      , { name := "imports", type := .text, nonNull := true }
      , { name := "next_crawl", type := .integer, nonNull := true }
      , { name := "suppressed", type := .integer, nonNull := true, default? := some "0" } ]
    indices :=
      [ ("idx_packages_next_crawl", "next_crawl")
      , ("idx_packages_project_root", "project_root") ] }

def queueTable : TableSchema :=
  { name := "new_crawl_queue"
    columns :=
      [ { name := "import_path", type := .text, isPrimaryKey := true }
      , { name := "has_subdirs", type := .integer, nonNull := true }
      , { name := "queued_at", type := .integer, nonNull := true } ]
    indices := [("idx_new_crawl_queue_queued_at", "queued_at")] }

def badTable : TableSchema :=
  { name := "bad_crawls"
    columns :=
      [ { name := "import_path", type := .text, isPrimaryKey := true }
      , { name := "marked_at", type := .integer, nonNull := true } ] }

def blobsTable : TableSchema :=
  { name := "blobs"
    columns :=
      [ { name := "key", type := .text, isPrimaryKey := true }
      , { name := "value", type := .blob, nonNull := true }
      , { name := "updated_at", type := .text, nonNull := true
          default? := some "(datetime('now'))" } ] }

def firstCatalog : VersionedSchema :=
  { version := 1, tables := [packagesTable, queueTable, badTable] }

def secondCatalog : VersionedSchema :=
  { version := 2, tables := [packagesTable, queueTable, badTable, blobsTable]
    migration := some (Migration.creating [blobsTable]) }

def catalogSchemas : List VersionedSchema := [firstCatalog, secondCatalog]

def runsTable : TableSchema :=
  { name := "job_runs"
    columns :=
      [ { name := "id", type := .integer, isPrimaryKey := true }
      , { name := "job_id", type := .text, nonNull := true }
      , { name := "started_at", type := .text, nonNull := true }
      , { name := "finished_at", type := .text }
      , { name := "status", type := .text, nonNull := true }
      , { name := "error_message", type := .text }
      , { name := "triggered_by", type := .text, nonNull := true } ]
    indices :=
      [ ("idx_job_runs_job_id_started", "job_id, started_at DESC")
      , ("idx_job_runs_status", "status") ] }

def firstHistory : VersionedSchema := { version := 1, tables := [runsTable] }

def historySchemas : List VersionedSchema := [firstHistory]

def catalogLabel : String := "catalog"

def historyLabel : String := "jobs"

end PackageIndex.Schema
