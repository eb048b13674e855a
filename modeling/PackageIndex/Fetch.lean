import PackageIndex.Document
import PackageIndex.Timestamp
/-!
What the crawl asks of a document fetcher. A collaborator answers, fails with a reason,
or crashes.
-/
namespace PackageIndex

/-- What a crash carries: a text, or something that is none. -/
inductive Payload where
  | text (s : String)
  | other
  deriving DecidableEq

/-- Why a collaborator gave no answer. -/
inductive Failure where
  | error (reason : String)
  | crash (p : Payload)
  deriving DecidableEq

/-- Why a package is fetched. -/
inductive CrawlReason where
  | new
  | refresh
  deriving DecidableEq

def CrawlReason.text : CrawlReason → String
  | .new => "new"
  | .refresh => "refresh"

structure FetchRequest where
  importPath : String
  reason : CrawlReason
  /-- The stored document of a package that is refreshed. -/
  prior : Option Document
  hasSubdirs : Bool
  priorCrawl : Option Instant
  deriving DecidableEq

/-- Finds the document of a path, or that there is none. -/
abbrev Fetcher := FetchRequest → Except Failure (Option Document)

namespace FetchRequest

/-- The request for a path never crawled. -/
def newTarget (path : String) (hasSubdirs : Bool) : FetchRequest :=
  { importPath := path, reason := .new, prior := none, hasSubdirs, priorCrawl := none }

def null : List Char := "null".toList

/-- The compact JSON form. -/
def toJson (r : FetchRequest) : List Char :=
  '{' :: (List.intercalate [',']
    [ Document.member "import_path" (Json.ofString r.importPath)
    , Document.member "reason" (Json.ofString r.reason.text)
    , Document.member "prior" ((r.prior.map Document.toJson).getD null)
    , Document.member "has_subdirs" (if r.hasSubdirs then "true".toList else "false".toList)
    , Document.member "prior_crawl"
        ((r.priorCrawl.map fun t => Json.literal (Timestamp.zuluText t)).getD null) ] ++ ['}'])

end FetchRequest

end PackageIndex
