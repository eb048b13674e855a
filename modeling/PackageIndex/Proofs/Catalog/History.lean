import Mathlib.Tactic.Tauto
import PackageIndex.Proofs.Catalog.Separation
/-!
The history of a catalog: operations one after the other, each with the catalog that it met. Where
every operation brings something about or ends it by a rule, it holds after a run exactly if some
moment of the run brought it about and no later moment ended it.
-/
namespace PackageIndex.Catalog

/-- An operation that writes, with its arguments and the clock that it meets. -/
inductive Operation where
  | addNewCrawl (clock : Instant) (path : String) (hasSubdirs : Bool)
  | popNewCrawl
  | markBad (clock : Instant) (path : String)
  | put (d : Document) (nextCrawl? : Option Instant) (suppressed : Bool)
  | delete (path : String)
  | setNextCrawl (root etag : String) (at' : Instant)
  | bump (root : String)
  | writeBlob (clock : Instant) (key : String) (value : ByteArray)

def Operation.run : Operation → Catalog → Catalog
  | addNewCrawl clock path hasSubdirs, c => (c.addNewCrawl clock path hasSubdirs).2
  | popNewCrawl, c => c.popNewCrawl.2
  | markBad clock path, c => c.markBad clock path
  | put d nextCrawl? suppressed, c => c.putDocument d nextCrawl? suppressed
  | delete path, c => c.delete path
  | setNextCrawl root etag at', c => c.setNextCrawl root etag at'
  | bump root, c => (c.bump root).2
  | writeBlob clock key value, c => c.writeBlob clock key value

def runAll (ops : List Operation) (c : Catalog) : Catalog := ops.foldl (fun c op => op.run c) c

/-- An operation of a run and the catalog that it meets. -/
structure Moment where
  catalog : Catalog
  operation : Operation

def moments : List Operation → Catalog → List Moment
  | [], _ => []
  | op :: ops, c => ⟨c, op⟩ :: moments ops (op.run c)

theorem Operation.step (op : Operation) (c : Catalog) : Step c (op.run c) := by
  cases op with
  | addNewCrawl clock path hasSubdirs => exact .addNewCrawl clock path hasSubdirs
  | popNewCrawl => exact .popNewCrawl
  | markBad clock path => exact .markBad clock path
  | put d nextCrawl? suppressed => exact .put d nextCrawl? suppressed
  | delete path => exact .delete path
  | setNextCrawl root etag at' => exact .setNextCrawl root etag at'
  | bump root => exact .bump root
  | writeBlob clock key value => exact .writeBlob clock key value

theorem Step.exists_run {c c' : Catalog} (h : Step c c') : ∃ op : Operation, c' = op.run c := by
  cases h with
  | addNewCrawl clock path hasSubdirs => exact ⟨.addNewCrawl clock path hasSubdirs, rfl⟩
  | popNewCrawl => exact ⟨.popNewCrawl, rfl⟩
  | markBad clock path => exact ⟨.markBad clock path, rfl⟩
  | put d nextCrawl? suppressed => exact ⟨.put d nextCrawl? suppressed, rfl⟩
  | delete path => exact ⟨.delete path, rfl⟩
  | setNextCrawl root etag at' => exact ⟨.setNextCrawl root etag at', rfl⟩
  | bump root => exact ⟨.bump root, rfl⟩
  | writeBlob clock key value => exact ⟨.writeBlob clock key value, rfl⟩

/-- What operations lead to is what some history of them ends with. -/
theorem leads_iff_exists_runAll {c c' : Catalog} : Leads c c' ↔ ∃ ops, c' = runAll ops c := by
  constructor
  · intro h
    induction h with
    | refl => exact ⟨[], rfl⟩
    | tail _ hstep ih =>
        obtain ⟨ops, rfl⟩ := ih
        obtain ⟨op, rfl⟩ := hstep.exists_run
        exact ⟨ops ++ [op], by simp [runAll]⟩
  · rintro ⟨ops, rfl⟩
    induction ops generalizing c with
    | nil => exact .refl
    | cons op ops ih => exact .head (op.step c) ih

/-- Some moment brings it about, and no later one ends it. -/
def Since (gains loses : Moment → Prop) (history : List Moment) : Prop :=
  ∃ before m after, history = before ++ m :: after ∧ gains m ∧ ∀ m' ∈ after, ¬ loses m'

section

variable {gains loses : Moment → Prop}

theorem not_since_nil : ¬ Since gains loses [] := by
  rintro ⟨before, m, after, hsplit, _, _⟩
  cases before <;> cases hsplit

theorem since_cons {m : Moment} {history : List Moment} :
    Since gains loses (m :: history) ↔
      (gains m ∧ ∀ m' ∈ history, ¬ loses m') ∨ Since gains loses history := by
  constructor
  · rintro ⟨before, m', after, hsplit, hgains, hafter⟩
    cases before with
    | nil =>
        cases hsplit
        exact .inl ⟨hgains, hafter⟩
    | cons first before =>
        cases hsplit
        exact .inr ⟨before, m', after, rfl, hgains, hafter⟩
  · rintro (⟨hgains, hafter⟩ | ⟨before, m', after, rfl, hgains, hafter⟩)
    · exact ⟨[], m, history, rfl, hgains, hafter⟩
    · exact ⟨m :: before, m', after, rfl, hgains, hafter⟩

/-- A moment that neither brings it about nor ends it leaves what was before. -/
theorem kept_iff {m : Moment} {before after : Prop} (hsame : after ↔ before) (hgains : ¬ gains m)
    (hloses : ¬ loses m) : after ↔ gains m ∨ before ∧ ¬ loses m := by
  simp only [hsame, hgains, hloses, not_false_eq_true, and_true, false_or]

variable {P : Catalog → Prop}
  (hstep : ∀ c op, P (op.run c) ↔ gains ⟨c, op⟩ ∨ P c ∧ ¬ loses ⟨c, op⟩)
include hstep

theorem runAll_iff (ops : List Operation) (c : Catalog) :
    P (runAll ops c) ↔
      Since gains loses (moments ops c) ∨ P c ∧ ∀ m ∈ moments ops c, ¬ loses m := by
  induction ops generalizing c with
  | nil =>
      simp only [runAll, List.foldl_nil, moments, not_since_nil, List.not_mem_nil, false_implies,
        implies_true, and_true, false_or]
  | cons op ops ih =>
      have htail : runAll (op :: ops) c = runAll ops (op.run c) := rfl
      -- the rest of the run gains it, or keeps what the first operation left of it
      rw [htail, ih, moments, since_cons, List.forall_mem_cons, hstep]
      tauto

/-- What does not hold at first holds in the end if and only if it does since some moment. -/
theorem runAll_iff_since {c : Catalog} (hstart : ¬ P c) (ops : List Operation) :
    P (runAll ops c) ↔ Since gains loses (moments ops c) := by
  rw [runAll_iff hstep, or_iff_left]
  intro h
  exact hstart h.1

end

end PackageIndex.Catalog
