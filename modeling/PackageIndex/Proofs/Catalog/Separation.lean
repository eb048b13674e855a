import Mathlib.Logic.Relation
import PackageIndex.Proofs.Catalog.Selection
/-!
Where a path can stand. From the empty catalog on, whatever operations follow one another, no
path of the queue is a package or bad: storing a document and marking a path bad take the path
out of the queue, and queueing it first asks for both. A path that was marked bad stays so, and
therefore never comes out of the queue again.
-/
namespace PackageIndex.Catalog

/-- One operation that writes, with any arguments and at any time of the clock. A refused
operation changes nothing and is no step. -/
inductive Step (c : Catalog) : Catalog → Prop
  | addNewCrawl (clock : Instant) (path : String) (hasSubdirs : Bool) :
      Step c (c.addNewCrawl clock path hasSubdirs).2
  | popNewCrawl : Step c c.popNewCrawl.2
  | markBad (clock : Instant) (path : String) : Step c (c.markBad clock path)
  | put (d : Document) (nextCrawl? : Option Instant) (suppressed : Bool) :
      Step c (c.putDocument d nextCrawl? suppressed)
  | delete (path : String) : Step c (c.delete path)
  | setNextCrawl (root etag : String) (at' : Instant) : Step c (c.setNextCrawl root etag at')
  | bump (root : String) : Step c (c.bump root).2
  | writeBlob (clock : Instant) (key : String) (value : ByteArray) :
      Step c (c.writeBlob clock key value)

/-- Operations lead from one catalog to another one. -/
abbrev Leads : Catalog → Catalog → Prop := Relation.ReflTransGen Step

/-- No path of the queue is a package, and none is bad. -/
structure Apart (c : Catalog) : Prop where
  stored : ∀ path, c.queue.contains path = true → ¬ c.packages.contains path = true
  bad : ∀ path, c.queue.contains path = true → ¬ c.isBad path = true

variable {c c' : Catalog}

theorem apart_empty : Apart {} := by
  constructor <;> intro path hqueue <;> cases hqueue

/-- With fewer paths in the queue and no more of the others, all stay apart. -/
theorem Apart.of_subset (h : Apart c)
    (hqueue : ∀ path, c'.queue.contains path = true → c.queue.contains path = true)
    (hpackages : ∀ path, c'.packages.contains path = true → c.packages.contains path = true)
    (hbad : c'.bad = c.bad) : Apart c' := by
  constructor
  · intro path hpath hstored
    exact h.stored path (hqueue path hpath) (hpackages path hstored)
  · intro path hpath hbad'
    rw [isBad, hbad] at hbad'
    exact h.bad path (hqueue path hpath) hbad'

theorem Apart.addNewCrawl (h : Apart c) (clock : Instant) (path : String) (hasSubdirs : Bool) :
    Apart (c.addNewCrawl clock path hasSubdirs).2 := by
  simp only [Catalog.addNewCrawl]
  split
  next => exact h
  next hbad =>
    split
    next => exact h
    next hknown =>
      rw [Bool.or_eq_true, not_or] at hknown
      constructor <;> intro path' hpath' <;> rcases (Table.contains_put _ _ _ _).mp hpath' with
        rfl | hbefore
      · exact hknown.1
      · exact h.stored path' hbefore
      · exact hbad
      · exact h.bad path' hbefore

theorem popNewCrawl_snd (c : Catalog) : c.popNewCrawl.2 = c ∨
    ∃ path, c.popNewCrawl.2 = { c with queue := c.queue.erase path } := by
  rw [popNewCrawl]
  split
  · exact .inl rfl
  · exact .inr ⟨_, rfl⟩

/-- Queueing touches no table but the queue, and neither does taking out of it. -/
theorem tables_addNewCrawl (c : Catalog) (clock : Instant) (path : String) (hasSubdirs : Bool) :
    (c.addNewCrawl clock path hasSubdirs).2.packages = c.packages ∧
      (c.addNewCrawl clock path hasSubdirs).2.bad = c.bad := by
  simp only [addNewCrawl]
  split
  · exact ⟨rfl, rfl⟩
  · split <;> exact ⟨rfl, rfl⟩

theorem tables_popNewCrawl (c : Catalog) :
    c.popNewCrawl.2.packages = c.packages ∧ c.popNewCrawl.2.bad = c.bad := by
  rcases popNewCrawl_snd c with hsame | ⟨path, herase⟩
  · rw [hsame]
    exact ⟨rfl, rfl⟩
  · rw [herase]
    exact ⟨rfl, rfl⟩

theorem contains_of_contains_erase {α : Type} {t : Table String α} {path path' : String}
    (h : (t.erase path).contains path' = true) : t.contains path' = true :=
  ((Table.contains_erase _ _ _).mp h).2

theorem Apart.popNewCrawl (h : Apart c) : Apart c.popNewCrawl.2 := by
  rcases popNewCrawl_snd c with hsame | ⟨path, herase⟩
  · rw [hsame]
    exact h
  · rw [herase]
    exact h.of_subset (fun _ => contains_of_contains_erase) (fun _ hstored => hstored) rfl

theorem Apart.markBad (h : Apart c) (clock : Instant) (path : String) :
    Apart (c.markBad clock path) := by
  constructor
  · intro path' hpath' hstored
    exact h.stored path' (contains_of_contains_erase hpath') hstored
  · intro path' hpath' hbad
    obtain ⟨hne, hbefore⟩ := (Table.contains_erase _ _ _).mp hpath'
    rcases (Table.contains_put _ _ _ _).mp hbad with heq | hbad
    · exact hne heq
    · exact h.bad path' hbefore hbad

theorem Apart.putDocument (h : Apart c) (d : Document) (nextCrawl? : Option Instant)
    (suppressed : Bool) : Apart (c.putDocument d nextCrawl? suppressed) := by
  constructor
  · intro path hpath hstored
    obtain ⟨hne, hbefore⟩ := (Table.contains_erase _ _ _).mp hpath
    rcases (Table.contains_put _ _ _ _).mp hstored with heq | hstored
    · exact hne heq
    · exact h.stored path hbefore hstored
  · intro path hpath
    exact h.bad path (contains_of_contains_erase hpath)

theorem Apart.step (h : Apart c) (hstep : Step c c') : Apart c' := by
  cases hstep with
  | addNewCrawl clock path hasSubdirs => exact h.addNewCrawl clock path hasSubdirs
  | popNewCrawl => exact h.popNewCrawl
  | markBad clock path => exact h.markBad clock path
  | put d nextCrawl? suppressed => exact h.putDocument d nextCrawl? suppressed
  | delete path =>
      exact h.of_subset (fun _ hqueue => hqueue) (fun _ => contains_of_contains_erase) rfl
  | setNextCrawl root etag at' =>
      refine h.of_subset (fun _ hqueue => hqueue) (fun path hstored => ?_) rfl
      rwa [Catalog.setNextCrawl, Table.contains_adjust] at hstored
  | bump root =>
      refine h.of_subset (fun _ hqueue => hqueue) (fun path hstored => ?_) rfl
      rwa [Catalog.bump, Table.contains_adjust] at hstored
  | writeBlob clock key value =>
      exact h.of_subset (fun _ hqueue => hqueue) (fun _ hstored => hstored) rfl

theorem Apart.leads (h : Apart c) (hleads : Leads c c') : Apart c' := by
  induction hleads with
  | refl => exact h
  | tail _ hstep ih => exact ih.step hstep

theorem Apart.not_queued {path : String} {row : PackageRow} (h : Apart c)
    (hrow : c.packages.find? path = some row) : c.queue.find? path = none := by
  rw [← Option.not_isSome_iff_eq_none]
  intro hqueue
  exact h.stored path hqueue (by rw [Table.contains, hrow]; rfl)

theorem isBad_markBad (c : Catalog) (clock : Instant) (path : String) :
    (c.markBad clock path).isBad path = true :=
  (Table.contains_put _ _ _ _).mpr (.inl rfl)

theorem isBad_of_step {path : String} (h : c.isBad path = true) (hstep : Step c c') :
    c'.isBad path = true := by
  cases hstep with
  | addNewCrawl clock path' hasSubdirs =>
      rwa [isBad, (tables_addNewCrawl c clock path' hasSubdirs).2]
  | popNewCrawl => rwa [isBad, (tables_popNewCrawl c).2]
  | markBad clock path' => exact (Table.contains_put _ _ _ _).mpr (.inr h)
  | put | delete | setNextCrawl | bump | writeBlob => exact h

theorem isBad_of_leads {path : String} (h : c.isBad path = true) (hleads : Leads c c') :
    c'.isBad path = true := by
  induction hleads with
  | refl => exact h
  | tail _ hstep ih => exact isBad_of_step ih hstep

theorem contains_of_popNewCrawl {target : CrawlTarget} (h : c.popNewCrawl.1 = some target) :
    c.queue.contains target.importPath = true := by
  have hnext : c.nextTarget? = some target := by
    rw [popNewCrawl] at h
    split at h
    · cases h
    next hsome =>
      cases h
      exact hsome
  rw [nextTarget?, Option.map_eq_some_iff] at hnext
  obtain ⟨⟨path, row⟩, hleast, rfl⟩ := hnext
  have hstored := (first_of_leastBy hleast).stored
  rw [Table.contains, hstored]
  rfl

theorem addNewCrawl_accepts_iff (c : Catalog) (clock : Instant) (path : String)
    (hasSubdirs : Bool) :
    (c.addNewCrawl clock path hasSubdirs).1 = true ↔ ¬ c.isBad path = true := by
  simp only [addNewCrawl]
  split
  next hbad => simp [hbad]
  next hbad => split <;> simp [hbad]

/-- A path that was not refused waits afterwards, or is a package. -/
theorem contains_addNewCrawl {clock : Instant} {path : String} {hasSubdirs : Bool}
    (h : (c.addNewCrawl clock path hasSubdirs).1 = true) :
    (c.addNewCrawl clock path hasSubdirs).2.queue.contains path = true ∨
      (c.addNewCrawl clock path hasSubdirs).2.packages.contains path = true := by
  rw [addNewCrawl_accepts_iff] at h
  simp only [addNewCrawl, if_neg h]
  split
  next hknown => exact (Bool.or_eq_true _ _ ▸ hknown).symm
  next => exact .inl ((Table.contains_put _ _ _ _).mpr (.inl rfl))

/-- Wherever operations lead from the empty catalog, no path of the queue is a package or bad,
and every table has a key once. A path is refused exactly when it is bad, and waits or is stored
otherwise. What comes out of the queue is no package, and whatever follows after a path was
marked bad, that path comes out no more. -/
theorem tables_stay_apart (c : Catalog) (h : Leads {} c) :
    (∀ path, c.queue.contains path = true →
      ¬ c.packages.contains path = true ∧ ¬ c.isBad path = true) ∧
    (c.packages.keys.Nodup ∧ c.queue.keys.Nodup ∧ c.bad.keys.Nodup ∧ c.blobs.keys.Nodup) ∧
    (∀ clock path hasSubdirs,
      ((c.addNewCrawl clock path hasSubdirs).1 = true ↔ ¬ c.isBad path = true) ∧
      ((c.addNewCrawl clock path hasSubdirs).1 = true →
        (c.addNewCrawl clock path hasSubdirs).2.queue.contains path = true ∨
        (c.addNewCrawl clock path hasSubdirs).2.packages.contains path = true)) ∧
    (∀ target, c.popNewCrawl.1 = some target → ¬ c.packages.contains target.importPath = true) ∧
    ∀ clock path c', Leads (c.markBad clock path) c' →
      ∀ target, c'.popNewCrawl.1 = some target → target.importPath ≠ path := by
  have hapart : Apart c := apart_empty.leads h
  refine ⟨?_, ?_, ?_, ?_, ?_⟩
  · intro path hqueue
    exact ⟨hapart.stored path hqueue, hapart.bad path hqueue⟩
  · exact ⟨c.packages.keys_nodup, c.queue.keys_nodup, c.bad.keys_nodup, c.blobs.keys_nodup⟩
  · intro clock path hasSubdirs
    exact ⟨c.addNewCrawl_accepts_iff clock path hasSubdirs, contains_addNewCrawl⟩
  · intro target hpop
    exact hapart.stored _ (contains_of_popNewCrawl hpop)
  · rintro clock path c' hleads target hpop rfl
    have hapart' : Apart c' := (hapart.markBad clock _).leads hleads
    have hbad : c'.isBad target.importPath = true :=
      isBad_of_leads (isBad_markBad c clock _) hleads
    exact hapart'.bad _ (contains_of_popNewCrawl hpop) hbad

/-- A path waits, is found to lead nowhere, and is asked for again. -/
def foundNowhere : Catalog :=
  ((({} : Catalog).addNewCrawl .epoch "gone" false).2.markBad .epoch "gone")

theorem leads_foundNowhere : Leads {} foundNowhere :=
  .tail (.tail .refl (.addNewCrawl .epoch "gone" false)) (.markBad .epoch "gone")

/-- A path that leads nowhere is refused, and is no target even once a document was stored under
it and deleted again. -/
theorem bad_path_is_refused :
    (foundNowhere.addNewCrawl .epoch "gone" false).1 = false ∧
    ∀ d target, (((foundNowhere.markBad .epoch "gone").putDocument d none false).delete
      "gone").popNewCrawl.1 = some target → target.importPath ≠ "gone" := by
  obtain ⟨_, _, hadd, _, hpop⟩ := tables_stay_apart foundNowhere leads_foundNowhere
  constructor
  · have hrefused := mt (hadd .epoch "gone" false).1.mp (by decide)
    exact Bool.not_eq_true _ ▸ hrefused
  · intro d
    exact hpop .epoch "gone" _ (.tail (.tail .refl (.put d none false)) (.delete "gone"))

end PackageIndex.Catalog
