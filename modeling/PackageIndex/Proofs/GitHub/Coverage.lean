import PackageIndex.Proofs.GitHub.Cursor
/-!
What the next poll still finds. A poll reads one page of the repositories pushed after the cursor,
and the next one asks for pushes after the last of them. Repositories that the page leaves out are
asked for again unless their push is of the same second as one on the page, and neither has a
fraction.
-/
namespace PackageIndex.GitHub.Search

open PackageIndex.Json PackageIndex.Timestamp

/-- A repository that the search may find. -/
structure Repository where
  name : String
  pushedAt : Instant
  deriving DecidableEq

def Repository.item (r : Repository) : Item := ⟨r.name, some r.pushedAt⟩

/-- A page of the repositories that were pushed after an instant: the first ones in the order of
their pushes. Repositories that were pushed at one time may stand in any order. -/
def IsPage (count : Nat) (repositories : List Repository) (since : Instant)
    (page : List Repository) : Prop :=
  ∃ order : List Repository, order.Perm (repositories.filter fun r => since < r.pushedAt) ∧
    order.Pairwise (fun r r' => r.pushedAt ≤ r'.pushedAt) ∧ page = order.take count

/-- The search for the repositories pushed after a time. -/
def query (perPage : Nat) (since : String) : String :=
  "search/repositories?order=asc&sort=updated&per_page=" ++ Text.decimal perPage
    ++ "&q=fork:true+language:Go+pushed:>" ++ since

theorem resource_eq_query (since : String) : resource since = query 100 since := by
  have hfixed :
      "search/repositories?order=asc&sort=updated&per_page=100&q=fork:true+language:Go+pushed:>" =
        "search/repositories?order=asc&sort=updated&per_page=" ++ Text.decimal 100
          ++ "&q=fork:true+language:Go+pushed:>" := by
    apply String.toList_inj.mp
    simp only [String.toList_append]
    decide +kernel
  exact congrArg (· ++ since) hfixed

section Page

variable {count : Nat} {repositories page : List Repository} {since : Instant} {r : Repository}

/-- What a page leaves out comes after everything on it, and the page is full. -/
theorem IsPage.of_left_out (h : IsPage count repositories since page) (hr : r ∈ repositories)
    (hpushed : since < r.pushedAt) (hout : r ∉ page) :
    page.length = count ∧ ∀ p ∈ page, p.pushedAt ≤ r.pushedAt := by
  obtain ⟨order, hperm, hsorted, rfl⟩ := h
  have hlisted : r ∈ order :=
    hperm.mem_iff.mpr (List.mem_filter.mpr ⟨hr, decide_eq_true hpushed⟩)
  rw [← List.take_append_drop count order] at hlisted hsorted
  have hlater : r ∈ order.drop count := (List.mem_append.mp hlisted).resolve_left hout
  refine ⟨?_, fun p hp => (List.pairwise_append.mp hsorted).2.2 p hp r hlater⟩
  have hlength : (order.drop count).length ≠ 0 := by
    intro hzero
    rw [List.length_eq_zero_iff.mp hzero] at hlater
    cases hlater
  rw [List.length_drop] at hlength
  rw [List.length_take]
  omega

end Page

section Answer

variable {stamp : Instant → String} {page : List Repository}

/-- A repository as the search tells of it. -/
def Repository.members (stamp : Instant → String) (r : Repository) : List (String × String) :=
  [("full_name", r.name), ("pushed_at", stamp r.pushedAt)]

def Repository.text (stamp : Instant → String) (r : Repository) : List Char :=
  '{' :: (List.intercalate [','] ((r.members stamp).map fun m => ofString m.1 ++ ':' :: ofString m.2)
    ++ ['}'])

def Repository.value (stamp : Instant → String) (r : Repository) : Value :=
  .object ((r.members stamp).map fun m => (some m.1.toList, .string (some m.2.toList)))

/-- An answer of the search. -/
def answerText (stamp : Instant → String) (page : List Repository) : List Char :=
  '{' :: ((ofString "items" ++ ':' ::
    '[' :: (List.intercalate [','] (page.map (Repository.text stamp)) ++ [']'])) ++ ['}'])

theorem denotes_text (stamp : Instant → String) (r : Repository) :
    Denotes (r.text stamp) (r.value stamp) :=
  denotes_object Prod.fst (List.cons_ne_nil _ _) fun m _ => denotes_ofString m.2

theorem denotes_answerText (stamp : Instant → String) (page : List Repository) :
    Denotes (answerText stamp page)
      (.object [(some "items".toList, .array (page.map (Repository.value stamp)))]) := by
  have hitems := denotes_array fun r (_ : r ∈ page) => denotes_text stamp r
  have hobject := denotes_object (fun _ => "items") (List.cons_ne_nil page [])
    (fun _ _ => hitems)
  rwa [List.map_singleton, List.intercalate_singleton, List.map_singleton] at hobject

theorem item?_value {r : Repository}
    (h : looseInstant? (stamp r.pushedAt).toList = some r.pushedAt) :
    item? (r.value stamp) = some r.item := by
  simp [item?, Repository.value, Repository.members, Value.members?, Document.single?,
    optionalInstant?, Value.text?, h, Repository.item]

/-- The answer is read as the page that it was written for. -/
theorem items?_answerText
    (h : ∀ r ∈ page, looseInstant? (stamp r.pushedAt).toList = some r.pushedAt) :
    (Value.ofText? (answerText stamp page)).bind items? = some (page.map Repository.item) := by
  have hpage : (page.map (Repository.value stamp)).mapM item? =
      some (page.map Repository.item) := by
    rw [mapM_eq_some_iff, List.map_map, List.map_map]
    exact List.map_congr_left fun r hr => item?_value (h r hr)
  rw [(denotes_answerText stamp page).ofText?, Option.bind_some]
  simpa [items?, Value.members?, Document.single?] using hpage

/-- A server that answers every request with a page. -/
def serving (page : List Repository) : Client :=
  answering (String.ofList (answerText cursorText page))

theorem get_serving {since : String}
    (hshort : (Client.hostUrl (resource since)).text.length ≤ Http.Url.longestSent)
    (h : ∀ r ∈ page, looseInstant? (cursorText r.pushedAt).toList = some r.pushedAt) :
    (serving page).get (query 100 since) none items? = .ok (some (page.map Repository.item)) := by
  rw [← resource_eq_query]
  refine get_answering hshort ?_
  rw [String.toList_ofList]
  exact items?_answerText h

end Answer

section Poll

variable {client : Client} {credentials : Option Credentials} {since : Instant}
  {cursor : String} {repositories page : List Repository}

theorem since?_of_cursorInstant? (h : cursorInstant? cursor = some since) (clock : Instant) :
    since? cursor clock = some cursor := by
  rw [since?, if_neg]
  rintro rfl
  cases h

/-- A poll from a time asks for the first hundred pushes after it. -/
theorem receives_of_query (clock : Instant) (hsince : cursorInstant? cursor = some since)
    (hanswer : client.get (query 100 cursor) credentials items? =
      .ok (some (page.map Repository.item))) :
    Receives client credentials clock cursor (page.map Repository.item)
      (batch cursor (page.map Repository.item)) :=
  .of_get (since?_of_cursorInstant? hsince clock) (resource_eq_query cursor ▸ hanswer)

theorem known_items {t : Instant} :
    Known (some since) (page.map Repository.item) t ↔
      since = t ∨ ∃ p ∈ page, p.pushedAt = t := by
  simp [Known, Repository.item]

/-- The newest push of a page is on it, unless the page is empty, and can be written. -/
theorem writable_of_latest (hsince : cursorInstant? cursor = some since)
    (hyear : since.HasPlainYear) (hyears : ∀ p ∈ page, p.pushedAt.HasPlainYear)
    (hclock : ∀ p ∈ page, p.pushedAt.OfClock) {newest : Instant}
    (hnewest : IsLatest (some since) (page.map Repository.item) newest) :
    newest.Writable := by
  rcases known_items.mp hnewest.known with rfl | ⟨p, hp, rfl⟩
  · exact ⟨hyear, ofClock_of_instant? hsince⟩
  · exact ⟨hyears p hp, hclock p hp⟩

/-- A repository that a page leaves out was pushed after the newest time on the page without its
fraction, unless it was pushed at that time and it has no fraction. -/
theorem IsPage.truncated_lt_iff {count : Nat} {newest : Instant} {r : Repository}
    (hpage : IsPage count repositories since page)
    (hnewest : IsLatest (some since) (page.map Repository.item) newest)
    (hr : r ∈ repositories) (hpushed : since < r.pushedAt) (hout : r ∉ page) :
    ¬ newest.truncated < r.pushedAt ↔
      r.pushedAt.truncated = r.pushedAt ∧ ∃ p ∈ page, p.pushedAt = r.pushedAt := by
  obtain ⟨hfull, hbefore⟩ := hpage.of_left_out hr hpushed hout
  have hnewest_le : newest ≤ r.pushedAt := by
    rcases known_items.mp hnewest.known with rfl | ⟨p, hp, rfl⟩
    · exact Instant.le_of_lt hpushed
    · exact hbefore p hp
  constructor
  · intro hnot
    have hle := Instant.not_lt.mp hnot
    have heq : newest = r.pushedAt :=
      Instant.le_antisymm hnewest_le (Instant.le_trans hle (Instant.truncated_le newest))
    have hwhole : r.pushedAt.truncated = r.pushedAt :=
      Instant.le_antisymm (Instant.truncated_le _) (heq ▸ hle)
    refine ⟨hwhole, ?_⟩
    rcases known_items.mp hnewest.known with rfl | ⟨p, hp, rfl⟩
    · exact absurd (heq ▸ hpushed) (Instant.lt_irrefl _)
    · exact ⟨p, hp, heq⟩
  · rintro ⟨hwhole, p, hp, htie⟩
    have hle : r.pushedAt ≤ newest :=
      htie ▸ hnewest.le p.pushedAt (known_items.mpr (.inr ⟨p, hp, rfl⟩))
    rw [Instant.not_lt, ← hwhole]
    exact Instant.truncated_mono hle

/-- A poll on a page of the repositories pushed after its cursor succeeds and reports the page. Each
repository pushed after the cursor is reported or found by the next search, except for those that
a full page leaves out and that were pushed at the same time as one on it, a time without a
fraction. -/
theorem next_search_covers_iff (clock : Instant) (hsince : cursorInstant? cursor = some since)
    (hyear : since.HasPlainYear) (hyears : ∀ p ∈ page, p.pushedAt.HasPlainYear)
    (hpage : IsPage 100 repositories since page)
    (hanswer : client.get (query 100 cursor) credentials items? =
      .ok (some (page.map Repository.item))) :
    ∃ b since', poll client credentials clock cursor = .ok b ∧
      b.changed = page.map Repository.name ∧ cursorInstant? b.cursor = some since' ∧
      ∀ r ∈ repositories, since < r.pushedAt →
        ((r.name ∈ b.changed ∨ since' < r.pushedAt) ↔
          ¬ (r.name ∉ b.changed ∧ page.length = 100 ∧ r.pushedAt.truncated = r.pushedAt ∧
            ∃ p ∈ page, p.pushedAt = r.pushedAt)) := by
  have hpoll := receives_of_query clock hsince hanswer
  have hknown : Known (cursorInstant? cursor) (page.map Repository.item) since := .inl hsince
  obtain ⟨newest, hnewest, -⟩ := le_foldl hknown
  have hlatest := isLatest_foldl hnewest
  rw [hsince] at hlatest
  have hclock : ∀ p ∈ page, p.pushedAt.OfClock := fun p hp =>
    hpoll.ofClock (List.mem_map_of_mem hp) rfl
  have hwritable := writable_of_latest hsince hyear hyears hclock hlatest
  have hchanged : (batch cursor (page.map Repository.item)).changed = page.map Repository.name :=
    List.map_map
  refine ⟨_, newest.truncated, hpoll.polled, hchanged, ?_, fun r hr hpushed => ?_⟩
  · rw [cursor_batch_of_some hnewest, cursorInstant?_cursorText hwritable]
  · by_cases hreported : r.name ∈ (batch cursor (page.map Repository.item)).changed
    · simp [hreported]
    · have hout : r ∉ page := fun hmem =>
        hreported (hchanged ▸ List.mem_map_of_mem hmem)
      have hiff := hpage.truncated_lt_iff hlatest hr hpushed hout
      simp [hreported, (hpage.of_left_out hr hpushed hout).1, ← hiff]

/-- The search from ten o'clock can be sent. -/
theorem search_is_short :
    (Client.hostUrl (resource "2024-03-01T10:00:00Z")).text.length ≤ Http.Url.longestSent := by
  decide +kernel

theorem later_push_is_covered :
    let early : Repository := ⟨"o/early", ⟨1709287200, 0⟩⟩
    let late : Repository := ⟨"o/late", ⟨1709287201, 0⟩⟩
    IsPage 100 [early, late] ⟨1709287200, 0⟩ [late] ∧
      ∃ b since', poll (serving [late]) none ⟨1709290800, 0⟩ "2024-03-01T10:00:00Z" = .ok b ∧
        cursorInstant? b.cursor = some since' ∧
        (late.name ∈ b.changed ∨ since' < late.pushedAt) := by
  intro early late
  have hpage : IsPage 100 [early, late] ⟨1709287200, 0⟩ [late] :=
    ⟨[late], .refl _, List.pairwise_singleton _ _, rfl⟩
  have hsince : cursorInstant? "2024-03-01T10:00:00Z" = some ⟨1709287200, 0⟩ := by decide +kernel
  obtain ⟨b, since', hpoll, hchanged, hcursor, hcovers⟩ :=
    next_search_covers_iff ⟨1709290800, 0⟩ hsince (by decide +kernel) (by decide +kernel) hpage
      (get_serving search_is_short (by decide +kernel))
  have hreported : late.name ∈ b.changed := by
    rw [hchanged]
    exact List.mem_singleton_self _
  exact ⟨hpage, b, since', hpoll, hcursor,
    (hcovers late (List.mem_cons_of_mem _ (List.mem_singleton_self _)) (by decide)).mpr
      fun hskipped => hskipped.1 hreported⟩

/-- A hundred repositories, all pushed in the second after ten o'clock. -/
def tied : List Repository :=
  (List.range 100).map fun n => ⟨"o/" ++ Text.decimal n, ⟨1709287201, 0⟩⟩

/-- One more repository that was pushed in that second. -/
def oneMore : Repository := ⟨"o/more", ⟨1709287201, 0⟩⟩

/-- Of more than a hundred repositories pushed at one time, the page leaves one out, and the next
search does not ask for it. -/
theorem hundred_ties_hide_one_more :
    cursorInstant? "2024-03-01T10:00:00Z" = some ⟨1709287200, 0⟩ ∧
      IsPage 100 (tied ++ [oneMore]) ⟨1709287200, 0⟩ tied ∧
      (serving tied).get (query 100 "2024-03-01T10:00:00Z") none items? =
        .ok (some (tied.map Repository.item)) ∧
      ∃ b since', poll (serving tied) none ⟨1709290800, 0⟩ "2024-03-01T10:00:00Z" = .ok b ∧
        cursorInstant? b.cursor = some since' ∧
        ¬ (oneMore.name ∈ b.changed ∨ since' < oneMore.pushedAt) := by
  have hsince : cursorInstant? "2024-03-01T10:00:00Z" = some ⟨1709287200, 0⟩ := by decide +kernel
  have htime : ∀ r ∈ tied ++ [oneMore], r.pushedAt = ⟨1709287201, 0⟩ := by decide +kernel
  have hpage : IsPage 100 (tied ++ [oneMore]) ⟨1709287200, 0⟩ tied := by
    refine ⟨tied ++ [oneMore], ?_, ?_, by decide +kernel⟩
    · rw [List.filter_eq_self.mpr fun r hr => by rw [htime r hr]; decide]
    · refine List.pairwise_of_forall_mem_list fun r hr r' hr' => ?_
      rw [htime r hr, htime r' hr']
      exact Instant.le_refl _
  have hanswer : (serving tied).get (query 100 "2024-03-01T10:00:00Z") none items? =
      .ok (some (tied.map Repository.item)) := by
    refine get_serving search_is_short fun r hr => ?_
    rw [htime r (List.mem_append_left _ hr)]
    decide +kernel
  have hpoll := receives_of_query ⟨1709290800, 0⟩ hsince hanswer
  exact ⟨hsince, hpage, hanswer, _, ⟨1709287201, 0⟩, hpoll.polled, by decide +kernel,
    by decide +kernel⟩

end Poll

end PackageIndex.GitHub.Search
