import PackageIndex.GitHub.Search
import PackageIndex.Proofs.GitHub.Address
import PackageIndex.Proofs.Json.Bytes
import PackageIndex.Proofs.Json.Written
import PackageIndex.Proofs.Timestamp
/-!
The cursor of the search over polls. Each poll reads the text that the poll before has written,
takes the latest of that time and the pushes it receives, and writes it again without its
fraction. Since instants of one second stay in one second under later pushes, nothing is lost on
the way: the cursor always tells the second of the latest time known.
-/
namespace PackageIndex.GitHub

open PackageIndex.Json PackageIndex.Timestamp

/-- What was read of a resource was read of some value. -/
theorem Client.exists_of_get {client : Client} {resource : String}
    {credentials : Option Credentials} {read? : Value → Option α} {a : α}
    (h : client.get resource credentials read? = .ok (some a)) : ∃ v, read? v = some a := by
  rw [Client.get] at h
  split at h
  · cases h
  next reply hreply =>
    rw [Client.interpret] at h
    split at h
    · cases h
    split at h
    · split at h
      next b hread =>
        obtain rfl := Option.some.inj (Except.ok.inj h)
        obtain ⟨v, -, hv⟩ := Option.bind_eq_some_iff.mp hread
        exact ⟨v, hv⟩
      · cases h
    · cases h

theorem Client.get_of_success {α : Type} {transport : Http.Transport} {base resource : String}
    {credentials : Option Credentials} {read? : Value → Option α} {request : Http.Request}
    {reply : Http.Reply} {a : α} (hrequest : request? base credentials resource = some request)
    (hreply : transport request = some reply) (hstatus : Http.isSuccess reply.status = true)
    (hread : (Value.ofBytes? reply.body).bind read? = some a) :
    get ⟨transport, base⟩ resource credentials read? = .ok (some a) := by
  have hfound : reply.status ≠ 404 := by
    intro h404
    rw [h404] at hstatus
    cases hstatus
  simp only [get_of_request? transport read? hrequest, hreply, interpret, if_neg hfound, hstatus,
    if_true, hread]

namespace Search

/-- The instant that a cursor denotes. -/
def cursorInstant? (cursor : String) : Option Instant := instant? cursor.toList

section Reading

variable {items : List Item} {item : Item} {t : Instant}

theorem ofClock_of_optionalInstant? {members : List (String × Value)} {key : String}
    (h : optionalInstant? members key = some (some t)) : t.OfClock := by
  simp only [optionalInstant?, Option.bind_eq_bind, Option.bind_eq_some_iff] at h
  obtain ⟨value, -, h⟩ := h
  split at h
  · cases h
  · cases h
  · obtain ⟨_, hread, heq⟩ := Option.map_eq_some_iff.mp h
    obtain rfl := Option.some.inj heq
    obtain ⟨_, -, hinstant⟩ := Option.bind_eq_some_iff.mp hread
    exact ofClock_of_looseInstant? hinstant

theorem ofClock_of_item? {v : Value} (h : item? v = some item) (ht : item.pushedAt = some t) :
    t.OfClock := by
  rw [item?.eq_def] at h
  split at h
  · simp only [Option.bind_eq_bind, Option.bind_eq_some_iff, Option.some.injEq] at h
    obtain ⟨_, -, _, -, _, -, pushedAt, hpushed, rfl⟩ := h
    exact ofClock_of_optionalInstant? (hpushed.trans (congrArg some ht))
  · simp only [Option.bind_eq_bind, Option.bind_eq_some_iff, Option.some.injEq] at h
    obtain ⟨_, -, pushedAt, hpushed, rfl⟩ := h
    exact ofClock_of_optionalInstant? (hpushed.trans (congrArg some ht))
  · cases h

theorem ofClock_of_mapM {values : List Value} (h : values.mapM item? = some items)
    (hitem : item ∈ items) (ht : item.pushedAt = some t) : t.OfClock := by
  obtain ⟨v, -, hv⟩ := List.mem_map.mp (mapM_eq_some_iff.mp h ▸ List.mem_map_of_mem hitem)
  exact ofClock_of_item? hv ht

theorem ofClock_of_items? {v : Value} (h : items? v = some items) (hitem : item ∈ items)
    (ht : item.pushedAt = some t) : t.OfClock := by
  rw [items?.eq_def] at h
  split at h
  · simp only [Option.bind_eq_bind, Option.bind_eq_some_iff] at h
    obtain ⟨members, -, found, -, h⟩ := h
    split at h
    · obtain rfl := Option.some.inj h
      cases hitem
    · exact ofClock_of_mapM h hitem ht
    · cases h
  · obtain rfl := Option.some.inj h
    cases hitem
  · exact ofClock_of_mapM h hitem ht
  · cases h

end Reading

section Latest

variable {start : Option Instant} {item : Item} {items : List Item} {t u : Instant}

/-- The times known after some items: the time to start from, and the pushes. -/
def Known (start : Option Instant) (items : List Item) (t : Instant) : Prop :=
  start = some t ∨ ∃ item ∈ items, item.pushedAt = some t

structure IsLatest (start : Option Instant) (items : List Item) (t : Instant) : Prop where
  known : Known start items t
  le : ∀ u, Known start items u → u ≤ t

theorem Known.append_left (h : Known start items t) (items' : List Item) :
    Known start (items ++ items') t :=
  h.imp_right fun ⟨item, hmem, hpushed⟩ => ⟨item, List.mem_append_left _ hmem, hpushed⟩

theorem newer_of_none (h : item.pushedAt = none) (start : Option Instant) :
    newer start item = start := by
  simp only [newer, h]

theorem newer_none (h : item.pushedAt = some t) : newer none item = some t := by
  simp only [newer, h]

theorem newer_some (h : item.pushedAt = some t) (n : Instant) :
    newer (some n) item = if n < t then some t else some n := by
  simp only [newer, h]

theorem known_newer (h : newer start item = some t) : start = some t ∨ item.pushedAt = some t := by
  cases hpushed : item.pushedAt with
  | none => exact .inl (newer_of_none hpushed start ▸ h)
  | some p =>
    cases start with
    | none => exact .inr (newer_none hpushed ▸ h)
    | some n =>
      rw [newer_some hpushed] at h
      split at h
      · exact .inr h
      · exact .inl h

theorem le_newer_of_start (h : start = some u) : ∃ t, newer start item = some t ∧ u ≤ t := by
  subst h
  cases hpushed : item.pushedAt with
  | none => exact ⟨u, newer_of_none hpushed _, Instant.le_refl u⟩
  | some p =>
    rw [newer_some hpushed]
    split
    next hlt => exact ⟨p, rfl, Instant.le_of_lt hlt⟩
    next => exact ⟨u, rfl, Instant.le_refl u⟩

theorem le_newer_of_pushed (h : item.pushedAt = some u) :
    ∃ t, newer start item = some t ∧ u ≤ t := by
  cases start with
  | none => exact ⟨u, newer_none h, Instant.le_refl u⟩
  | some n =>
    rw [newer_some h]
    split
    next => exact ⟨u, rfl, Instant.le_refl u⟩
    next hle => exact ⟨n, rfl, Instant.not_lt.mp hle⟩

theorem known_foldl (h : items.foldl newer start = some t) : Known start items t := by
  induction items generalizing start with
  | nil => exact .inl h
  | cons item items ih =>
    rcases ih h with hnewer | ⟨item', hmem, hpushed⟩
    · rcases known_newer hnewer with hstart | hpushed
      · exact .inl hstart
      · exact .inr ⟨item, List.mem_cons_self, hpushed⟩
    · exact .inr ⟨item', List.mem_cons_of_mem _ hmem, hpushed⟩

theorem le_foldl (h : Known start items u) : ∃ t, items.foldl newer start = some t ∧ u ≤ t := by
  induction items generalizing start u with
  | nil =>
    rcases h with hstart | ⟨_, hmem, -⟩
    · exact ⟨u, hstart, Instant.le_refl u⟩
    · cases hmem
  | cons item items ih =>
    have hfirst (hnewer : ∃ t, newer start item = some t ∧ u ≤ t) :
        ∃ t, items.foldl newer (newer start item) = some t ∧ u ≤ t := by
      obtain ⟨v, hv, huv⟩ := hnewer
      obtain ⟨t, ht, hvt⟩ := ih (.inl hv)
      exact ⟨t, ht, Instant.le_trans huv hvt⟩
    rcases h with hstart | ⟨item', hmem, hpushed⟩
    · exact hfirst (le_newer_of_start hstart)
    · rcases List.mem_cons.mp hmem with rfl | hmem
      · exact hfirst (le_newer_of_pushed hpushed)
      · exact ih (.inr ⟨item', hmem, hpushed⟩)

theorem isLatest_foldl (h : items.foldl newer start = some t) : IsLatest start items t := by
  refine ⟨known_foldl h, fun u hu => ?_⟩
  obtain ⟨t', ht', hle⟩ := le_foldl hu
  rwa [Option.some.inj (h.symm.trans ht')]

theorem foldl_eq_none_iff : items.foldl newer start = none ↔ ∀ t, ¬ Known start items t := by
  rw [Option.eq_none_iff_forall_ne_some]
  constructor
  · intro h t ht
    obtain ⟨t', ht', -⟩ := le_foldl ht
    exact h t' ht'
  · exact fun h t ht => h t (known_foldl ht)

/-- Of two times in one second, either may stand for the other when the later push is sought. -/
theorem newer_congr {start' : Option Instant}
    (h : start.map Instant.truncated = start'.map Instant.truncated) (item : Item) :
    (newer start item).map Instant.truncated = (newer start' item).map Instant.truncated := by
  cases hpushed : item.pushedAt with
  | none => rwa [newer_of_none hpushed, newer_of_none hpushed]
  | some p =>
    match start, start', h with
    | none, none, _ => rfl
    | some n, some n', h =>
      have hsecond : n.truncated = n'.truncated := Option.some.inj h
      rw [newer_some hpushed, newer_some hpushed]
      split <;> split
      next => rfl
      next hlt hle =>
        exact congrArg some
          (Instant.truncated_eq_of_between (Instant.le_of_lt hlt) (Instant.not_lt.mp hle) hsecond)
      next hle hlt =>
        exact congrArg some (Instant.truncated_eq_of_between (Instant.le_of_lt hlt)
          (Instant.not_lt.mp hle) hsecond.symm).symm
      next => exact h

theorem foldl_newer_congr {start' : Option Instant}
    (h : start.map Instant.truncated = start'.map Instant.truncated) (items : List Item) :
    (items.foldl newer start).map Instant.truncated =
      (items.foldl newer start').map Instant.truncated := by
  induction items generalizing start start' with
  | nil => exact h
  | cons item items ih => exact ih (newer_congr h item)

end Latest

/-- A cursor to start from: the empty one, or a whole second in the years from 0 to 9999. -/
def Starts (start : String) : Prop :=
  start = "" ∨ ∃ s, cursorInstant? start = some s ∧ s.truncated = s ∧ s.HasPlainYear

/-- What a cursor tells after some items: the second of the latest time known, and while there is
none it is the cursor that was started with. -/
structure Tells (start : String) (seen : List Item) (cursor : String) : Prop where
  instant : cursorInstant? cursor =
    (seen.foldl newer (cursorInstant? start)).map Instant.truncated
  unmoved : seen.foldl newer (cursorInstant? start) = none → cursor = start

/-- A poll that succeeds, and the items that it receives. -/
structure Receives (client : Client) (credentials : Option Credentials) (clock : Instant)
    (cursor : String) (items : List Item) (b : UpdateBatch) : Prop where
  answered : ∃ since, since? cursor clock = some since ∧
    client.get (resource since) credentials items? = .ok (some items)
  polled : poll client credentials clock cursor = .ok b

/-- Polls that succeed one after another, each from the cursor that the one before has left; the
server and the clock may be others each time. -/
inductive Polls (credentials : Option Credentials) (start : String) :
    List (List Item) → String → Prop
  | start : Polls credentials start [] start
  | next {polls : List (List Item)} {client : Client} {clock : Instant} {cursor : String}
      {items : List Item} {b : UpdateBatch} (h : Polls credentials start polls cursor)
      (hnext : Receives client credentials clock cursor items b) :
      Polls credentials start (polls ++ [items]) b.cursor

section Polls

variable {client : Client} {credentials : Option Credentials} {clock : Instant}
  {start cursor : String} {seen items : List Item} {polls : List (List Item)} {b : UpdateBatch}

theorem cursorInstant?_cursorText {t : Instant} (h : t.Writable) :
    cursorInstant? (cursorText t) = some t.truncated := by
  rw [cursorInstant?, cursorText, String.toList_ofList, instant?_zuluSecondText h]

theorem cursor_batch_of_none (h : items.foldl newer (cursorInstant? cursor) = none) :
    (batch cursor items).cursor = cursor :=
  congrArg (fun o => (o.map cursorText).getD cursor) h

theorem cursor_batch_of_some {t : Instant}
    (h : items.foldl newer (cursorInstant? cursor) = some t) :
    (batch cursor items).cursor = cursorText t :=
  congrArg (fun o => (o.map cursorText).getD cursor) h

/-- What a poll takes for known is known, or it is the second of a time that is. -/
theorem Tells.known (h : Tells start seen cursor) {t : Instant}
    (ht : Known (cursorInstant? cursor) items t) :
    Known (cursorInstant? start) (seen ++ items) t ∨
      ∃ u, Known (cursorInstant? start) (seen ++ items) u ∧ u.truncated = t := by
  rcases ht with hcursor | ⟨item, hmem, hpushed⟩
  · rw [h.instant] at hcursor
    obtain ⟨u, hu, htruncated⟩ := Option.map_eq_some_iff.mp hcursor
    exact .inr ⟨u, (known_foldl hu).append_left items, htruncated⟩
  · exact .inl (.inr ⟨item, List.mem_append_right _ hmem, hpushed⟩)

theorem Tells.batch (h : Tells start seen cursor)
    (hwritable : ∀ t, Known (cursorInstant? start) (seen ++ items) t → t.Writable) :
    Tells start (seen ++ items) (batch cursor items).cursor := by
  have hsame : (items.foldl newer (cursorInstant? cursor)).map Instant.truncated =
      ((seen ++ items).foldl newer (cursorInstant? start)).map Instant.truncated := by
    rw [List.foldl_append]
    refine foldl_newer_congr ?_ items
    rw [h.instant, Option.map_map]
    exact congrArg (Option.map · _) (funext Instant.truncated_truncated)
  cases hnewest : items.foldl newer (cursorInstant? cursor) with
  | none =>
    have hnone : (seen ++ items).foldl newer (cursorInstant? start) = none := by
      rwa [hnewest, Option.map_none, eq_comm, Option.map_eq_none_iff] at hsame
    rw [cursor_batch_of_none hnewest]
    constructor
    · rw [hnone, Option.map_none]
      cases hinstant : cursorInstant? cursor with
      | none => rfl
      | some t => exact absurd (.inl hinstant) (foldl_eq_none_iff.mp hnewest t)
    · intro _
      refine h.unmoved (foldl_eq_none_iff.mpr fun t ht => ?_)
      exact foldl_eq_none_iff.mp hnone t (ht.append_left items)
  | some n =>
    have hn : n.Writable := by
      rcases h.known (known_foldl hnewest) with hknown | ⟨u, hknown, rfl⟩
      · exact hwritable n hknown
      · exact (hwritable u hknown).truncated
    rw [hnewest, Option.map_some] at hsame
    constructor
    · rw [cursor_batch_of_some hnewest, cursorInstant?_cursorText hn, hsame]
    · intro hnone
      rw [hnone] at hsame
      cases hsame

/-- Every poll that succeeds receives items. -/
theorem exists_receives (h : poll client credentials clock cursor = .ok b) :
    ∃ items, Receives client credentials clock cursor items b := by
  have hpolled := h
  rw [poll] at h
  split at h
  · cases h
  next since hsince =>
    split at h
    · cases h
    · cases h
    next items hget => exact ⟨items, ⟨since, hsince, hget⟩, hpolled⟩

theorem Receives.of_get {since : String} (hsince : since? cursor clock = some since)
    (hget : client.get (resource since) credentials items? = .ok (some items)) :
    Receives client credentials clock cursor items (batch cursor items) := by
  refine ⟨⟨since, hsince, hget⟩, ?_⟩
  simp only [poll, hsince, hget]

theorem Receives.eq_batch (h : Receives client credentials clock cursor items b) :
    b = Search.batch cursor items := by
  obtain ⟨_, hsince, hget⟩ := h.answered
  exact Except.ok.inj (h.polled.symm.trans (Receives.of_get hsince hget).polled)

theorem Receives.ofClock (h : Receives client credentials clock cursor items b) {item : Item}
    (hitem : item ∈ items) {t : Instant} (ht : item.pushedAt = some t) : t.OfClock := by
  obtain ⟨⟨_, _, hget⟩, _⟩ := h
  obtain ⟨v, hv⟩ := Client.exists_of_get hget
  exact ofClock_of_items? hv hitem ht

theorem tells_start (h : Starts start) : Tells start [] start := by
  refine ⟨?_, fun _ => rfl⟩
  rcases h with rfl | ⟨s, hs, hwhole, -⟩
  · rfl
  · rw [List.foldl_nil, hs, Option.map_some, hwhole]

/-- Every time known over some items can be written, when their years can. -/
theorem Starts.writable (h : Starts start)
    (hyears : ∀ item ∈ seen, ∀ t, item.pushedAt = some t → t.HasPlainYear)
    (hclock : ∀ item ∈ seen, ∀ t, item.pushedAt = some t → t.OfClock) {t : Instant}
    (ht : Known (cursorInstant? start) seen t) : t.Writable := by
  rcases ht with hstart | ⟨item, hmem, hpushed⟩
  · rcases h with rfl | ⟨s, hs, -, hyear⟩
    · cases hstart
    · obtain rfl := Option.some.inj (hs.symm.trans hstart)
      exact ⟨hyear, ofClock_of_instant? hs⟩
  · exact ⟨hyears item hmem t hpushed, hclock item hmem t hpushed⟩

theorem Polls.ofClock (h : Polls credentials start polls cursor) :
    ∀ item ∈ polls.flatten, ∀ t, item.pushedAt = some t → t.OfClock := by
  induction h with
  | start => intro item hitem; cases hitem
  | next h hnext ih =>
    intro item hitem t ht
    rw [List.flatten_concat, List.mem_append] at hitem
    rcases hitem with hbefore | hnow
    · exact ih item hbefore t ht
    · exact hnext.ofClock hnow ht

/-- The run lemma: what a poll keeps, every sequence of polls keeps. -/
theorem Polls.tells (hstart : Starts start) (h : Polls credentials start polls cursor)
    (hyears : ∀ item ∈ polls.flatten, ∀ t, item.pushedAt = some t → t.HasPlainYear) :
    Tells start polls.flatten cursor := by
  induction h with
  | start => exact tells_start hstart
  | next h hnext ih =>
    have hclock := (Polls.next h hnext).ofClock
    rw [List.flatten_concat] at hyears hclock ⊢
    rw [hnext.eq_batch]
    exact (ih fun item hitem => hyears item (List.mem_append_left _ hitem)).batch fun t ht =>
      hstart.writable hyears hclock ht

/-- After every poll of a sequence of polls the cursor tells the second of the latest of the time
that was started with and all pushes seen so far. It is still empty if there is none, and it never
tells an earlier time than the cursor before. The poll reports its items one by one. -/
theorem cursor_tells_latest_push (hstart : Starts start)
    (hpolls : Polls credentials start polls cursor)
    (hnext : Receives client credentials clock cursor items b)
    (hyears : ∀ item ∈ polls.flatten ++ items, ∀ t, item.pushedAt = some t → t.HasPlainYear) :
    ((b.cursor = "" ∧ start = "" ∧ ∀ item ∈ polls.flatten ++ items, item.pushedAt = none) ∨
      ∃ t, IsLatest (cursorInstant? start) (polls.flatten ++ items) t ∧
        cursorInstant? b.cursor = some t.truncated) ∧
    (∀ t, cursorInstant? cursor = some t → ∃ t', cursorInstant? b.cursor = some t' ∧ t ≤ t') ∧
    b.changed = items.map Item.fullName := by
  have hbefore : Tells start polls.flatten cursor :=
    hpolls.tells hstart fun item hitem => hyears item (List.mem_append_left _ hitem)
  have hafter : Tells start (polls.flatten ++ items) b.cursor := by
    have hflatten : (polls ++ [items]).flatten = polls.flatten ++ items := List.flatten_concat
    rw [← hflatten] at hyears ⊢
    exact (Polls.next hpolls hnext).tells hstart hyears
  refine ⟨?_, fun t ht => ?_, congrArg UpdateBatch.changed hnext.eq_batch⟩
  · cases hlatest : (polls.flatten ++ items).foldl newer (cursorInstant? start) with
    | some t => exact .inr ⟨t, isLatest_foldl hlatest, by rw [hafter.instant, hlatest]; rfl⟩
    | none =>
      have hunknown := foldl_eq_none_iff.mp hlatest
      have hempty : start = "" := by
        rcases hstart with hempty | ⟨s, hs, -⟩
        · exact hempty
        · exact absurd (.inl hs) (hunknown s)
      refine .inl ⟨(hafter.unmoved hlatest).trans hempty, hempty, fun item hitem => ?_⟩
      rw [Option.eq_none_iff_forall_ne_some]
      exact fun t ht => hunknown t (.inr ⟨item, hitem, ht⟩)
  · rw [hbefore.instant] at ht
    obtain ⟨s, hs, rfl⟩ := Option.map_eq_some_iff.mp ht
    have hknown : Known (polls.flatten.foldl newer (cursorInstant? start)) items s := .inl hs
    obtain ⟨t, hfold, hle⟩ := le_foldl hknown
    refine ⟨t.truncated, ?_, Instant.truncated_mono hle⟩
    rw [hafter.instant, List.foldl_append, hfold, Option.map_some]

/-- A server that answers every request with one body. -/
def answering (body : String) : Client := ⟨fun _ => some ⟨200, body.toUTF8⟩, Launch.codeHost⟩

theorem get_answering {body since : String}
    (hshort : (Client.hostUrl (resource since)).text.length ≤ Http.Url.longestSent)
    (hread : (Value.ofText? body.toList).bind items? = some items) :
    (answering body).get (resource since) none items? = .ok (some items) := by
  have hrequest := Client.request?_codeHost none (resource since)
  rw [if_pos hshort] at hrequest
  rw [← Value.ofBytes?_toUTF8] at hread
  exact Client.get_of_success hrequest rfl rfl hread

/-- A push with a fraction, then one that is written with an offset. -/
theorem latest_push_of_two_polls :
    let first : List Item := [⟨"o/x", some ⟨1709292600, 500000000⟩⟩]
    let second : List Item := [⟨"o/z", none⟩, ⟨"o/y", some ⟨1709294400, 250000000⟩⟩]
    Starts "" ∧ Polls none "" [first] (batch "" first).cursor ∧
      (batch "" first).cursor = "2024-03-01T11:30:00Z" ∧
      Receives
        (answering "\x7b\"items\":[[\"o/z\",null],[\"o/y\",\"2024-03-01T13:00:00.25+01:00\"]]\x7d") none
        ⟨1709294400, 0⟩ (batch "" first).cursor second (batch (batch "" first).cursor second) ∧
      ∃ t, IsLatest none (first ++ second) t ∧
        cursorInstant? (batch (batch "" first).cursor second).cursor = some t.truncated := by
  intro first second
  have hdayBefore : since? "" ⟨1709290800, 0⟩ = some "2024-02-29T11:00:00Z" := by decide +kernel
  have hcursor : since? (batch "" first).cursor ⟨1709294400, 0⟩ = some "2024-03-01T11:30:00Z" := by
    decide +kernel
  have hfirst : Receives
      (answering "\x7b\"items\":[[\"o/x\",\"2024-03-01T11:30:00.5Z\"]]\x7d") none ⟨1709290800, 0⟩ "" first
      (batch "" first) :=
    .of_get hdayBefore (get_answering (by decide +kernel) (by decide +kernel))
  have hpolls : Polls none "" [first] (batch "" first).cursor := .next .start hfirst
  have hnext : Receives
      (answering "\x7b\"items\":[[\"o/z\",null],[\"o/y\",\"2024-03-01T13:00:00.25+01:00\"]]\x7d") none
      ⟨1709294400, 0⟩ (batch "" first).cursor second (batch (batch "" first).cursor second) :=
    .of_get hcursor (get_answering (by decide +kernel) (by decide +kernel))
  have hyears : ∀ item ∈ [first].flatten ++ second, ∀ t ∈ item.pushedAt, t.HasPlainYear := by
    decide +kernel
  have htells := (cursor_tells_latest_push (.inl rfl) hpolls hnext hyears).1
  refine ⟨.inl rfl, hpolls, by decide +kernel, hnext, htells.resolve_left fun hempty => ?_⟩
  cases hempty.2.2 _ List.mem_cons_self

end Polls

end Search
end PackageIndex.GitHub
