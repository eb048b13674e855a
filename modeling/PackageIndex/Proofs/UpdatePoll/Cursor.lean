import PackageIndex.Proofs.Json.Spelling
import PackageIndex.Proofs.Json.Written
import PackageIndex.Proofs.Text.Utf8
import PackageIndex.Proofs.UpdatePoll.Outcome
/-!
The cursor that a poll goes on from. A stored cursor is found again, whatever characters it has. Of
other blobs only those are read that are one literal of a cursor; any other one stops the poll
before the feed is asked, and stays.
-/
namespace PackageIndex.UpdateCursor

/-- The UTF-8 bytes of a text that is one literal of a cursor, blanks around it allowed. -/
def IsEncoding (bytes : ByteArray) (cursor : String) : Prop :=
  ∃ s : String, bytes = s.toUTF8 ∧ Json.IsLiteral s.toList cursor

variable {bytes : ByteArray} {row : BlobRow} {cursor : String} {c : Catalog}
  {faults : CatalogFaults}

theorem decode?_eq_some_iff : decode? bytes = some cursor ↔ IsEncoding bytes cursor := by
  rw [decode?, Option.bind_eq_some_iff]
  simp only [Text.fromUTF8?_eq_some_iff, Json.string?OfText_eq_some_iff, IsEncoding]

theorem decode?_eq_none_iff : decode? bytes = none ↔ ∀ cursor, ¬ IsEncoding bytes cursor := by
  simp only [← decode?_eq_some_iff, Option.eq_none_iff_forall_ne_some, ne_eq]

theorem decode?_toUTF8 (s : String) : decode? s.toUTF8 = Json.string?OfText s.toList := by
  rw [decode?, Text.fromUTF8?_eq_some_iff.mpr rfl, Option.bind_some]

/-- Whatever the characters of a cursor, its bytes are read as that cursor. -/
theorem decode?_encode (cursor : String) : decode? (encode cursor) = some cursor := by
  rw [encode, decode?_toUTF8, String.toList_ofList, Json.string?OfText,
    (Json.denotes_ofString cursor).ofText?, Option.bind_some]
  exact Json.text?_eq_some_iff.mpr rfl

theorem store_of_passed (h : faults (.writeBlob key) = none) (clock : Instant) :
    store faults clock cursor c = .ok ((), c.writeBlob clock key (encode cursor)) := by
  rw [store, Access.writeBlob, Access.guarded_of_none _ _ h, Access.writing]

/-- Where the catalog lets the blob be read, a cursor is loaded just when it is the one kept. -/
theorem load_eq_ok_iff (h : faults (.readBlob key) = none) :
    load faults c = .ok cursor ↔ UpdatePoll.KeepsCursor c cursor := by
  refine ⟨fun hload => ?_, UpdatePoll.load_of_keepsCursor h⟩
  cases hblob : c.blobs.find? key with
  | none =>
    rw [UpdatePoll.load_of_keepsCursor h (.absent hblob)] at hload
    obtain rfl := Except.ok.inj hload
    exact .absent hblob
  | some row =>
    cases hdecode : decode? row.value with
    | none =>
      rw [UpdatePoll.load_of_corrupt h hblob hdecode] at hload
      cases hload
    | some kept =>
      rw [UpdatePoll.load_of_keepsCursor h (.stored hblob hdecode)] at hload
      obtain rfl := Except.ok.inj hload
      exact .stored hblob hdecode

theorem keepsCursor_iff_of_blob (hblob : c.blobs.find? key = some row) :
    UpdatePoll.KeepsCursor c cursor ↔ IsEncoding row.value cursor := by
  rw [← decode?_eq_some_iff]
  constructor
  · intro h
    cases h with
    | absent hnone => cases hnone.symm.trans hblob
    | stored hstored hdecode => rwa [Option.some.inj (hblob.symm.trans hstored)]
  · exact .stored hblob

/-- What a corrupt blob is answered with. -/
def corrupt : JobError := .config (becauseOf "Stored update cursor is corrupt" Cause.json.mark)

/-- A poll that meets a corrupt blob leaves it, and does not ask the feed. -/
theorem poll_of_corrupt {feed : UpdateFeed} {faultsAt : Nat → CatalogFaults}
    (h : load (faultsAt 0) c = .error corrupt) (clock : Instant) :
    UpdatePoll.poll feed faultsAt clock c = ⟨.error (.failed corrupt), c, none, none⟩ := by
  rw [UpdatePoll.poll, h]

/-- A stored cursor is loaded again, and no other blob and no other table is touched by it. What is
loaded from a blob is the cursor that the blob is a literal of; without a blob it is the empty one,
and a blob that is no literal is an error, at which a poll ends and leaves the catalog as it was. -/
theorem stored_cursor_is_loaded {writing reading : CatalogFaults} (c : Catalog)
    (hwrite : writing (.writeBlob key) = none) (hread : reading (.readBlob key) = none) :
    (∀ clock cursor, ∃ c', store writing clock cursor c = .ok ((), c') ∧
      load reading c' = .ok cursor ∧
      c'.packages = c.packages ∧ c'.queue = c.queue ∧ c'.bad = c.bad ∧
      ∀ k, k ≠ key → c'.blobs.find? k = c.blobs.find? k) ∧
    (c.blobs.find? key = none → load reading c = .ok "") ∧
    ∀ row, c.blobs.find? key = some row →
      (∀ cursor, load reading c = .ok cursor ↔ IsEncoding row.value cursor) ∧
      ((∀ cursor, ¬ IsEncoding row.value cursor) →
        load reading c = .error corrupt ∧
        ∀ (feed : UpdateFeed) (faultsAt : Nat → CatalogFaults) (clock : Instant),
          faultsAt 0 = reading →
          UpdatePoll.poll feed faultsAt clock c = ⟨.error (.failed corrupt), c, none, none⟩) := by
  refine ⟨fun clock cursor => ?_, fun hnone => ?_,
    fun row hblob => ⟨fun cursor => ?_, fun hnot => ?_⟩⟩
  · have hsets := Table.sets_some_iff.mpr
      (rfl : _ = c.blobs.put key (.written clock (encode cursor)))
    refine ⟨_, store_of_passed hwrite clock, ?_, rfl, rfl, rfl, hsets.others⟩
    exact (load_eq_ok_iff hread).mpr (.stored hsets.key (decode?_encode cursor))
  · exact (load_eq_ok_iff hread).mpr (.absent hnone)
  · rw [load_eq_ok_iff hread, keepsCursor_iff_of_blob hblob]
  · have hload : load reading c = .error corrupt :=
      UpdatePoll.load_of_corrupt hread hblob (decode?_eq_none_iff.mpr hnot)
    refine ⟨hload, ?_⟩
    rintro feed faultsAt clock rfl
    exact poll_of_corrupt hload clock

/-- A catalog whose cursor is a bracket without its partner. -/
def brokenCatalog : Catalog := { blobs := Table.empty.put key (.written .epoch "[".toUTF8) }

theorem broken_cursor_is_kept :
    load (fun _ => none) brokenCatalog = .error corrupt ∧
      ∃ c', store (fun _ => none) .epoch "\"😀" brokenCatalog = .ok ((), c') ∧
        load (fun _ => none) c' = .ok "\"😀" := by
  have hblob : brokenCatalog.blobs.find? key = some (.written .epoch "[".toUTF8) := by
    simp [brokenCatalog, Table.find?_put]
  have hnot : ∀ cursor, ¬ IsEncoding "[".toUTF8 cursor := by
    apply decode?_eq_none_iff.mp
    rw [decode?_toUTF8]
    decide
  obtain ⟨hstore, -, hstored⟩ :=
    @stored_cursor_is_loaded (fun _ => none) (fun _ => none) brokenCatalog rfl rfl
  obtain ⟨c', hc', hload, -⟩ := hstore .epoch "\"😀"
  exact ⟨((hstored _ hblob).2 hnot).1, c', hc', hload⟩

end PackageIndex.UpdateCursor
