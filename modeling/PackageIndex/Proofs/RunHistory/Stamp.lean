import PackageIndex.Proofs.Text.ByteOrder
import PackageIndex.Proofs.Timestamp.Order
import PackageIndex.RunHistory
/-!
The texts that the run history keeps times as. They are compared byte by byte, which decides like
the times themselves, although a text leaves out the zeros at the end of its fraction; and a row is
read with the times that it was written with.
-/
namespace PackageIndex

namespace Instant

variable {t u : Instant}

theorem stamp_lt_stamp_iff (ht : t.Writable) (hu : u.OfClock) (hyear : u.year ≤ 9999) :
    t.stamp < u.stamp ↔ t < u := by
  rw [String.lt_iff, stamp, stamp, String.toList_ofList, String.toList_ofList,
    Timestamp.text_lt_iff_of_year_le ht hu hyear]

theorem ofStamp?_stamp (h : t.Writable) : ofStamp? t.stamp = some t := by
  rw [ofStamp?, stamp, String.toList_ofList, Timestamp.instant?_text h]

theorem stamp_inj (ht : t.Writable) (hu : u.Writable) : t.stamp = u.stamp ↔ t = u := by
  refine ⟨fun h => ?_, congrArg stamp⟩
  have hread := ofStamp?_stamp ht
  rw [h, ofStamp?_stamp hu] at hread
  exact (Option.some.inj hread).symm

end Instant

namespace RunRow

variable {row : RunRow} {t u : Instant}

theorem startedAt_run (h : row.startedAt = t.stamp) (ht : t.Writable) (id : Int) :
    (row.run id).startedAt = t := by
  rw [run, h, Instant.ofStamp?_stamp ht, Option.getD_some]

theorem finishedAt_run (h : row.finishedAt = some t.stamp) (ht : t.Writable) (id : Int) :
    (row.run id).finishedAt = some t := by
  rw [run, h, Option.bind_some, Instant.ofStamp?_stamp ht]

/-- The bytes of two stamps are in order as their times are, and equal only for equal times, however
many digits their fractions have and in leap seconds, too. A stamp is read as its time to the
nanosecond, and so is a row that has it. -/
theorem stamps_stand_for_times (ht : t.Writable) (hu : u.Writable) :
    (Text.bytes t.stamp < Text.bytes u.stamp ↔ t < u) ∧
    (Text.bytes t.stamp = Text.bytes u.stamp ↔ t = u) ∧
    Instant.ofStamp? t.stamp = some t ∧
    ∀ (row : RunRow) (id : Int),
      (row.startedAt = t.stamp → (row.run id).startedAt = t) ∧
      (row.finishedAt = some t.stamp → (row.run id).finishedAt = some t) := by
  refine ⟨?_, ?_, Instant.ofStamp?_stamp ht, fun row id => ⟨fun h => ?_, fun h => ?_⟩⟩
  · rw [← Text.lt_iff_bytes_lt, Instant.stamp_lt_stamp_iff ht hu.clock hu.year.2]
  · rw [Text.bytes_inj, Instant.stamp_inj ht hu]
  · exact startedAt_run h ht id
  · exact finishedAt_run h ht id

/-- Half a second into a leap second, and a microsecond into the year after it. -/
theorem leap_second_stands_before_the_year :
    let t : Instant := ⟨1483228799, 1500000000⟩
    let u : Instant := ⟨1483228800, 1000⟩
    t.Writable ∧ u.Writable ∧ Text.bytes t.stamp < Text.bytes u.stamp ∧
      t.stamp = "2016-12-31T23:59:60.500+00:00" ∧ Instant.ofStamp? t.stamp = some t := by
  intro t u
  have ht : t.Writable := by decide
  have hu : u.Writable := by decide
  obtain ⟨horder, -, hread, -⟩ := stamps_stand_for_times ht hu
  exact ⟨ht, hu, horder.mpr (by decide), by decide, hread⟩

end RunRow

end PackageIndex
