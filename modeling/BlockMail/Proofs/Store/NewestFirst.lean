import BlockMail.Proofs.Store.Shown
import BlockMail.Proofs.Time.TimeLine

/-!
# Listings on the time line

A table sorts the rows of a listing by the texts of their times. It comes to the same as
sorting what the rows read as by the times themselves, so the newest are first.
-/

set_option autoImplicit false

namespace BlockMail.Store

namespace Row.Selected

variable {row other : Row} {instant later : Time.Instant} {record newer : DocumentRecord}

/-- The texts of two rows compare as the times of their records. -/
theorem decide_le (selected : row.Selected instant record)
    (others : other.Selected later newer) :
    decide (other.updatedAt ≤ row.updatedAt) =
      record.updatedAt.notBefore newer.updatedAt := by
  rw [selected.dated, others.dated, selected.time, others.time]
  exact (Time.Instant.sameOrder selected.years others.years).notBefore

end Row.Selected

/-- A listing against the rows that a user may read. -/
structure Table.ListedByTime (table : Table) (requester : UserId)
    (summaries : List Summary) : Prop where
  /-- What the rows read as, sorted by the times; of two equal ones the later row is first. -/
  sorted : ∃ shown, (table.rows.filter (·.isListedFor requester)).mapM Row.summary = .ok shown ∧
    summaries = shown.reverse.mergeSort fun first second =>
      first.updatedAt.notBefore second.updatedAt
  newestFirst : summaries.Pairwise fun first second =>
    ¬first.updatedAt.Before second.updatedAt

namespace Table

variable {table : Table} {requester : UserId}

/-- Whatever a user is listed has a visibility and a time in a year of four digits, as they
are written. -/
def WrittenFor (table : Table) (requester : UserId) : Prop :=
  ∀ row ∈ table.rows, row.isListedFor requester = true →
    ∃ visibility instant, row.Filled visibility instant ∧ instant.FourDigits

theorem WrittenFor.exists_pairs (written : table.WrittenFor requester) :
    ∃ pairs : List (Row × Summary),
      table.rows.filter (·.isListedFor requester) = pairs.map Prod.fst ∧
      ∀ pair ∈ pairs, ∃ instant record, pair.1.Selected instant record ∧
        pair.2 = record.summary := by
  have selected (row : Row) (member : row ∈ table.rows.filter (·.isListedFor requester)) :
      ∃ instant record, row.Selected instant record := by
    obtain ⟨there, shown⟩ := List.mem_filter.1 member
    obtain ⟨visibility, instant, filled, years⟩ := written row there shown
    exact ⟨instant, filled.selected years⟩
  have read := mapM_eq_filterMap fun row member => by
    obtain ⟨_, record, chosen⟩ := selected row member
    exact ⟨record.summary, chosen.summed⟩
  obtain ⟨pairs, rows, _, each⟩ := exists_pairs_of_mapM read
  refine ⟨pairs, rows.symm, ?_⟩
  intro pair member
  obtain ⟨instant, record, chosen⟩ := selected pair.1 (rows ▸ List.mem_map_of_mem member)
  have same := each pair member
  rw [chosen.summed] at same
  exact ⟨instant, record, chosen, (Except.ok.inj same).symm⟩

theorem WrittenFor.list_by_time (written : table.WrittenFor requester) :
    ∃ summaries, table.list requester = .ok summaries ∧
      table.ListedByTime requester summaries := by
  obtain ⟨pairs, rows, each⟩ := written.exists_pairs
  have read (chosen : List (Row × Summary)) (inside : chosen ⊆ pairs) :
      (chosen.map Prod.fst).mapM Row.summary = .ok (chosen.map Prod.snd) := by
    apply mapM_pairs
    intro pair member
    obtain ⟨_, _, selected, same⟩ := each pair (inside member)
    rw [same, selected.summed]
  -- Sorted as pairs, the rows and what they read as stay side by side.
  let sorted := pairs.reverse.mergeSort fun first second =>
    decide (second.1.updatedAt ≤ first.1.updatedAt)
  have inside : sorted ⊆ pairs := by
    intro pair member
    rwa [List.mem_mergeSort, List.mem_reverse] at member
  have byText : table.listed requester = sorted.map Prod.fst := by
    rw [listed, rows, ← List.map_reverse]
    symm
    apply List.map_mergeSort
    intro first _ second _
    rfl
  have byTime : sorted.map Prod.snd = (pairs.map Prod.snd).reverse.mergeSort
      fun first second => first.updatedAt.notBefore second.updatedAt := by
    rw [← List.map_reverse]
    apply List.map_mergeSort
    intro first member second memberToo
    obtain ⟨_, _, selected, same⟩ := each first (List.mem_reverse.1 member)
    obtain ⟨_, _, others, sameToo⟩ := each second (List.mem_reverse.1 memberToo)
    rw [same, sameToo]
    exact selected.decide_le others
  refine ⟨sorted.map Prod.snd, ?_, ?_⟩
  · rw [list_eq_mapM, byText, read sorted inside]
  · constructor
    case sorted => exact ⟨pairs.map Prod.snd, rows ▸ read pairs (List.Subset.refl _), byTime⟩
    case newestFirst =>
      rw [byTime]
      apply (pairwise_newestFirst Summary.updatedAt _).imp
      intro first second order
      exact Time.Instant.notBefore_iff_before.1 order

end Table

/-- In years of four digits the texts of times have one width and are read back, up to
microseconds. They are in the order of the times, so a listing that is sorted by them has the
newest first. -/
theorem text_order_is_time_order :
    (∀ instant : Time.Instant, instant.FourDigits →
      instant.microsText.toList.length = 27 ∧
        Time.readExact instant.microsText = .ok instant.truncateMicros) ∧
    (∀ left right : Time.Instant, left.FourDigits → right.FourDigits →
      Time.Instant.SameOrder left right) ∧
    ∀ (table : Table) (requester : UserId), table.WrittenFor requester →
      ∃ summaries, table.list requester = .ok summaries ∧
        table.ListedByTime requester summaries := by
  refine ⟨?_, ?_, ?_⟩
  · intro instant years
    exact ⟨Time.Instant.length_microsText years, Time.readExact_microsText years⟩
  · intro left right leftYear rightYear
    exact Time.Instant.sameOrder leftYear rightYear
  · intro table requester written
    exact written.list_by_time

/-- The end of a leap second and the beginning of the year behind it. -/
theorem text_order_is_time_order_over_leap_second :
    let leap : Time.Instant := ⟨⟨2016, 12, 31, by decide⟩, 1439, 59, 1999999999, by decide⟩
    let newYear : Time.Instant := ⟨⟨2017, 1, 1, by decide⟩, 0, 0, 0, by decide⟩
    let bill : Document := ⟨⟨"d1"⟩, ⟨"ada"⟩, "Bill", "Shop", "Due", none, .everyone, none, [],
      newYear⟩
    let welcome : Document := ⟨⟨"d2"⟩, ⟨"ada"⟩, "Welcome", "News", "Hi", none, .everyone, none, [],
      leap⟩
    let table : Table := ⟨[Row.ofDocument bill, Row.ofDocument welcome], by decide⟩
    leap.FourDigits ∧ newYear.FourDigits ∧ leap.microsText = "2016-12-31T23:59:60.999999Z" ∧
      Time.readExact "2016-12-31T23:59:60.999999Z" = .ok leap.truncateMicros ∧
      leap.microsText < newYear.microsText ∧ table.WrittenFor ⟨"bob"⟩ ∧
      ∃ summaries, table.list ⟨"bob"⟩ = .ok summaries ∧
        table.ListedByTime ⟨"bob"⟩ summaries := by
  intro leap newYear bill welcome table
  obtain ⟨readBack, ordered, listed⟩ := text_order_is_time_order
  have leapYear : leap.FourDigits := by decide
  have newYearYear : newYear.FourDigits := by decide
  have text : leap.microsText = "2016-12-31T23:59:60.999999Z" := by decide +kernel
  have written : table.WrittenFor ⟨"bob"⟩ := by
    intro row there _
    have inserted : row ∈ [Row.ofDocument bill, Row.ofDocument welcome] := there
    simp only [List.mem_cons, List.not_mem_nil, or_false] at inserted
    rcases inserted with rfl | rfl
    · exact ⟨_, newYear, Row.filled_ofDocument bill, newYearYear⟩
    · exact ⟨_, leap, Row.filled_ofDocument welcome, leapYear⟩
  refine ⟨leapYear, newYearYear, text, ?_, ?_, written, listed table ⟨"bob"⟩ written⟩
  · rw [← text]
    exact (readBack leap leapYear).2
  · exact (ordered leap newYear leapYear newYearYear).before.2 (by decide)

end BlockMail.Store
