/-
Splitting a download into chunks of days.

A chunk ends a whole number of days after its start and the next one starts a day after that
end.  The chunks are ordered and disjoint, but what lies within the day between two of them is
in neither.
-/

import Mathlib.Tactic.Linarith
import TradingEngine.Python

namespace TradingEngine.Data

/-! ### Days and datetimes -/

/-- A day in microseconds. -/
def dayLength : ℤ :=
  86400000000

theorem dayLength_pos : 0 < dayLength := by
  decide

/-- `datetime.min` and `datetime.max`. -/
def minDatetime : Datetime :=
  -62135596800000000

def maxDatetime : Datetime :=
  253402300799999999

/-- `moment + timedelta(days=days)`, `none` where it raises `OverflowError`. -/
def shiftDays (moment : Datetime) (days : ℤ) : Option Datetime :=
  if 999999999 < |days| then none
  else
    let moved := moment + days * dayLength
    if moved < minDatetime ∨ maxDatetime < moved then none else some moved

theorem shiftDays_eq_some {moment moved : Datetime} {days : ℤ}
    (shifted : shiftDays moment days = some moved) : moved = moment + days * dayLength := by
  unfold shiftDays at shifted
  dsimp only at shifted
  split_ifs at shifted
  exact (Option.some.inj shifted).symm

/-! ### Chunks -/

abbrev Chunk : Type :=
  Datetime × Datetime

/-- `ValueError` with its text, or the `OverflowError` of a datetime. -/
inductive ChunkError where
  | valueError (message : String)
  | overflowError
deriving DecidableEq

variable {fromDate toDate current : Datetime} {chunkDays : ℤ}

def chunkEnd (toDate : Datetime) (chunkDays : ℤ) (current : Datetime) : Datetime :=
  min (current + (chunkDays - 1) * dayLength) toDate

theorem chunkEnd_le : chunkEnd toDate chunkDays current ≤ toDate :=
  min_le_right _ _

theorem chunkEnd_sub_le : chunkEnd toDate chunkDays current - current ≤
    (chunkDays - 1) * dayLength := by
  have capped : chunkEnd toDate chunkDays current ≤ current + (chunkDays - 1) * dayLength :=
    min_le_left _ _
  linarith

theorem le_chunkEnd (positive : 0 < chunkDays) (inside : current ≤ toDate) :
    current ≤ chunkEnd toDate chunkDays current := by
  have forward : 0 ≤ (chunkDays - 1) * dayLength := mul_nonneg (by omega) dayLength_pos.le
  exact le_min (by linarith) inside

theorem next_chunk_later {reach next : Datetime} (positive : 0 < chunkDays)
    (inside : current ≤ toDate) (shifted : shiftDays current (chunkDays - 1) = some reach)
    (advanced : shiftDays (min reach toDate) 1 = some next) :
    current + dayLength ≤ next := by
  have reached := shiftDays_eq_some shifted
  have moved := shiftDays_eq_some advanced
  have later : current ≤ min reach toDate := reached ▸ le_chunkEnd positive inside
  linarith

/-- The `while` loop; a chunk is at least one instant, so each round moves on by a day. -/
def splitLoop (toDate : Datetime) (chunkDays : ℤ) (positive : 0 < chunkDays)
    (current : Datetime) : Except ChunkError (List Chunk) :=
  if _inside : current ≤ toDate then
    match _shifted : shiftDays current (chunkDays - 1) with
    | none => .error .overflowError
    | some reach =>
        match _advanced : shiftDays (min reach toDate) 1 with
        | none => .error .overflowError
        | some next =>
            (splitLoop toDate chunkDays positive next).map
              (fun later => (current, min reach toDate) :: later)
  else .ok []
termination_by (toDate + 1 - current).toNat
decreasing_by
  have later := next_chunk_later positive ‹current ≤ toDate› ‹_› ‹_›
  have day := dayLength_pos
  apply (Int.toNat_lt_toNat _).mpr
  · linarith
  · linarith

/-- `split_date_range`. -/
def splitDateRange (fromDate toDate : Datetime) (chunkDays : ℤ) :
    Except ChunkError (List Chunk) :=
  if positive : 0 < chunkDays then splitLoop toDate chunkDays positive fromDate
  else .error (.valueError ("chunk_days must be positive, got " ++ toString chunkDays))

/-! ### What the loop returns -/

variable {positive : 0 < chunkDays} {chunks : List Chunk}

theorem splitLoop_cases (inside : current ≤ toDate)
    (returned : splitLoop toDate chunkDays positive current = .ok chunks) :
    ∃ rest, chunks = (current, chunkEnd toDate chunkDays current) :: rest ∧
      (shiftDays current (chunkDays - 1)).isSome = true ∧
      shiftDays (chunkEnd toDate chunkDays current) 1 =
        some (chunkEnd toDate chunkDays current + dayLength) ∧
      splitLoop toDate chunkDays positive (chunkEnd toDate chunkDays current + dayLength) =
        .ok rest := by
  rw [splitLoop, dif_pos inside] at returned
  split at returned
  · cases returned
  · rename_i reach shifted
    have reached := shiftDays_eq_some shifted
    subst reached
    split at returned
    · cases returned
    · rename_i next advanced
      have moved := shiftDays_eq_some advanced
      rw [one_mul] at moved
      subst moved
      cases others : splitLoop toDate chunkDays positive
          (chunkEnd toDate chunkDays current + dayLength) with
      | error raised =>
          rw [← chunkEnd, others] at returned
          cases returned
      | ok rest =>
          rw [← chunkEnd, others] at returned
          cases returned
          exact ⟨rest, rfl, Option.isSome_iff_exists.mpr ⟨_, shifted⟩, advanced, rfl⟩

theorem splitLoop_step {reach next : Datetime} (inside : current ≤ toDate)
    (shifted : shiftDays current (chunkDays - 1) = some reach)
    (advanced : shiftDays (min reach toDate) 1 = some next) :
    splitLoop toDate chunkDays positive current =
      (splitLoop toDate chunkDays positive next).map
        (fun later => (current, min reach toDate) :: later) := by
  rw [splitLoop, dif_pos inside]
  split
  · rename_i missing
    rw [shifted] at missing
    cases missing
  · rename_i found shifted'
    obtain rfl := Option.some.inj (shifted.symm.trans shifted')
    split
    · rename_i missing
      rw [advanced] at missing
      cases missing
    · rename_i found advanced'
      obtain rfl := Option.some.inj (advanced.symm.trans advanced')
      rfl

theorem splitLoop_of_outside (outside : toDate < current) :
    splitLoop toDate chunkDays positive current = .ok [] := by
  rw [splitLoop, dif_neg (not_le.mpr outside)]

/-- A chunk lies in what is left of the range, and spans less than `chunkDays` days. -/
structure ChunkWithin (current toDate : Datetime) (chunkDays : ℤ) (chunk : Chunk) : Prop where
  starts : current ≤ chunk.1
  proper : chunk.1 ≤ chunk.2
  ends : chunk.2 ≤ toDate
  short : chunk.2 - chunk.1 ≤ (chunkDays - 1) * dayLength

theorem splitLoop_spec (returned : splitLoop toDate chunkDays positive current = .ok chunks) :
    (∀ chunk ∈ chunks, ChunkWithin current toDate chunkDays chunk) ∧
      chunks.Pairwise (fun earlier later => earlier.2 + dayLength ≤ later.1) := by
  -- along the recursion of the loop, whose measure is what is left of the range
  induction steps : (toDate + 1 - current).toNat using Nat.strong_induction_on
    generalizing current chunks with
  | _ steps ih =>
      subst steps
      by_cases inside : current ≤ toDate
      · have day := dayLength_pos
        obtain ⟨rest, rfl, _shifted, _advanced, others⟩ := splitLoop_cases inside returned
        have later : current ≤ chunkEnd toDate chunkDays current := le_chunkEnd positive inside
        have fewer : (toDate + 1 - (chunkEnd toDate chunkDays current + dayLength)).toNat <
            (toDate + 1 - current).toNat := by
          apply (Int.toNat_lt_toNat _).mpr
          · linarith
          · linarith
        obtain ⟨within, apart⟩ := ih _ fewer others rfl
        constructor
        · intro chunk member
          rcases List.mem_cons.mp member with rfl | remaining
          · exact
              { starts := le_refl _
                proper := later
                ends := chunkEnd_le
                short := chunkEnd_sub_le }
          · have bounds := within chunk remaining
            have started := bounds.starts
            exact { bounds with starts := by linarith }
        · exact List.pairwise_cons.mpr ⟨fun chunk member => (within chunk member).starts, apart⟩
      · rw [splitLoop_of_outside (not_le.mp inside)] at returned
        cases returned
        exact ⟨nofun, List.Pairwise.nil⟩

/-! ### Covering the range -/

/-- What a list of chunks for a range should be. -/
structure Covers (fromDate toDate : Datetime) (chunkDays : ℤ) (chunks : List Chunk) : Prop where
  ordered : chunks.Pairwise (fun earlier later => earlier.2 < later.1)
  proper : ∀ chunk ∈ chunks, chunk.1 ≤ chunk.2
  short : ∀ chunk ∈ chunks, chunk.2 - chunk.1 ≤ chunkDays * dayLength
  instants : ∀ instant, fromDate ≤ instant → instant ≤ toDate →
    ∃ chunk ∈ chunks, chunk.1 ≤ instant ∧ instant ≤ chunk.2

theorem splitDateRange_ordered
    (returned : splitDateRange fromDate toDate chunkDays = .ok chunks) :
    chunks.Pairwise (fun earlier later => earlier.2 < later.1) ∧
      (∀ chunk ∈ chunks, chunk.1 ≤ chunk.2) ∧
      ∀ chunk ∈ chunks, chunk.2 - chunk.1 ≤ chunkDays * dayLength := by
  unfold splitDateRange at returned
  split_ifs at returned
  have day := dayLength_pos
  obtain ⟨within, apart⟩ := splitLoop_spec returned
  refine ⟨apart.imp ?_, fun chunk member => (within chunk member).proper, ?_⟩
  · intro earlier later order
    linarith
  · intro chunk member
    have short := (within chunk member).short
    linarith

/-- The range fits in one chunk, and neither the end of that chunk nor the day after the range
is out of the range of datetimes. -/
structure OneChunk (fromDate toDate : Datetime) (chunkDays : ℤ) : Prop where
  fits : toDate ≤ fromDate + (chunkDays - 1) * dayLength
  reachable : (shiftDays fromDate (chunkDays - 1)).isSome = true
  dayAfter : (shiftDays toDate 1).isSome = true

theorem splitDateRange_of_oneChunk (ordered : fromDate ≤ toDate) (positive : 0 < chunkDays)
    (single : OneChunk fromDate toDate chunkDays) :
    splitDateRange fromDate toDate chunkDays = .ok [(fromDate, toDate)] := by
  obtain ⟨reach, shifted⟩ := Option.isSome_iff_exists.mp single.reachable
  obtain ⟨next, advanced⟩ := Option.isSome_iff_exists.mp single.dayAfter
  have reached := shiftDays_eq_some shifted
  have moved := shiftDays_eq_some advanced
  have day := dayLength_pos
  have whole : min reach toDate = toDate := by
    rw [reached]
    exact min_eq_right single.fits
  have done : splitLoop toDate chunkDays positive next = .ok [] :=
    splitLoop_of_outside (by linarith)
  unfold splitDateRange
  rw [dif_pos positive, splitLoop_step ordered shifted (whole.symm ▸ advanced), done, whole]
  rfl

/-- The chunks of a range cover it exactly when it fits in one of them. -/
theorem splitDateRange_covers_iff (ordered : fromDate ≤ toDate) (positive : 0 < chunkDays) :
    (∃ chunks, splitDateRange fromDate toDate chunkDays = .ok chunks ∧
        Covers fromDate toDate chunkDays chunks) ↔
      OneChunk fromDate toDate chunkDays := by
  constructor
  · rintro ⟨chunks, returned, covers⟩
    unfold splitDateRange at returned
    rw [dif_pos positive] at returned
    obtain ⟨rest, rfl, reachable, dayAfter, others⟩ := splitLoop_cases ordered returned
    have fits : toDate ≤ fromDate + (chunkDays - 1) * dayLength := by
      -- else the instant after the first chunk is in no chunk
      by_contra beyond
      have before : chunkEnd toDate chunkDays fromDate < toDate :=
        (min_le_left _ _).trans_lt (not_le.mp beyond)
      have starts_before := le_chunkEnd positive ordered
      obtain ⟨chunk, member, starts, ends⟩ := covers.instants
        (chunkEnd toDate chunkDays fromDate + 1) (by linarith) (Int.add_one_le_iff.mpr before)
      rcases List.mem_cons.mp member with rfl | remaining
      · dsimp only at ends
        linarith
      · have later := ((splitLoop_spec others).1 chunk remaining).starts
        have long : (1 : ℤ) < dayLength := by decide
        linarith
    refine ⟨fits, reachable, ?_⟩
    rw [chunkEnd, min_eq_right fits] at dayAfter
    exact Option.isSome_iff_exists.mpr ⟨_, dayAfter⟩
  · intro single
    refine ⟨_, splitDateRange_of_oneChunk ordered positive single, ?_⟩
    have split := splitDateRange_of_oneChunk ordered positive single
    obtain ⟨apart, proper, short⟩ := splitDateRange_ordered split
    exact
      { ordered := apart
        proper := proper
        short := short
        instants := fun instant starts ends =>
          ⟨(fromDate, toDate), List.mem_cons_self, starts, ends⟩ }

/-! ### January and February in chunks of sixty days -/

/-- The midnights at which January, the last of February and March 2024 begin. -/
def januaryFirst : Datetime :=
  1704067200000000

def februaryLast : Datetime :=
  1709164800000000

def marchFirst : Datetime :=
  1709251200000000

/-- The open of the market on the last of February. -/
def februaryOpen : Datetime :=
  februaryLast + 33300000000

theorem splitDateRange_twoMonths :
    splitDateRange januaryFirst marchFirst 60 =
      .ok [(januaryFirst, februaryLast), (marchFirst, marchFirst)] := by
  have positive : (0 : ℤ) < 60 := by decide
  have january : shiftDays januaryFirst (60 - 1) = some februaryLast := by decide +kernel
  have march : shiftDays (min februaryLast marchFirst) 1 = some marchFirst := by decide +kernel
  have april : shiftDays marchFirst (60 - 1) = some 1714348800000000 := by decide +kernel
  have after : shiftDays (min 1714348800000000 marchFirst) 1 = some 1709337600000000 := by
    decide +kernel
  have first : min februaryLast marchFirst = februaryLast := by decide +kernel
  have last : min 1714348800000000 marchFirst = marchFirst := by decide +kernel
  unfold splitDateRange
  rw [dif_pos positive, splitLoop_step (by decide) january march,
    splitLoop_step (le_refl _) april after, splitLoop_of_outside (by decide), first, last]
  rfl

/-- The last day of February is within the range and in no chunk but for its first instant. -/
theorem twoMonths_skip_a_day :
    splitDateRange januaryFirst marchFirst 60 =
        .ok [(januaryFirst, februaryLast), (marchFirst, marchFirst)] ∧
      januaryFirst ≤ februaryOpen ∧ februaryOpen ≤ marchFirst ∧
      ∀ chunk ∈ [(januaryFirst, februaryLast), (marchFirst, marchFirst)],
        ¬ (chunk.1 ≤ februaryOpen ∧ februaryOpen ≤ chunk.2) :=
  ⟨splitDateRange_twoMonths, by decide +kernel, by decide +kernel, by decide +kernel⟩

theorem oneMonth_covers_iff :
    (∃ chunks, splitDateRange januaryFirst februaryLast 60 = .ok chunks ∧
        Covers januaryFirst februaryLast 60 chunks) ↔
      OneChunk januaryFirst februaryLast 60 :=
  splitDateRange_covers_iff (by decide +kernel) (by decide)

end TradingEngine.Data
