/-
Malformed ticks among good ones.

The first `try` block does not catch the `InvalidOperation` of a text that is no number,
the volume's does not catch the overflow of an infinite value, and the average price's
catches nothing that it can meet.  Each of them leaves the loop, and the rest of the
batch is lost.
-/

import TradingEngine.LiveData.ZerodhaFeed

namespace TradingEngine.ZerodhaFeed

open TryExcept

/-! ### Good ticks -/

def FeedValue.isInteger : FeedValue → Bool
  | .number value => value.den = 1
  | _ => false

def FeedValue.isPositiveNumber : FeedValue → Bool
  | .number value => 0 < value
  | .infinite negative => !negative
  | _ => false

/-- An integer token and a positive price. -/
def RawTick.isGood (raw : RawTick) : Bool :=
  raw.instrumentToken.isInteger && raw.lastPrice.isPositiveNumber

/-- Nothing leaves the call, and the callback is called once for each good tick, in the
order of the batch. -/
def GoodTicksDelivered (ticks : List (RawTick × Datetime)) (result : BatchResult) : Prop :=
  result.raised = none ∧
    (result.calls.map FeedTick.raw).filter RawTick.isGood =
      (ticks.map Prod.fst).filter RawTick.isGood

/-! ### One tick -/

section Conversion

variable (py : Python) (decimal : String → Option DecimalValue)

/-- No field makes an exception escape: the token is not infinite, and where it is a
number and there is a price, the price and the average price are decimals, the volume is
not infinite, and the price of a positive token is not a NaN. -/
def RawTick.NoEscape (raw : RawTick) : Prop :=
  (∀ negative, raw.instrumentToken ≠ .infinite negative) ∧
  ∀ token, raw.instrumentToken.toInt py = .ok token → raw.lastPrice ≠ .absent →
    ∃ price, raw.lastPrice.toDecimal decimal = .ok price ∧
      (∀ negative, raw.volumeField ≠ .infinite negative) ∧
      (raw.averageField = .null ∨
        ∃ average, raw.averageField.toDecimal decimal = .ok average) ∧
      (0 < token → price ≠ .nan)

/-- The fields pass the checks of `LiveTick`. -/
def RawTick.Accepted (raw : RawTick) : Prop :=
  ∃ token price, raw.instrumentToken.toInt py = .ok token ∧
    raw.lastPrice.toDecimal decimal = .ok price ∧ 0 < token ∧ price.leZero = .ok false ∧
    ∀ volume, raw.volumeField.toInt py = .ok volume → 0 ≤ volume

variable {py decimal}

theorem FeedValue.toInt_error {value : FeedValue} {exception : FeedRaised}
    (failed : value.toInt py = .error exception)
    (finite : ∀ negative, value ≠ .infinite negative) :
    exception = .typeError ∨ exception = .valueError := by
  cases value with
  | infinite negative => exact absurd rfl (finite negative)
  | text shown =>
      change (py.int shown).elim _ _ = _ at failed
      cases read : py.int shown with
      | none =>
          rw [read] at failed
          cases failed
          exact Or.inr rfl
      | some number =>
          rw [read] at failed
          cases failed
  | nan =>
      cases failed
      exact Or.inr rfl
  | boolean value => cases failed
  | number value => cases failed
  | absent | null | moment time | other shown truthy =>
      cases failed
      exact Or.inl rfl

theorem FeedValue.toDecimal_error {value : FeedValue} {exception : FeedRaised}
    (failed : value.toDecimal decimal = .error exception) : exception = .invalidOperation := by
  cases value with
  | text shown | other shown truthy =>
      change (decimal shown).elim _ _ = _ at failed
      cases read : decimal shown with
      | none =>
          rw [read] at failed
          cases failed
          rfl
      | some number =>
          rw [read] at failed
          cases failed
  | number value => cases failed
  | infinite negative => cases failed
  | nan => cases failed
  | absent | null | boolean value | moment time =>
      cases failed
      rfl

/-- The volume, if it is not infinite: what `int` reads, else none. -/
theorem guarded_parseVolume {raw : RawTick}
    (finite : ∀ negative, raw.volumeField ≠ .infinite negative) :
    guarded [.typeError, .valueError] none (raw.parseVolume py) =
      .ok (raw.volumeField.toInt py).toOption := by
  unfold RawTick.parseVolume
  by_cases missing : raw.volumeField = .null
  · rw [if_pos missing, missing, guarded_ok]
    rfl
  · rw [if_neg missing]
    cases read : raw.volumeField.toInt py with
    | ok volume => exact guarded_ok (some volume)
    | error exception =>
        rcases FeedValue.toInt_error read finite with rfl | rfl
        · exact guarded_of_mem (by decide)
        · exact guarded_of_mem (by decide)

variable {tokenSymbolMap : ℤ → Option String} {now : Datetime} {raw : RawTick}

theorem rawTickToLiveTick_of_read {token : ℤ} {price : DecimalValue}
    (read : raw.tokenAndPrice py decimal = .ok (token, price)) :
    rawTickToLiveTick py decimal tokenSymbolMap now raw =
      (guarded [.typeError, .valueError] none (raw.parseVolume py)).bind (fun volume =>
        (guarded [.typeError, .valueError] none (raw.parseAverage decimal)).bind (fun average =>
          guarded [.valueError] none
            ((liveTick token (tokenSymbolMap token) (raw.parseTimestamp now) price volume average
              raw).map some))) := by
  unfold rawTickToLiveTick
  rw [read]
  rfl

theorem rawTickToLiveTick_of_failed {exception : FeedRaised}
    (failed : raw.tokenAndPrice py decimal = .error exception) :
    rawTickToLiveTick py decimal tokenSymbolMap now raw =
      if exception ∈ [.keyError, .typeError, .valueError] then .ok none
      else .error exception := by
  unfold rawTickToLiveTick
  rw [failed]
  change (guarded _ none (.error exception)).bind _ = _
  by_cases listed : exception ∈ [.keyError, .typeError, .valueError]
  · rw [guarded_of_mem listed, if_pos listed]
    rfl
  · rw [guarded_of_notMem listed, if_neg listed]
    rfl

private theorem subscript_of_present {value : FeedValue} (present : value ≠ .absent) :
    value.subscript = .ok value := by
  cases value <;> first | rfl | exact absurd rfl present

private theorem tokenAndPrice_eq (present : raw.instrumentToken ≠ .absent) :
    raw.tokenAndPrice py decimal =
      (raw.instrumentToken.toInt py).bind (fun token =>
        raw.lastPrice.subscript.bind (fun shown =>
          (shown.toDecimal decimal).bind (fun price => .ok (token, price)))) := by
  unfold RawTick.tokenAndPrice
  rw [subscript_of_present present]
  rfl

/-- A token that `int` refuses ends the first block with the exception of `int`. -/
private theorem tokenAndPrice_of_tokenError {exception : FeedRaised}
    (present : raw.instrumentToken ≠ .absent)
    (refused : raw.instrumentToken.toInt py = .error exception) :
    raw.tokenAndPrice py decimal = .error exception := by
  rw [tokenAndPrice_eq present, refused]
  rfl

/-- With a token read and a price given, only `Decimal` can fail in the first block. -/
private theorem tokenAndPrice_of_token {token : ℤ} (present : raw.instrumentToken ≠ .absent)
    (read : raw.instrumentToken.toInt py = .ok token) (priced : raw.lastPrice ≠ .absent) :
    raw.tokenAndPrice py decimal =
      (raw.lastPrice.toDecimal decimal).bind (fun price => .ok (token, price)) := by
  rw [tokenAndPrice_eq present, read, subscript_of_present priced]
  rfl

private theorem FeedValue.finite_of_toInt {value : FeedValue} {token : ℤ}
    (read : value.toInt py = .ok token) : ∀ negative, value ≠ .infinite negative := by
  intro negative infinite
  rw [infinite] at read
  cases read

/-- What `int` raises is caught by the first block, unless the value is infinite. -/
private theorem FeedValue.toInt_error_cases {value : FeedValue} {exception : FeedRaised}
    (refused : value.toInt py = .error exception) :
    (∃ negative, value = .infinite negative) ∧
        exception ∉ [FeedRaised.keyError, .typeError, .valueError] ∨
      (∀ negative, value ≠ .infinite negative) ∧
        exception ∈ [FeedRaised.keyError, .typeError, .valueError] := by
  by_cases infinite : ∃ negative, value = .infinite negative
  · obtain ⟨negative, shape⟩ := infinite
    have overflow : exception = .overflowError := by
      rw [shape] at refused
      cases refused
      rfl
    refine Or.inl ⟨⟨negative, shape⟩, ?_⟩
    rw [overflow]
    decide
  · push Not at infinite
    refine Or.inr ⟨infinite, ?_⟩
    rcases FeedValue.toInt_error refused infinite with rfl | rfl
    · decide
    · decide

/-- How the first block ends: with a token and a price, with an exception that it catches,
or with one that it does not catch. -/
theorem tokenAndPrice_cases (py : Python) (decimal : String → Option DecimalValue)
    (raw : RawTick) :
    (∃ token price, raw.instrumentToken.toInt py = .ok token ∧
      raw.lastPrice.toDecimal decimal = .ok price ∧
      raw.tokenAndPrice py decimal = .ok (token, price)) ∨
    (∃ exception ∈ [FeedRaised.keyError, .typeError, .valueError],
      raw.tokenAndPrice py decimal = .error exception ∧
      (∀ negative, raw.instrumentToken ≠ .infinite negative) ∧
      ∀ token, raw.instrumentToken.toInt py = .ok token → raw.lastPrice = .absent) ∨
    (∃ exception ∉ [FeedRaised.keyError, .typeError, .valueError],
      raw.tokenAndPrice py decimal = .error exception ∧
      ((∃ negative, raw.instrumentToken = .infinite negative) ∨
        ∃ token, raw.instrumentToken.toInt py = .ok token ∧ raw.lastPrice ≠ .absent ∧
          ∀ price, raw.lastPrice.toDecimal decimal ≠ .ok price)) := by
  by_cases missing : raw.instrumentToken = .absent
  · refine Or.inr (Or.inl ⟨.keyError, by decide, ?_, ?_, ?_⟩)
    · unfold RawTick.tokenAndPrice
      rw [missing]
      rfl
    · intro negative infinite
      cases missing.symm.trans infinite
    · intro token read
      rw [missing] at read
      cases read
  · cases tokenRead : raw.instrumentToken.toInt py with
    | error exception =>
        have ended : raw.tokenAndPrice py decimal = .error exception :=
          tokenAndPrice_of_tokenError missing tokenRead
        rcases FeedValue.toInt_error_cases tokenRead with
          ⟨infinite, uncaught⟩ | ⟨finite, caught⟩
        · exact Or.inr (Or.inr ⟨exception, uncaught, ended, Or.inl infinite⟩)
        · exact Or.inr (Or.inl ⟨exception, caught, ended, finite, nofun⟩)
    | ok token =>
        by_cases absent : raw.lastPrice = .absent
        · refine Or.inr (Or.inl ⟨.keyError, by decide, ?_, FeedValue.finite_of_toInt tokenRead,
            fun _token _read => absent⟩)
          rw [tokenAndPrice_eq missing, tokenRead, absent]
          rfl
        · rw [tokenAndPrice_of_token missing tokenRead absent]
          cases priceRead : raw.lastPrice.toDecimal decimal with
          | error exception =>
              refine Or.inr (Or.inr ⟨exception, ?_, rfl, Or.inr ⟨token, rfl, absent, nofun⟩⟩)
              rw [FeedValue.toDecimal_error priceRead]
              decide
          | ok price => exact Or.inl ⟨token, price, rfl, rfl, rfl⟩

theorem DecimalValue.leZero_eq_error_iff {price : DecimalValue} {exception : FeedRaised} :
    price.leZero = .error exception ↔ price = .nan ∧ exception = .invalidOperation := by
  cases price with
  | finite value => exact ⟨nofun, nofun⟩
  | infinite negative => exact ⟨nofun, nofun⟩
  | nan =>
      constructor
      · intro raised
        cases raised
        exact ⟨rfl, rfl⟩
      · intro same
        rw [same.2]
        rfl

/-- How the checks of `LiveTick` end. -/
theorem liveTick_cases (token : ℤ) (symbol : Option String) (timestamp : Datetime)
    (price : DecimalValue) (volume : Option ℤ) (average : Option DecimalValue) (raw : RawTick) :
    (liveTick token symbol timestamp price volume average raw = .error .invalidOperation ∧
      0 < token ∧ price = .nan) ∨
    (liveTick token symbol timestamp price volume average raw = .error .valueError ∧
      (0 < token → price ≠ .nan) ∧
      ¬ (0 < token ∧ price.leZero = .ok false ∧ ∀ value, volume = some value → 0 ≤ value)) ∨
    ((∃ tick, liveTick token symbol timestamp price volume average raw = .ok tick ∧
        tick.raw = raw) ∧
      (0 < token → price ≠ .nan) ∧
      0 < token ∧ price.leZero = .ok false ∧ ∀ value, volume = some value → 0 ≤ value) := by
  unfold liveTick
  by_cases positive : 0 < token
  · rw [dif_pos positive]
    split
    · rename_i exception raised
      obtain ⟨notNumber, invalid⟩ := DecimalValue.leZero_eq_error_iff.mp raised
      rw [invalid]
      exact Or.inl ⟨rfl, positive, notNumber⟩
    · rename_i small
      have number : price ≠ .nan := by
        rintro rfl
        cases small
      refine Or.inr (Or.inl ⟨rfl, fun _positive => number, ?_⟩)
      intro checks
      rw [small] at checks
      cases checks.2.1
    · rename_i large
      have number : price ≠ .nan := by
        rintro rfl
        cases large
      by_cases counted : ∀ value, volume = some value → 0 ≤ value
      · rw [dif_pos counted]
        exact Or.inr (Or.inr ⟨⟨_, rfl, rfl⟩, fun _positive => number, positive, large, counted⟩)
      · rw [dif_neg counted]
        exact Or.inr (Or.inl ⟨rfl, fun _positive => number, fun checks => counted checks.2.2⟩)
  · rw [dif_neg positive]
    exact Or.inr (Or.inl ⟨rfl, fun above => absurd above positive,
      fun checks => positive checks.1⟩)

section Read

variable {token : ℤ} {price : DecimalValue}

private theorem noEscape_iff_of_read (tokenRead : raw.instrumentToken.toInt py = .ok token)
    (priceRead : raw.lastPrice.toDecimal decimal = .ok price) :
    raw.NoEscape py decimal ↔
      (∀ negative, raw.volumeField ≠ .infinite negative) ∧
      (raw.averageField = .null ∨
        ∃ average, raw.averageField.toDecimal decimal = .ok average) ∧
      (0 < token → price ≠ .nan) := by
  have finite : ∀ negative, raw.instrumentToken ≠ .infinite negative := by
    intro negative infinite
    rw [infinite] at tokenRead
    cases tokenRead
  have present : raw.lastPrice ≠ .absent := by
    intro absent
    rw [absent] at priceRead
    cases priceRead
  constructor
  · intro noEscape
    obtain ⟨found, foundRead, rest⟩ := noEscape.2 token tokenRead present
    rw [priceRead] at foundRead
    cases foundRead
    exact rest
  · intro rest
    refine ⟨finite, ?_⟩
    intro other otherRead _present
    rw [tokenRead] at otherRead
    cases otherRead
    exact ⟨price, priceRead, rest⟩

private theorem accepted_iff_of_read (tokenRead : raw.instrumentToken.toInt py = .ok token)
    (priceRead : raw.lastPrice.toDecimal decimal = .ok price) :
    raw.Accepted py decimal ↔
      0 < token ∧ price.leZero = .ok false ∧
        ∀ volume, (raw.volumeField.toInt py).toOption = some volume → 0 ≤ volume := by
  have volumes : ∀ volume, (raw.volumeField.toInt py).toOption = some volume ↔
      raw.volumeField.toInt py = .ok volume := by
    intro volume
    cases raw.volumeField.toInt py with
    | error exception => exact ⟨nofun, nofun⟩
    | ok found => simp [Except.toOption]
  simp only [volumes]
  constructor
  · intro accepted
    obtain ⟨found, other, foundRead, otherRead, rest⟩ := accepted
    rw [tokenRead] at foundRead
    rw [priceRead] at otherRead
    cases foundRead
    cases otherRead
    exact rest
  · intro rest
    exact ⟨token, price, tokenRead, priceRead, rest⟩

private theorem guarded_parseAverage (decimal : String → Option DecimalValue) (raw : RawTick) :
    ((∃ average, guarded [.typeError, .valueError] none (raw.parseAverage decimal) =
        .ok average) ∧
      (raw.averageField = .null ∨
        ∃ average, raw.averageField.toDecimal decimal = .ok average)) ∨
    ((∃ exception, guarded [.typeError, .valueError] none (raw.parseAverage decimal) =
        .error exception) ∧
      ¬ (raw.averageField = .null ∨
        ∃ average, raw.averageField.toDecimal decimal = .ok average)) := by
  unfold RawTick.parseAverage
  by_cases missing : raw.averageField = .null
  · rw [if_pos missing]
    exact Or.inl ⟨⟨none, guarded_ok none⟩, Or.inl missing⟩
  · rw [if_neg missing]
    cases read : raw.averageField.toDecimal decimal with
    | ok average => exact Or.inl ⟨⟨some average, guarded_ok _⟩, Or.inr ⟨average, rfl⟩⟩
    | error exception =>
        rw [FeedValue.toDecimal_error read]
        refine Or.inr ⟨⟨.invalidOperation, guarded_of_notMem (by decide)⟩, ?_⟩
        intro fine
        rcases fine with absent | ⟨average, other⟩
        · exact missing absent
        · cases other

private theorem rawTickToLiveTick_cases_of_read
    (tokenRead : raw.instrumentToken.toInt py = .ok token)
    (priceRead : raw.lastPrice.toDecimal decimal = .ok price)
    (read : raw.tokenAndPrice py decimal = .ok (token, price)) :
    ((∃ exception, rawTickToLiveTick py decimal tokenSymbolMap now raw = .error exception) ∧
      ¬ raw.NoEscape py decimal) ∨
    (rawTickToLiveTick py decimal tokenSymbolMap now raw = .ok none ∧
      raw.NoEscape py decimal ∧ ¬ raw.Accepted py decimal) ∨
    ((∃ tick, rawTickToLiveTick py decimal tokenSymbolMap now raw = .ok (some tick) ∧
        tick.raw = raw) ∧
      raw.NoEscape py decimal ∧ raw.Accepted py decimal) := by
  rw [rawTickToLiveTick_of_read read, noEscape_iff_of_read tokenRead priceRead,
    accepted_iff_of_read tokenRead priceRead]
  by_cases overflow : ∃ negative, raw.volumeField = .infinite negative
  · left
    obtain ⟨negative, infinite⟩ := overflow
    refine ⟨⟨.overflowError, ?_⟩, fun fine => fine.1 negative infinite⟩
    unfold RawTick.parseVolume
    rw [infinite]
    rfl
  · push Not at overflow
    rw [guarded_parseVolume overflow]
    change ((∃ exception, (guarded _ none (raw.parseAverage decimal)).bind _ = .error exception) ∧
      _) ∨ ((guarded _ none (raw.parseAverage decimal)).bind _ = _ ∧ _) ∨
        ((∃ tick, (guarded _ none (raw.parseAverage decimal)).bind _ = _ ∧ _) ∧ _)
    rcases guarded_parseAverage decimal raw with
      ⟨⟨average, averageRead⟩, fine⟩ | ⟨⟨exception, failed⟩, unread⟩
    · rw [averageRead]
      rcases liveTick_cases token (tokenSymbolMap token) (raw.parseTimestamp now) price
          (raw.volumeField.toInt py).toOption average raw with
        ⟨raised, positive, notNumber⟩ | ⟨rejected, number, checks⟩ |
          ⟨⟨tick, built, same⟩, number, checks⟩
      · refine Or.inl ⟨⟨.invalidOperation, ?_⟩, fun noEscape => noEscape.2.2 positive notNumber⟩
        change guarded _ none ((liveTick _ _ _ _ _ _ _).map some) = _
        rw [raised]
        exact guarded_of_notMem (by decide)
      · refine Or.inr (Or.inl ⟨?_, ⟨overflow, fine, number⟩, checks⟩)
        change guarded _ none ((liveTick _ _ _ _ _ _ _).map some) = _
        rw [rejected]
        exact guarded_of_mem (by decide)
      · refine Or.inr (Or.inr ⟨⟨tick, ?_, same⟩, ⟨overflow, fine, number⟩, checks⟩)
        change guarded _ none ((liveTick _ _ _ _ _ _ _).map some) = _
        rw [built]
        exact guarded_ok _
    · refine Or.inl ⟨⟨exception, ?_⟩, fun noEscape => unread noEscape.2.1⟩
      rw [failed]
      rfl

end Read

/-- How a conversion ends: an exception escapes, the tick is left out, or it becomes a
`LiveTick`. -/
theorem rawTickToLiveTick_cases (py : Python) (decimal : String → Option DecimalValue)
    (tokenSymbolMap : ℤ → Option String) (now : Datetime) (raw : RawTick) :
    ((∃ exception, rawTickToLiveTick py decimal tokenSymbolMap now raw = .error exception) ∧
      ¬ raw.NoEscape py decimal) ∨
    (rawTickToLiveTick py decimal tokenSymbolMap now raw = .ok none ∧
      raw.NoEscape py decimal ∧ ¬ raw.Accepted py decimal) ∨
    ((∃ tick, rawTickToLiveTick py decimal tokenSymbolMap now raw = .ok (some tick) ∧
        tick.raw = raw) ∧
      raw.NoEscape py decimal ∧ raw.Accepted py decimal) := by
  rcases tokenAndPrice_cases py decimal raw with
    ⟨token, price, tokenRead, priceRead, read⟩ |
    ⟨exception, caught, failed, finite, unread⟩ | ⟨exception, escapes, failed, why⟩
  · exact rawTickToLiveTick_cases_of_read tokenRead priceRead read
  · right
    left
    refine ⟨?_, ⟨finite, fun token read present => absurd (unread token read) present⟩, ?_⟩
    · rw [rawTickToLiveTick_of_failed failed, if_pos caught]
    · intro accepted
      obtain ⟨token, price, tokenRead, priceRead, _⟩ := accepted
      rw [unread token tokenRead] at priceRead
      cases priceRead
  · left
    refine ⟨⟨exception, ?_⟩, ?_⟩
    · rw [rawTickToLiveTick_of_failed failed, if_neg escapes]
    · intro noEscape
      rcases why with ⟨negative, infinite⟩ | ⟨token, tokenRead, present, unread⟩
      · exact noEscape.1 negative infinite
      · obtain ⟨price, priceRead, _⟩ := noEscape.2 token tokenRead present
        exact unread price priceRead

end Conversion

/-! ### A batch -/

section Batch

variable (py : Python) (decimal : String → Option DecimalValue)
  (tokenSymbolMap : ℤ → Option String) (callback : FeedTick → Bool)

theorem calls_sublist (ticks : List (RawTick × Datetime)) :
    ((callBatch py decimal tokenSymbolMap callback ticks).calls.map FeedTick.raw).Sublist
      (ticks.map Prod.fst) := by
  induction ticks with
  | nil => exact List.Sublist.slnil
  | cons entry rest ih =>
      unfold callBatch
      rcases rawTickToLiveTick_cases py decimal tokenSymbolMap entry.2 entry.1 with
        ⟨⟨exception, raised⟩, _⟩ | ⟨leftOut, _⟩ | ⟨⟨tick, built, same⟩, _⟩
      · rw [raised]
        exact List.nil_sublist _
      · rw [leftOut]
        exact ih.cons entry.1
      · rw [built]
        change (tick.raw :: _).Sublist (entry.1 :: _)
        rw [same]
        exact ih.cons_cons entry.1

section OneMore

variable {py decimal tokenSymbolMap callback} {entry : RawTick × Datetime}
  {rest : List (RawTick × Datetime)}

private theorem not_delivered_of_raised {exception : FeedRaised}
    (raised : rawTickToLiveTick py decimal tokenSymbolMap entry.2 entry.1 = .error exception) :
    ¬ GoodTicksDelivered (entry :: rest)
      (callBatch py decimal tokenSymbolMap callback (entry :: rest)) := by
  unfold GoodTicksDelivered callBatch
  rw [raised]
  intro delivered
  cases delivered.1

private theorem delivered_iff_of_leftOut
    (leftOut : rawTickToLiveTick py decimal tokenSymbolMap entry.2 entry.1 = .ok none) :
    GoodTicksDelivered (entry :: rest)
        (callBatch py decimal tokenSymbolMap callback (entry :: rest)) ↔
      ¬ entry.1.isGood = true ∧
        GoodTicksDelivered rest (callBatch py decimal tokenSymbolMap callback rest) := by
  unfold GoodTicksDelivered
  conv_lhs => unfold callBatch
  rw [leftOut, List.map_cons, List.filter_cons]
  by_cases good : entry.1.isGood
  · rw [if_pos good]
    refine iff_of_false (fun delivered => ?_) (fun handled => handled.1 good)
    have fewer := ((calls_sublist py decimal tokenSymbolMap callback rest).filter
      RawTick.isGood).length_le
    have lengths := congrArg List.length delivered.2
    rw [List.length_cons] at lengths
    dsimp only at lengths
    omega
  · rw [if_neg good]
    exact ⟨fun delivered => ⟨good, delivered⟩, fun handled => handled.2⟩

private theorem delivered_iff_of_built {tick : FeedTick}
    (built : rawTickToLiveTick py decimal tokenSymbolMap entry.2 entry.1 = .ok (some tick))
    (same : tick.raw = entry.1) :
    GoodTicksDelivered (entry :: rest)
        (callBatch py decimal tokenSymbolMap callback (entry :: rest)) ↔
      GoodTicksDelivered rest (callBatch py decimal tokenSymbolMap callback rest) := by
  unfold GoodTicksDelivered
  conv_lhs => unfold callBatch
  rw [built, List.map_cons, List.filter_cons]
  change (_ ∧ List.filter _ (tick.raw :: _) = _) ↔ _
  rw [same, List.filter_cons]
  by_cases good : entry.1.isGood
  · rw [if_pos good, if_pos good, List.cons_inj_right]
    rfl
  · rw [if_neg good, if_neg good]
    rfl

end OneMore

/-- The good ticks of every batch arrive exactly when no field of any tick lets an
exception escape and every good tick passes the checks of `LiveTick`. -/
theorem goodTicksDelivered_iff (ticks : List (RawTick × Datetime)) :
    GoodTicksDelivered ticks
        (Feed.onTicks py decimal
          { tokenSymbolMap := tokenSymbolMap, tickCallback := some callback } ticks) ↔
      ∀ entry ∈ ticks, entry.1.NoEscape py decimal ∧
        (entry.1.isGood = true → entry.1.Accepted py decimal) := by
  change GoodTicksDelivered ticks (callBatch py decimal tokenSymbolMap callback ticks) ↔ _
  induction ticks with
  | nil =>
      constructor
      · intro _delivered entry member
        exact absurd member List.not_mem_nil
      · intro _handled
        exact ⟨rfl, rfl⟩
  | cons entry rest ih =>
      rw [List.forall_mem_cons, ← ih]
      rcases rawTickToLiveTick_cases py decimal tokenSymbolMap entry.2 entry.1 with
        ⟨⟨exception, raised⟩, escapes⟩ | ⟨leftOut, noEscape, notAccepted⟩ |
          ⟨⟨tick, built, same⟩, noEscape, accepted⟩
      · exact iff_of_false (not_delivered_of_raised raised) (fun handled => escapes handled.1.1)
      · rw [delivered_iff_of_leftOut leftOut]
        constructor
        · intro delivered
          exact ⟨⟨noEscape, fun good => absurd good delivered.1⟩, delivered.2⟩
        · intro handled
          exact ⟨fun good => notAccepted (handled.1.2 good), handled.2⟩
      · rw [delivered_iff_of_built built same]
        constructor
        · intro delivered
          exact ⟨⟨noEscape, fun _good => accepted⟩, delivered⟩
        · intro handled
          exact handled.2

end Batch

/-! ### A price that is no number -/

def quotedTick (token : ℤ) (lastPrice : FeedValue) : RawTick :=
  { instrumentToken := .number token
    lastPrice := lastPrice
    volumeTraded := .number 10
    volume := .absent
    averageTradedPrice := .absent
    averagePrice := .absent
    exchangeTimestamp := .moment 0
    lastTradeTime := .absent }

/-- `Decimal` on digits. -/
def digitsDecimal (text : String) : Option DecimalValue :=
  (Python.ascii.decimal text).map .finite

/-- The good tick after one with the price "n/a" is lost. -/
theorem quotedTicks_not_delivered :
    (quotedTick 408065 (.number 1500)).isGood = true ∧
      ¬ GoodTicksDelivered [(quotedTick 738561 (.text "n/a"), 0),
          (quotedTick 408065 (.number 1500), 0)]
        (Feed.onTicks Python.ascii digitsDecimal
          { tokenSymbolMap := fun _token => none, tickCallback := some (fun _tick => false) }
          [(quotedTick 738561 (.text "n/a"), 0), (quotedTick 408065 (.number 1500), 0)]) := by
  constructor
  · decide
  · intro delivered
    have raised : (Feed.onTicks Python.ascii digitsDecimal
        { tokenSymbolMap := fun _token => none, tickCallback := some (fun _tick => false) }
        [(quotedTick 738561 (.text "n/a"), 0), (quotedTick 408065 (.number 1500), 0)]).raised =
          some .invalidOperation := by
      decide +kernel
    rw [delivered.1] at raised
    cases raised

end TradingEngine.ZerodhaFeed
