import ReportCheck.Proofs.Lookup
import ReportCheck.Proofs.Number.Nearest
import ReportCheck.Proofs.Predicate.SumLimits
import ReportCheck.Proofs.Sample

/-! # Order of amounts

  Double-precision amounts take more than 600 digits together, and 400 are kept. So the order
  in which they are added can show in their total in cents, and only in a few cases does.

  - `Amount.OfFloats`: amounts that finite double-precision numbers show.
  - `Amount.Settled`: totals that no order changes. Either all amounts fit 400 digits on a
    common grid, or the total is further from every half cent than the sum may drift.
  - `Amount.nearestCents_of_settled`: such a total is the exact one in cents.
  - `Amount.account_of_matchesTotal`: a number that a check accepts is the exact total in
    cents if the total is settled, and at most one cent off.
  - `Amount.total?_of_perm`: any two orders of up to `10 ^ 40` amounts differ by one cent at
    most.
  - `Amount.orders_of_floats` carries this over to the check.
-/

namespace ReportCheck

open Decimal

/-! ### Totals near the exact one -/

namespace Amount

/-- **Settled totals.** The order of the amounts cannot show in the total in cents. -/
def Settled (amounts : List Decimal) : Prop :=
  (∃ k : Int, minExponent ≤ k ∧ k ≤ maxExponent - 400 ∧ FitsDigits k amounts) ∨
    ∀ n : ℤ, drift amounts < |exactTotal amounts - (2 * n + 1) / 200|

variable {amounts others : List Decimal}

theorem Settled.of_perm (h : Settled amounts) (perm : amounts.Perm others) : Settled others := by
  rcases h with ⟨k, least, inRange, fits⟩ | clear
  · exact .inl ⟨k, least, inRange, fits.of_perm perm⟩
  · right
    rwa [← drift_of_perm perm, ← exactTotal_of_perm perm]

theorem exists_tie_near (x : ℚ) : ∃ n : ℤ, |x - (2 * n + 1) / 200| ≤ 1 / 200 := by
  have low := Int.floor_le (x * 100)
  have high := Int.lt_floor_add_one (x * 100)
  exact ⟨⌊x * 100⌋, abs_le.2 ⟨by linarith, by linarith⟩⟩

/-- **Settled sums** have the cents of the exact total. -/
theorem nearestCents_of_settled (settled : Settled amounts) {t : Decimal}
    (hsum : sum? amounts = .ok (some t)) :
    nearestCents t.toRat = nearestCents (exactTotal amounts) := by
  rcases settled with ⟨k, least, inRange, fits⟩ | clear
  · obtain ⟨t', hsum', -, exact⟩ := sum?_exact least inRange fits
    rw [hsum] at hsum'
    cases hsum'
    rw [exact]
  · obtain ⟨n, near⟩ := exists_tie_near (exactTotal amounts)
    have small : drift amounts < 1 := by
      have := clear n
      linarith
    exact nearestCents_eq_of_near (sum?_near (length_le_of_drift small) hsum) clear

/-! ### Amounts of double-precision numbers -/

/-- **Float amounts.** What finite double-precision numbers show, and zero for a number that
    is missing. -/
def OfFloats (amounts : List Decimal) : Prop :=
  ∀ a ∈ amounts, ∃ number : Option Binary64.Finite, a = ofNumber? (number.map .finite)

theorem OfFloats.isFinite (floats : OfFloats amounts) : ∀ a ∈ amounts, a.isFinite = true := by
  intro a ha
  obtain ⟨number, rfl⟩ := floats a ha
  cases number with
  | none => rfl
  | some x =>
    show (Binary64.finite x).shown.isFinite = true
    unfold Binary64.shown
    simp only
    split
    · rfl
    · rfl

theorem OfFloats.abs_lt (floats : OfFloats amounts) : ∀ a ∈ amounts, |a.toRat| < 10 ^ 309 := by
  intro a ha
  obtain ⟨number, rfl⟩ := floats a ha
  exact abs_ofNumber?_lt _

theorem OfFloats.of_perm (floats : OfFloats amounts) (perm : amounts.Perm others) :
    OfFloats others :=
  fun a ha => floats a (perm.mem_iff.2 ha)

/-- **Float amounts** have a total. -/
theorem OfFloats.exists_sum? (floats : OfFloats amounts) : ∃ t, sum? amounts = .ok (some t) := by
  refine exists_sum?_of_finite floats.isFinite (not_overflows_of_le fun a ha => ?_)
  have more : (10 : ℚ) ^ (309 : Int) ≤ 10 ^ (999597 : Int) :=
    ten_zpow_le (by norm_num)
  rw [zpow_ofNat] at more
  exact le_trans (floats.abs_lt a ha).le more

theorem OfFloats.absTotal_le (floats : OfFloats amounts) :
    absTotal amounts ≤ amounts.length * 10 ^ 309 := by
  induction amounts with
  | nil => simp
  | cons a rest ih =>
    have first := floats.abs_lt a (.head _)
    have others := ih fun b hb => floats b (.tail _ hb)
    rw [absTotal_cons, List.length_cons, Nat.cast_succ]
    generalize (10 : ℚ) ^ 309 = ten at *
    linarith

theorem OfFloats.drift_lt (floats : OfFloats amounts) (few : amounts.length ≤ 10 ^ 40) :
    drift amounts < 1 / 200 := by
  have sizes := floats.absTotal_le
  have count : (amounts.length : ℚ) ≤ 10 ^ 40 := by exact_mod_cast few
  have nonneg : (0 : ℚ) ≤ amounts.length := Nat.cast_nonneg _
  have top : (10 : ℚ) ^ (399 : Int) = 10 ^ 10 * (10 ^ 40 * (10 ^ 40 * 10 ^ 309)) := by
    rw [zpow_ofNat, ← pow_add, ← pow_add, ← pow_add]
  have unit : (1 : ℚ) ≤ 10 ^ 309 := one_le_pow₀ (by norm_num)
  rw [drift, div_lt_iff₀ (by positivity), top]
  clear top
  generalize (10 : ℚ) ^ 309 = ten at *
  have largest := mul_le_mul_of_nonneg_right count (show 0 ≤ ten by linarith)
  have inner : 1 + absTotal amounts ≤ 2 * (10 ^ 40 * ten) := by linarith
  have size := absTotal_nonneg amounts
  have outer := mul_le_mul count inner (by linarith) (by positivity)
  linarith

theorem ofFloats_of_isFinite {numbers : List (Option Binary64)}
    (finite : ∀ a ∈ numbers.map ofNumber?, a.isFinite = true) :
    OfFloats (numbers.map ofNumber?) := by
  intro a ha
  have hfinite := finite a ha
  obtain ⟨number, -, rfl⟩ := List.mem_map.1 ha
  cases number with
  | none => exact ⟨none, rfl⟩
  | some x =>
    cases x with
    | finite x => exact ⟨some x, rfl⟩
    | infinite negative => cases hfinite
    | nan => cases hfinite

/-! ### Totals that are matched -/

/-- **Accounts.** A number and amounts whose exact total has the cents of the number. Where the
    order of the amounts can show in their total, the two may be one cent apart. -/
structure Account (number : Decimal) (amounts : List Decimal) : Prop where
  finite : ∀ a ∈ number :: amounts, a.isFinite = true
  near : |nearestCents number.toRat - nearestCents (exactTotal amounts)| ≤ 1
  exact : Settled amounts → nearestCents number.toRat = nearestCents (exactTotal amounts)

/-- **Matched numbers** are accounted for. -/
theorem account_of_matchesTotal {value : Cell} {numbers : List (Option Binary64)}
    (few : numbers.length ≤ 10 ^ 40) (h : matchesTotal value (numbers.map ofNumber?) = .ok true) :
    ∃ number, value.strictNumber = .ok number ∧
      Account (ofNumber? number) (numbers.map ofNumber?) := by
  obtain ⟨number, t, hnumber, hsum, finite, same⟩ := exists_cents_of_matchesTotal h
  obtain ⟨-, -, finites⟩ := finite_of_sum? hsum
  refine ⟨number, hnumber, List.forall_mem_cons.2 ⟨finite, finites⟩, ?_, ?_⟩
  · have small := (ofFloats_of_isFinite finites).drift_lt (by rwa [List.length_map])
    have near := sum?_near (length_le_of_drift (by linarith)) hsum
    rw [same]
    exact abs_nearestCents_sub_le (by linarith)
  · intro settled
    exact same.trans (nearestCents_of_settled settled hsum)

/-! ### Two orders -/

/-- **Totals in two orders.** Both exist; they are the same cents if the total is settled, and
    less than two cents apart if the amounts are not too many. -/
theorem total?_of_perm (floats : OfFloats amounts) (perm : amounts.Perm others) :
    ∃ total total' m n, total? amounts = .ok total ∧ total? others = .ok total' ∧
      IsCents m total ∧ IsCents n total' ∧
      (Settled amounts → m = nearestCents (exactTotal amounts) ∧ n = m) ∧
      (amounts.length ≤ 10 ^ 40 → |m - n| ≤ 1) := by
  obtain ⟨t, hsum⟩ := floats.exists_sum?
  obtain ⟨t', hsum'⟩ := (floats.of_perm perm).exists_sum?
  obtain ⟨-, finite, -⟩ := finite_of_sum? hsum
  obtain ⟨-, finite', -⟩ := finite_of_sum? hsum'
  refine ⟨_, _, _, _, total?_of_sum? hsum, total?_of_sum? hsum', roundToCents?_isCents finite,
    roundToCents?_isCents finite', ?_, ?_⟩
  · intro settled
    have exact := nearestCents_of_settled settled hsum
    have exact' := nearestCents_of_settled (settled.of_perm perm) hsum'
    rw [← exactTotal_of_perm perm] at exact'
    exact ⟨exact, exact'.trans exact.symm⟩
  · intro few
    have small := floats.drift_lt few
    have short : (amounts.length : ℚ) ≤ 10 ^ (399 : Int) := length_le_of_drift (by linarith)
    have near := sum?_near short hsum
    have near' := sum?_near (by rwa [← perm.length_eq]) hsum'
    rw [← drift_of_perm perm, ← exactTotal_of_perm perm] at near'
    have apart := abs_sub_le t.toRat (exactTotal amounts) t'.toRat
    rw [abs_sub_comm (exactTotal amounts)] at apart
    exact abs_nearestCents_sub_le (by linarith)

theorem matchesTotal_congr (value : Cell) {total total' : Option Decimal} {n : ℤ}
    (htotal : total? amounts = .ok total) (htotal' : total? others = .ok total')
    (cents : IsCents n total) (cents' : IsCents n total') :
    matchesTotal value amounts = matchesTotal value others := by
  cases hnumber : value.strictNumber with
  | error fault =>
    unfold matchesTotal
    rw [htotal, htotal', hnumber]
    rfl
  | ok number =>
    obtain ⟨verdict, hverdict, hiff⟩ := matchesTotal_of_isCents hnumber htotal cents
    obtain ⟨verdict', hverdict', hiff'⟩ := matchesTotal_of_isCents hnumber htotal' cents'
    rw [hverdict, hverdict', Bool.eq_iff_iff.2 (hiff.trans hiff'.symm)]

end Amount

/-! ### Fields in another order -/

/-- **Records of floats** hold nothing else than finite double-precision numbers. -/
def Record.OfFloats (record : Record) : Prop :=
  ∀ entry ∈ record.fields, ∃ x : Binary64.Finite, entry.2 = .float (.finite x)

theorem Record.OfFloats.leadingNumber {record : Record} (floats : record.OfFloats) (key : String) :
    ∃ number : Option Binary64.Finite,
      (record.value key).leadingNumber = .ok (number.map .finite) := by
  unfold Record.value
  cases hfound : record.fields.get? key with
  | none => exact ⟨none, rfl⟩
  | some cell =>
    obtain ⟨x, hx⟩ := floats (key, cell) (mem_of_lookup_eq_some hfound)
    cases hx
    exact ⟨some x, rfl⟩

theorem Record.OfFloats.exists_adds {record : Record} (floats : record.OfFloats)
    (keys : List String) :
    ∃ amounts, Amount.OfFloats amounts ∧
      ∀ summaries, (Check.isSum keys).Adds record summaries amounts := by
  choose number hnumber using floats.leadingNumber
  refine ⟨((keys.filter (· != "")).map fun key => (number key).map .finite).map Amount.ofNumber?,
    ?_, fun summaries => .isSum ?_⟩
  · intro a ha
    simp only [List.map_map, List.mem_map, Function.comp_apply] at ha
    obtain ⟨key, -, rfl⟩ := ha
    exact ⟨number key, rfl⟩
  · rw [List.forall₂_map_right_iff, List.forall₂_same]
    intro key _
    exact hnumber key

/-- **Orders of float amounts.** In any two orders both totals exist, and they are the same
    cents if the total is settled; otherwise up to `10 ^ 40` amounts differ by one cent at
    most. So a settled sum of fields gets one verdict for all orders of the fields, on every
    record of floats. -/
theorem Amount.orders_of_floats {amounts others : List Decimal} (floats : OfFloats amounts)
    (perm : amounts.Perm others) :
    (∃ total total' m n, total? amounts = .ok total ∧ total? others = .ok total' ∧
      IsCents m total ∧ IsCents n total' ∧
      (Settled amounts → m = nearestCents (exactTotal amounts) ∧ n = m) ∧
      (amounts.length ≤ 10 ^ 40 → |m - n| ≤ 1)) ∧
    ∀ (record : Record) (keys keys' : List String), record.OfFloats → keys.Perm keys' →
      ∃ summands, OfFloats summands ∧
        (∀ summaries, (Check.isSum keys).Adds record summaries summands) ∧
        (Settled summands → ∀ value ctx,
          (Check.isSum keys').eval value record ctx = (Check.isSum keys).eval value record ctx) := by
  refine ⟨total?_of_perm floats perm, ?_⟩
  intro record keys keys' hrecord hkeys
  obtain ⟨summands, hfloats, adds⟩ := hrecord.exists_adds keys
  refine ⟨summands, hfloats, adds, ?_⟩
  intro settled value ctx
  obtain ⟨reordered, addsReordered, moved⟩ := (adds ctx.summaries).exists_of_perm hkeys
  obtain ⟨total, total', m, n, htotal, htotal', cents, cents', same, -⟩ :=
    total?_of_perm hfloats moved
  obtain ⟨-, rfl⟩ := same settled
  rw [Check.eval_of_adds (adds ctx.summaries), Check.eval_of_adds addsReordered,
    matchesTotal_congr value htotal htotal' cents cents']

namespace SumOrder

/-- A record with a half and a quarter. -/
def parts : Record where
  tab := "sums"
  fields := [("a", .float (.ofScaled false 5 (-1))), ("b", .float (.ofScaled false 25 (-2)))]
  row := some 2

/-- The amounts that these show. -/
def partAmounts : List Decimal := [.finite false 5 (-1), .finite false 25 (-2)]

/-- A record whose numbers span more than 400 digits, a bit less than half a cent together. -/
def extremes : Record where
  tab := "sums"
  fields := [("a", .float (.ofScaled false 1 307)), ("b", .float (.ofScaled true 1 307)),
    ("c", .float (.ofScaled false 5 (-3))), ("d", .float (.ofScaled true 1 (-100)))]
  row := some 2

theorem exists_float (negative : Bool) {c : Nat} {e : Int} (h : e + digitCount c ≤ 308) :
    ∃ x, Cell.float (.ofScaled negative c e) = .float (.finite x) := by
  have more : (10 : ℚ) ^ (e + digitCount c) ≤ 10 ^ (308 : Int) :=
    ten_zpow_le h
  rw [zpow_ofNat] at more
  obtain ⟨x, hx⟩ :=
    Binary64.ofScaled_eq_finite negative (lt_of_lt_of_le (scaled_lt_pow c e) more)
  exact ⟨x, congrArg Cell.float hx⟩

theorem adds_parts (summaries : List PeriodSummary) :
    (Check.isSum ["a", "b"]).Adds parts summaries partAmounts := by
  have adds : (Check.isSum ["a", "b"]).Adds parts summaries
      ([(Binary64.ofScaled false 5 (-1)).some?, (Binary64.ofScaled false 25 (-2)).some?].map
        Amount.ofNumber?) := .isSum (.cons rfl (.cons rfl .nil))
  have shown : [(Binary64.ofScaled false 5 (-1)).some?, (Binary64.ofScaled false 25 (-2)).some?].map
      Amount.ofNumber? = partAmounts := by decide +kernel
  rwa [shown] at adds

end SumOrder

open SumOrder Sample in
/-- A half and a quarter make 75 cents in both orders, as amounts and as fields. -/
theorem Amount.orders_of_floats_of_parts :
    OfFloats partAmounts ∧ partAmounts.Perm partAmounts.reverse ∧
      (∃ total total', total? partAmounts = .ok total ∧ total? partAmounts.reverse = .ok total' ∧
        IsCents 75 total ∧ IsCents 75 total') ∧
      parts.OfFloats ∧ ["a", "b"].Perm ["b", "a"] ∧
      ∀ value ctx, (Check.isSum ["b", "a"]).eval value parts ctx =
        (Check.isSum ["a", "b"]).eval value parts ctx := by
  have settled : Settled partAmounts := by
    refine .inl ⟨-2, by decide, by decide, .of_forms (by simp [partAmounts]) ?_⟩
    have huge : (10 : ℚ) ^ (0 : Int) ≤ 10 ^ (-2 + 400 : Int) :=
      ten_zpow_le (by norm_num)
    refine lt_of_lt_of_le ?_ huge
    simp only [partAmounts, absTotal_cons, absTotal_nil, toRat_finite, signed_false]
    norm_num [abs_of_pos]
  have cells : parts.OfFloats := by
    intro entry hentry
    simp only [parts, List.mem_cons, List.not_mem_nil, or_false] at hentry
    rcases hentry with rfl | rfl
    · exact exists_float false (by decide)
    · exact exists_float false (by decide)
  have floats : OfFloats partAmounts := by
    obtain ⟨summands, hfloats, adds⟩ := cells.exists_adds ["a", "b"]
    rwa [(adds []).unique (adds_parts [])] at hfloats
  have perm : partAmounts.Perm partAmounts.reverse := (List.reverse_perm _).symm
  have keys : ["a", "b"].Perm ["b", "a"] := by decide
  obtain ⟨⟨total, total', m, n, htotal, htotal', cents, cents', same, -⟩, fields⟩ :=
    orders_of_floats floats perm
  obtain ⟨exact, hequal⟩ := same settled
  have value : nearestCents (exactTotal partAmounts) = 75 := by
    simp only [partAmounts, exactTotal_cons, exactTotal_nil, toRat_finite, signed_false]
    norm_num [nearestCents]
  rw [hequal, exact, value] at cents'
  rw [exact, value] at cents
  obtain ⟨summands, -, adds, verdicts⟩ := fields parts ["a", "b"] ["b", "a"] cells keys
  rw [(adds []).unique (adds_parts [])] at verdicts
  exact ⟨floats, perm, ⟨total, total', htotal, htotal', cents, cents'⟩, cells, keys, verdicts settled⟩

open SumOrder Sample in
/-- **An order that shows.** With the two large numbers first, which cancel out, the total is
    zero in cents; with the smallest one lost between them it is a cent. -/
theorem Check.order_decides :
    extremes.OfFloats ∧ ["a", "b", "c", "d"].Perm ["a", "c", "d", "b"] ∧
      ((isSum ["a", "b", "c", "d"]).eval (.float (.zero false)) extremes context).outcome = .ok true ∧
      ((isSum ["a", "c", "d", "b"]).eval (.float (.zero false)) extremes context).outcome =
        .ok false := by
  refine ⟨?_, by decide, by decide +kernel, by decide +kernel⟩
  intro entry hentry
  simp only [extremes, List.mem_cons, List.not_mem_nil, or_false] at hentry
  rcases hentry with rfl | rfl | rfl | rfl
  · exact exists_float false (by decide)
  · exact exists_float true (by decide)
  · exact exists_float false (by decide)
  · exact exists_float true (by decide)

end ReportCheck
