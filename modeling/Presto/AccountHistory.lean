import Presto.Server.AccountHistory

/-!
# What the account history says

A date lists each account once, with what was observed last under that date, converted at the quotes
up to it (`accountHistory_recorded`), and has a total when all of them are converted. Later
observations and quotes do not reach back (`accountHistory_past`), and where all quotes are the
central bank's the total is what valuing the balances on that day gives (`accountHistory_valued`).
-/

namespace ReadModel

open FinanceModel LedgerText Grouping

variable {positive : String → Bool} {db db' : HistoryTables}
  {rates rates' : List FinanceModel.RateObservation} {imported imported' : List ImportedRate}
  {asOf asOf' currency date : String} {accounts : Nat} {history history' : List AccountHistoryDate}
  {row : ArchivedBalance} {balance : AccountHistoryBalance}

/-! ## The loop over the rows -/

/-- What one turn files: a balance under its date. -/
def filed (rates : List FinanceModel.RateObservation) (imported : List ImportedRate)
    (row : ArchivedBalance) : Except String (String × AccountHistoryBalance) := do
  let balance ← historyBalance rates imported row
  return (row.checkpointDate, balance)

theorem filed_ok {filing : String × AccountHistoryBalance}
    (h : filed rates imported row = .ok filing) :
    filing.1 = row.checkpointDate ∧ historyBalance rates imported row = .ok filing.2 := by
  simp only [filed, Except.bind_eq_ok, Except.pure_eq_ok] at h
  obtain ⟨balance, hbalance, rfl⟩ := h
  exact ⟨rfl, hbalance⟩

theorem historyBalance_accountId (h : historyBalance rates imported row = .ok balance) :
    balance.accountId = row.accountId := by
  simp only [historyBalance, Except.bind_eq_ok, Except.pure_eq_ok] at h
  obtain ⟨_, _, rfl⟩ := h
  rfl

/-- The balances that end up under a date. -/
def balancesOn (filings : List (String × AccountHistoryBalance)) (date : String) :
    List AccountHistoryBalance :=
  latest AccountHistoryBalance.accountId ((filings.filter fun filing => filing.1 = date).map Prod.snd)

/-- **The loop.** Every row is converted, and then the history lists the dates of the rows in order,
each with the last balances filed under it. -/
theorem loadAccountHistory_eq_ok : loadAccountHistory positive db accounts asOf rates = .ok history ↔
    ∃ filings, (archivedBalances db asOf).mapM (filed rates (importedRates positive db.rates))
        = .ok filings ∧
      ((groups AccountHistoryBalance.accountId filings).keys.insertionSort (· ≤ ·)).mapM
        (fun date => historyDate accounts date (balancesOn filings date)) = .ok history := by
  have hfile : (fun (history : Table String (List AccountHistoryBalance)) row => do
        let balance ← historyBalance rates (importedRates positive db.rates) row
        return collect AccountHistoryBalance.accountId history (row.checkpointDate, balance))
      = fun history row => do
        let filing ← filed rates (importedRates positive db.rates) row
        return collect AccountHistoryBalance.accountId history filing := by
    funext history row
    simp [filed]
  have hdates : ∀ filings : List (String × AccountHistoryBalance),
      (fun date => historyDate accounts date
        (((groups AccountHistoryBalance.accountId filings).lookup date).getD []))
      = fun date => historyDate accounts date (balancesOn filings date) := by
    intro filings
    funext date
    rw [lookup_groups, balancesOn]
  simp only [loadAccountHistory, Except.bind_eq_ok]
  rw [hfile]
  constructor
  · rintro ⟨collected, hloop, h⟩
    obtain ⟨filings, hfilings, rfl⟩ := Except.foldlM_bind_pure_eq_ok.1 hloop
    refine ⟨filings, hfilings, ?_⟩
    rw [← hdates]
    exact h
  · rintro ⟨filings, hfilings, h⟩
    rw [← hdates] at h
    exact ⟨_, Except.foldlM_bind_pure_eq_ok.2 ⟨filings, hfilings, rfl⟩, h⟩

/-! ## Conversions -/

theorem accountBalanceEur_ok {native text : String}
    (h : LedgerText.accountBalanceEur native currency date rates = .ok text) :
    ∃ quote day, RateOf rates date currency quote day ∧
      Posts .halfEven (decimalValue native) (1 / quote) text := by
  simp only [LedgerText.accountBalanceEur, Except.bind_eq_ok, Except.pure_eq_ok] at h
  obtain ⟨amount, hamount, rate, hrate, quote, hquote, ratio, hratio, rfl⟩ := h
  obtain ⟨quote', hquote', -, hof, -⟩ := selectPriorRate_ok hrate
  obtain rfl : quote' = quote := Except.ok.inj (hquote'.symm.trans hquote)
  have hden := Ratio.divide_denominator_pos hratio (asRatio_denominator_pos amount)
  have hrounds := Ratio.roundDecimal_rounds ratio hden 2 .halfEven
  rw [Ratio.value_divide hratio, Decimal.value_asRatio, Decimal.value_asRatio,
    Decimal.toRat_parse hamount, ← mul_one_div] at hrounds
  refine ⟨_, _, hof, _, hrounds, ?_⟩
  rw [Ratio.roundDecimal_eq]
  rfl

theorem multiplyDecimalText_ok {left right text : String}
    (h : multiplyDecimalText left right = .ok text) :
    Posts .halfEven (decimalValue left) (decimalValue right) text := by
  simp only [multiplyDecimalText, Except.bind_eq_ok, Except.pure_eq_ok] at h
  obtain ⟨amount, hamount, rate, hrate, rfl⟩ := h
  have hposts := posted_posts amount (asRatio_denominator_pos rate) .halfEven
  rw [Decimal.value_asRatio, Decimal.toRat_parse hamount, Decimal.toRat_parse hrate] at hposts
  exact hposts

/-- The imported quote that is used: none that counts is later. -/
structure LastImported (imported : List ImportedRate) (currency date : String)
    (rate : ImportedRate) : Prop where
  mem : rate ∈ imported
  same : rate.baseCurrency = currency
  prior : rate.rateDate ≤ date
  last : ∀ r ∈ imported, r.baseCurrency = currency → r.rateDate ≤ date →
    toLex (r.rateDate, r.id) ≤ toLex (rate.rateDate, rate.id)

theorem priorImported_some {rate : ImportedRate}
    (hsorted : imported.Pairwise fun r s => toLex (r.rateDate, r.id) ≤ toLex (s.rateDate, s.id))
    (h : priorImported imported currency date = some rate) :
    LastImported imported currency date rate := by
  obtain ⟨hcounts, newer, older, hsplit, hnewer⟩ := List.find?_eq_some_iff_append.1 h
  have hcounts := of_decide_eq_true hcounts
  obtain rfl : imported = older.reverse ++ rate :: newer.reverse := by
    rw [← List.reverse_reverse imported, hsplit]
    simp
  refine ⟨by simp, hcounts.1, hcounts.2, fun r hr hsame hprior => ?_⟩
  rcases List.mem_append.1 hr with hr | hr
  · exact (List.pairwise_append.1 hsorted).2.2 r hr rate List.mem_cons_self
  · rcases List.mem_cons.1 hr with rfl | hr
    · exact le_rfl
    · have hnot := hnewer r (List.mem_reverse.1 hr)
      simp [hsame, hprior] at hnot

theorem priorImported_none (h : priorImported imported currency date = none) :
    ∀ r ∈ imported, r.baseCurrency = currency → ¬ r.rateDate ≤ date := by
  intro r hr hsame hprior
  have hnot := List.find?_eq_none.1 h r (List.mem_reverse.2 hr)
  simp [hsame, hprior] at hnot

/-- There is no ECB quote up to the day. -/
def NoQuote (rates : List FinanceModel.RateObservation) (currency date : String) : Prop :=
  currency ≠ "EUR" ∧ ∀ r ∈ rates, r.currency = currency → ¬ r.date ≤ date

theorem hasPriorRate_eq_false : hasPriorRate rates currency date = false ↔
    NoQuote rates currency date := by
  simp [hasPriorRate, NoQuote]

/-- How a balance is converted, if it is. -/
inductive Converted (rates : List FinanceModel.RateObservation) (imported : List ImportedRate)
    (native currency date : String) : Option String → Prop
  | quoted {quote : ℚ} {day : Option String} {text : String}
      (rate : RateOf rates date currency quote day)
      (posts : Posts .halfEven (decimalValue native) (1 / quote) text) :
      Converted rates imported native currency date (some text)
  | imported {rate : ImportedRate} {text : String} (noQuote : NoQuote rates currency date)
      (last : LastImported imported currency date rate)
      (posts : Posts .halfEven (decimalValue native) (decimalValue rate.rateDecimal) text) :
      Converted rates imported native currency date (some text)
  | unconverted (noQuote : NoQuote rates currency date)
      (unimported : ∀ r ∈ imported, r.baseCurrency = currency → ¬ r.rateDate ≤ date) :
      Converted rates imported native currency date none

theorem historyEur_converted {eur : Option String}
    (hsorted : imported.Pairwise fun r s => toLex (r.rateDate, r.id) ≤ toLex (s.rateDate, s.id))
    (h : historyEur rates imported currency row = .ok eur) :
    Converted rates imported row.balanceDecimal currency row.checkpointDate eur := by
  unfold historyEur at h
  cases hprior : hasPriorRate rates currency row.checkpointDate with
  | true =>
    rw [if_pos hprior, Except.map_eq_ok] at h
    obtain ⟨text, htext, rfl⟩ := h
    obtain ⟨quote, day, hrate, hposts⟩ := accountBalanceEur_ok htext
    exact .quoted hrate hposts
  | false =>
    rw [hprior, if_neg Bool.false_ne_true] at h
    have hnone := hasPriorRate_eq_false.1 hprior
    cases himported : priorImported imported currency row.checkpointDate with
    | none =>
      rw [himported] at h
      cases h
      exact .unconverted hnone (priorImported_none himported)
    | some rate =>
      simp only [himported, Except.map_eq_ok] at h
      obtain ⟨text, htext, rfl⟩ := h
      exact .imported hnone (priorImported_some hsorted himported) (multiplyDecimalText_ok htext)

/-- What is converted is a decimal. -/
theorem parse_of_posts {rounding : RoundingMode} {amount rate : ℚ} {text : String}
    (h : Posts rounding amount rate text) : ∃ d, Decimal.parse text = .ok d := by
  obtain ⟨cents, -, rfl⟩ := h
  have h := Decimal.scale_normalized_le cents 2
  exact ⟨_, Decimal.parse_format (h.trans (by decide))⟩

theorem Converted.parse {native : String} {eur : Option String}
    (h : Converted rates imported native currency date eur) :
    ∀ text, eur = some text → ∃ d, Decimal.parse text = .ok d := by
  intro text htext
  cases h with
  | quoted _ hposts =>
    cases htext
    exact parse_of_posts hposts
  | imported _ _ hposts =>
    cases htext
    exact parse_of_posts hposts
  | unconverted => cases htext

/-! ## A date of the history -/

theorem pairwise_archivedBalances (db : HistoryTables) (asOf : String) :
    (archivedBalances db asOf).Pairwise fun r s => checkpointKey r ≤ checkpointKey s :=
  List.pairwise_insertionSort _ _

theorem pairwise_importedRates (positive : String → Bool) (rates : List ExchangeRate) :
    (importedRates positive rates).Pairwise
      fun r s => toLex (r.rateDate, r.id) ≤ toLex (s.rateDate, s.id) :=
  List.pairwise_insertionSort _ _

/-- The balance comes from the last observation of the account on the day. -/
structure LastObserved (positive : String → Bool) (db : HistoryTables) (asOf : String)
    (rates : List FinanceModel.RateObservation) (day : String) (balance : AccountHistoryBalance)
    (row : ArchivedBalance) : Prop where
  mem : row ∈ archivedBalances db asOf
  date : row.checkpointDate = day
  account : row.accountId = balance.accountId
  last : ∀ r ∈ archivedBalances db asOf, r.checkpointDate = day → r.accountId = row.accountId →
    checkpointKey r ≤ checkpointKey row
  name : balance.name = row.sourceName
  currency : balance.currency = row.currency.getD "EUR"
  native : balance.balanceNative = row.balanceDecimal
  converted : Converted rates (importedRates positive db.rates) balance.balanceNative
    (row.currency.getD "EUR") day balance.balanceEur

/-- The total is there when all accounts are, converted, and is their exact sum. -/
structure Totals (accounts : Nat) (balances : List AccountHistoryBalance)
    (total : Option String) : Prop where
  isSome : total.isSome = true ↔
    balances.length = accounts ∧ ∀ balance ∈ balances, balance.balanceEur.isSome = true
  exact : ∀ text, total = some text → ∃ d, Decimal.parse text = .ok d ∧ text = d.format ∧
    d.toRat = ((balances.filterMap (·.balanceEur)).map decimalValue).sum

/-- What a date of the history says. -/
structure Recorded (positive : String → Bool) (db : HistoryTables) (accounts : Nat) (asOf : String)
    (rates : List FinanceModel.RateObservation) (entry : AccountHistoryDate) : Prop where
  once : (entry.accounts.map (·.accountId)).Nodup
  every : ∀ row ∈ archivedBalances db asOf, row.checkpointDate = entry.date →
    row.accountId ∈ entry.accounts.map (·.accountId)
  observed : ∀ balance ∈ entry.accounts,
    ∃ row, LastObserved positive db asOf rates entry.date balance row
  totals : Totals accounts entry.accounts entry.totalEur

/-- The rows of a date give the balances that are filed under it. -/
theorem mapM_rowsOn {filings : List (String × AccountHistoryBalance)} {rows : List ArchivedBalance}
    (h : rows.mapM (filed rates imported) = .ok filings) (date : String) :
    List.Forall₂ (fun row balance => historyBalance rates imported row = .ok balance)
      (rows.filter fun row => row.checkpointDate = date)
      ((filings.filter fun filing => filing.1 = date).map Prod.snd) := by
  have hrows := Except.mapM_filter (p := fun row => decide (row.checkpointDate = date))
    (q := fun filing => decide (filing.1 = date)) (fun row _ filing hfiling => by
      rw [(filed_ok hfiling).1]) h
  rw [List.forall₂_map_right_iff]
  exact (Except.mapM_eq_ok hrows).imp fun row filing hfiling => (filed_ok hfiling).2

/-- Texts that are decimals add up to their exact sum, in any order. -/
theorem sum_posted {texts : List String} {total : String}
    (hparse : ∀ t ∈ texts, ∃ d, Decimal.parse t = .ok d)
    (h : texts.foldlM addDecimalText "0" = .ok total) :
    (∃ d, Decimal.parse total = .ok d ∧ total = d.format ∧
      d.toRat = (texts.map decimalValue).sum) ∧
    ∀ texts' : List String, texts'.Perm texts → texts'.foldlM addDecimalText "0" = .ok total := by
  have hzero : Decimal.parse "0" = .ok 0 := by decide +kernel
  obtain ⟨s, hs, hread, hfold⟩ := (decimalText_exact hzero hzero).2.2.2.2.2.2 _ hparse
  obtain rfl : s.format = total := Except.ok.inj ((hfold _ (List.Perm.refl _)).symm.trans h)
  refine ⟨⟨s, hread, rfl, ?_⟩, hfold⟩
  rw [hs, ← Decimal.toRat_parse hzero, Decimal.toRat_zero, zero_add]

/-- A total is the sum of the values. -/
theorem sum_of_historyTotal {balances : List AccountHistoryBalance} {total : String}
    (h : historyTotal accounts balances = .ok (some total)) :
    (balances.filterMap (·.balanceEur)).foldlM addDecimalText "0" = .ok total := by
  unfold historyTotal at h
  by_cases hcount : balances.length = accounts ∧ (balances.filterMap (·.balanceEur)).length = accounts
  · rw [if_pos hcount, Except.map_eq_ok] at h
    obtain ⟨sum, hfold, heq⟩ := h
    rw [hfold, Option.some.inj heq]
  · rw [if_neg hcount] at h
    cases h

theorem historyTotal_ok {balances : List AccountHistoryBalance} {total : Option String}
    (hparse : ∀ balance ∈ balances, ∀ text, balance.balanceEur = some text →
      ∃ d, Decimal.parse text = .ok d)
    (h : historyTotal accounts balances = .ok total) : Totals accounts balances total := by
  have hall : (balances.length = accounts ∧
        (balances.filterMap (·.balanceEur)).length = accounts) ↔
      balances.length = accounts ∧ ∀ balance ∈ balances, balance.balanceEur.isSome = true := by
    refine and_congr_right fun hlength => ?_
    rw [← hlength, List.filterMap_length_eq_length]
  refine ⟨?_, fun text htext => ?_⟩
  · rw [← hall]
    unfold historyTotal at h
    by_cases hcount : balances.length = accounts ∧
        (balances.filterMap (·.balanceEur)).length = accounts
    · rw [if_pos hcount, Except.map_eq_ok] at h
      obtain ⟨sum, -, rfl⟩ := h
      exact iff_of_true rfl hcount
    · rw [if_neg hcount, Except.ok.injEq] at h
      subst h
      exact iff_of_false Bool.false_ne_true hcount
  · have htexts : ∀ t ∈ balances.filterMap (·.balanceEur), ∃ d, Decimal.parse t = .ok d := by
      intro t ht
      obtain ⟨balance, hbalance, heur⟩ := List.mem_filterMap.1 ht
      exact hparse balance hbalance t heur
    subst htext
    exact (sum_posted htexts (sum_of_historyTotal h)).1

/-- A balance is what the last row of its account on the day gives. -/
theorem lastRow_of_mem {filings : List (String × AccountHistoryBalance)}
    (h : (archivedBalances db asOf).mapM (filed rates imported) = .ok filings)
    (hmem : balance ∈ balancesOn filings date) :
    ∃ row ∈ archivedBalances db asOf, row.checkpointDate = date ∧
      historyBalance rates imported row = .ok balance ∧
      ∀ r ∈ archivedBalances db asOf, r.checkpointDate = date → r.accountId = row.accountId →
        checkpointKey r ≤ checkpointKey row := by
  obtain ⟨older, newer, hsplit, hnewer⟩ := mem_latest.1 hmem
  have hrel := mapM_rowsOn h date
  rw [hsplit] at hrel
  obtain ⟨olderRows, rest, hrows, -, hrest⟩ := hrel.flip.append_left
  obtain ⟨row, newerRows, hrow, hnewerRows, rfl⟩ := List.forall₂_cons_left_iff.1 hrest
  have hmemRows : row ∈ (archivedBalances db asOf).filter fun row => row.checkpointDate = date := by
    rw [hrows]
    simp
  obtain ⟨hmemRow, hdate⟩ := List.mem_filter.1 hmemRows
  refine ⟨row, hmemRow, of_decide_eq_true hdate, hrow, fun r hr hon hsame => ?_⟩
  have hr : r ∈ olderRows ++ row :: newerRows := by
    rw [← hrows, List.mem_filter]
    exact ⟨hr, decide_eq_true hon⟩
  have hsorted := (pairwise_archivedBalances db asOf).filter fun row => row.checkpointDate = date
  rw [hrows] at hsorted
  rcases List.mem_append.1 hr with hr | hr
  · exact (List.pairwise_append.1 hsorted).2.2 r hr row List.mem_cons_self
  · rcases List.mem_cons.1 hr with rfl | hr
    · exact le_rfl
    · -- its balance would have replaced the one that was filed before
      obtain ⟨later, hlater, hfiled⟩ := hnewerRows.exists_left hr
      have hsame := (historyBalance_accountId hfiled).trans
        (hsame.trans (historyBalance_accountId hrow).symm)
      exact absurd hsame (hnewer later hlater)

theorem lastObserved_of_mem {filings : List (String × AccountHistoryBalance)}
    (h : (archivedBalances db asOf).mapM (filed rates (importedRates positive db.rates))
      = .ok filings) (hmem : balance ∈ balancesOn filings date) :
    ∃ row, LastObserved positive db asOf rates date balance row := by
  obtain ⟨row, hrow, hdate, hbalance, hlast⟩ := lastRow_of_mem h hmem
  simp only [historyBalance, Except.bind_eq_ok, Except.pure_eq_ok] at hbalance
  obtain ⟨eur, heur, rfl⟩ := hbalance
  refine ⟨row, hrow, hdate, rfl, hlast, rfl, rfl, rfl, ?_⟩
  rw [← hdate]
  exact historyEur_converted (pairwise_importedRates positive db.rates) heur

theorem accountId_mem_balancesOn {filings : List (String × AccountHistoryBalance)}
    (h : (archivedBalances db asOf).mapM (filed rates imported) = .ok filings)
    (hrow : row ∈ archivedBalances db asOf) :
    row.checkpointDate ∈ filings.map Prod.fst ∧
      row.accountId ∈ (balancesOn filings row.checkpointDate).map (·.accountId) := by
  have hon : row ∈ (archivedBalances db asOf).filter
      fun r => r.checkpointDate = row.checkpointDate :=
    List.mem_filter.2 ⟨hrow, decide_eq_true rfl⟩
  obtain ⟨balance, hbalance, hfiled⟩ := (mapM_rowsOn h row.checkpointDate).exists_right hon
  refine ⟨?_, mem_map_latest.2 ?_⟩
  · obtain ⟨filing, hfiling, -⟩ := List.mem_map.1 hbalance
    obtain ⟨hfiling, hdate⟩ := List.mem_filter.1 hfiling
    exact List.mem_map.2 ⟨filing, hfiling, of_decide_eq_true hdate⟩
  · exact List.mem_map.2 ⟨balance, hbalance, historyBalance_accountId hfiled⟩

theorem historyDate_ok {balances : List AccountHistoryBalance} {entry : AccountHistoryDate}
    (h : historyDate accounts date balances = .ok entry) :
    entry.date = date ∧ entry.accounts = balances ∧
      historyTotal accounts balances = .ok entry.totalEur := by
  simp only [historyDate, Except.bind_eq_ok, Except.pure_eq_ok] at h
  obtain ⟨total, htotal, rfl⟩ := h
  exact ⟨rfl, rfl, htotal⟩

/-- **What the history records.** Its dates follow each other, every observation is under its date, and
every date lists each account once, with what was observed last. -/
theorem accountHistory_recorded
    (h : loadAccountHistory positive db accounts asOf rates = .ok history) :
    history.Pairwise (fun entry later => entry.date < later.date) ∧
    (∀ row ∈ archivedBalances db asOf, ∃ entry ∈ history, entry.date = row.checkpointDate) ∧
    ∀ entry ∈ history, Recorded positive db accounts asOf rates entry := by
  obtain ⟨filings, hfilings, hdates⟩ := loadAccountHistory_eq_ok.1 h
  have hrel := Except.mapM_eq_ok hdates
  refine ⟨?_, fun row hrow => ?_, fun entry hentry => ?_⟩
  · have hsorted : ((groups AccountHistoryBalance.accountId filings).keys.insertionSort
        (· ≤ ·)).Pairwise (· < ·) := by
      have hnodup := (List.perm_insertionSort (· ≤ ·) _).nodup_iff.2
        (groups AccountHistoryBalance.accountId filings).nodupKeys
      exact ((List.pairwise_insertionSort (· ≤ ·) _).and hnodup).imp fun h => lt_of_le_of_ne h.1 h.2
    have hmap := List.forall₂_map_right_iff.2 (hrel.imp fun _ _ hok => (historyDate_ok hok).1.symm)
    rw [List.forall₂_eq_eq_eq] at hmap
    rw [hmap, List.pairwise_map] at hsorted
    exact hsorted
  · obtain ⟨hkey, -⟩ := accountId_mem_balancesOn hfilings hrow
    have hkey : row.checkpointDate ∈ (groups AccountHistoryBalance.accountId filings).keys :=
      mem_keys_groups.2 hkey
    obtain ⟨entry, hentry, hok⟩ := hrel.exists_right ((List.mem_insertionSort (· ≤ ·)).2 hkey)
    exact ⟨entry, hentry, (historyDate_ok hok).1⟩
  · obtain ⟨date, -, hok⟩ := hrel.exists_left hentry
    obtain ⟨hon, haccounts, htotal⟩ := historyDate_ok hok
    refine ⟨?_, fun row hrow hrowDate => ?_, fun balance hbalance => ?_, ?_⟩
    · rw [haccounts]
      exact nodup_latest _ _
    · rw [haccounts, ← hon, ← hrowDate]
      exact (accountId_mem_balancesOn hfilings hrow).2
    · rw [haccounts] at hbalance
      rw [hon]
      exact lastObserved_of_mem hfilings hbalance
    · rw [haccounts]
      refine historyTotal_ok (fun balance hbalance => ?_) htotal
      obtain ⟨row, hlast⟩ := lastObserved_of_mem hfilings hbalance
      exact hlast.converted.parse

/-- A dollar account, observed before its first quote, at an imported quote and at one of the ECB, then
twice. -/
def archive : HistoryTables where
  checkpoints := [⟨some "2025-02-01", "usd", some "100", "literal", "A"⟩,
    ⟨some "2025-08-01", "usd", some "100", "literal", "B"⟩,
    ⟨some "2026-09-30", "usd", some "100", "literal", "C"⟩,
    ⟨some "2026-09-30", "usd", some "200", "formula", "D"⟩]
  accounts := [⟨"usd", "USD account", true, true, some "USD", 1⟩]
  rates := [⟨"old", some "2025-03-01", some "USD", some "EUR", some "0.9", none⟩,
    ⟨"future", some "2025-08-02", some "USD", some "EUR", some "0.8", none⟩,
    ⟨"zero", some "2025-07-31", some "USD", some "EUR", some "0", none⟩,
    ⟨"ecb", some "2026-09-30", some "EUR", some "USD", some "1.25", some "ECB"⟩]

def archiveHistory : List AccountHistoryDate :=
  [⟨"2025-02-01", none, [⟨"usd", "USD account", "USD", "100", none⟩]⟩,
    ⟨"2025-08-01", some "90", [⟨"usd", "USD account", "USD", "100", some "90"⟩]⟩,
    ⟨"2026-09-30", some "160", [⟨"usd", "USD account", "USD", "200", some "160"⟩]⟩]

theorem loadAccountHistory_archive : loadAccountHistory (· ≠ "0") archive 1 "2026-09-30"
    (loadRates archive.rates) = .ok archiveHistory := by decide +kernel

theorem accountHistory_recorded_archive :
    archiveHistory.Pairwise (fun entry later => entry.date < later.date) ∧
    (∀ row ∈ archivedBalances archive "2026-09-30",
      ∃ entry ∈ archiveHistory, entry.date = row.checkpointDate) ∧
    ∀ entry ∈ archiveHistory,
      Recorded (· ≠ "0") archive 1 "2026-09-30" (loadRates archive.rates) entry :=
  accountHistory_recorded loadAccountHistory_archive

/-! ## The history of an earlier day -/

/-- Is the date there and on the day or before it? -/
def datedBy (day : String) (date : Option String) : Bool := date.any (· ≤ day)

/-- The tables say the same up to a day. -/
structure AgreeUntil (day : String) (db db' : HistoryTables) : Prop where
  accounts : db.accounts = db'.accounts
  checkpoints : db.checkpoints.filter (fun c => datedBy day c.checkpointDate)
    = db'.checkpoints.filter fun c => datedBy day c.checkpointDate
  rates : db.rates.filter (fun r => datedBy day r.rateDate)
    = db'.rates.filter fun r => datedBy day r.rateDate

variable {day : String}

/-- What is read of a row shows whether the row is dated by the day. -/
theorem filter_filterMap_of {α β : Type} {f : α → Option β} {p : β → Bool} {q : α → Bool}
    (h : ∀ a b, f a = some b → p b = q a) (l : List α) :
    (l.filterMap f).filter p = (l.filter q).filterMap f := by
  rw [List.filter_filterMap, List.filterMap_filter]
  refine List.filterMap_congr fun a _ => ?_
  cases hf : f a with
  | none => simp
  | some b => simp [Option.filter, h a b hf]

theorem archived_some {c : CheckpointRow} {a : FinanceAccount} :
    archived asOf c a = some row ↔ ∃ date balance, c.checkpointDate = some date ∧
      c.balanceDecimal = some balance ∧ (a.id = c.accountId ∧ a.isReal ∧ a.isActive ∧ date ≤ asOf ∧
        (c.sourceState = "formula" ∨ c.sourceState = "literal")) ∧
      row = ⟨date, c.accountId, a.sourceName, a.currency, balance, a.sourceRow, c.sourceColumn⟩ := by
  simp only [archived, Option.bind_eq_bind, Option.bind_eq_some_iff, Option.ite_none_right_eq_some,
    Option.pure_def, Option.some.injEq]
  constructor
  · rintro ⟨date, hdate, balance, hbalance, hcond, rfl⟩
    exact ⟨date, balance, hdate, hbalance, hcond, rfl⟩
  · rintro ⟨date, balance, hdate, hbalance, hcond, rfl⟩
    exact ⟨date, hdate, balance, hbalance, hcond, rfl⟩

theorem archived_filter (hle : day ≤ asOf) (c : CheckpointRow) (a : FinanceAccount) :
    (archived asOf c a).filter (fun row => row.checkpointDate ≤ day) = archived day c a := by
  ext row
  rw [Option.filter_eq_some_iff, archived_some, archived_some, decide_eq_true_iff]
  constructor
  · rintro ⟨⟨date, balance, hdate, hbalance, ⟨hid, hreal, hactive, -, hstate⟩, rfl⟩, hday⟩
    exact ⟨date, balance, hdate, hbalance, ⟨hid, hreal, hactive, hday, hstate⟩, rfl⟩
  · rintro ⟨date, balance, hdate, hbalance, ⟨hid, hreal, hactive, hday, hstate⟩, rfl⟩
    exact ⟨⟨date, balance, hdate, hbalance, ⟨hid, hreal, hactive, hday.trans hle, hstate⟩, rfl⟩, hday⟩

/-- The rows up to a day are the rows of that day. -/
theorem archivedBalances_filter (hle : day ≤ asOf) :
    (archivedBalances db asOf).filter (fun row => row.checkpointDate ≤ day)
      = archivedBalances db day := by
  rw [archivedBalances, List.filter_insertionSort, List.filter_flatMap]
  refine congrArg _ (List.flatMap_congr fun c _ => ?_)
  rw [List.filter_filterMap]
  exact List.filterMap_congr fun a _ => archived_filter hle c a

/-- What has no rows can be left out. -/
theorem flatMap_filter_of {α β : Type} {f : α → List β} {q : α → Bool}
    (h : ∀ a, q a = false → f a = []) (l : List α) : (l.filter q).flatMap f = l.flatMap f := by
  induction l with
  | nil => rfl
  | cons a l ih =>
    rw [List.filter_cons, List.flatMap_cons]
    cases hq : q a with
    | true => rw [if_pos rfl, List.flatMap_cons, ih]
    | false => rw [if_neg Bool.false_ne_true, ih, h a hq, List.nil_append]

theorem archivedBalances_congr (h : AgreeUntil day db db') :
    archivedBalances db day = archivedBalances db' day := by
  have hlater : ∀ accounts : List FinanceAccount, ∀ c : CheckpointRow,
      datedBy day c.checkpointDate = false → accounts.filterMap (archived day c) = [] := by
    intro accounts c hday
    rw [List.filterMap_eq_nil_iff]
    intro a _
    rw [Option.eq_none_iff_forall_ne_some]
    intro row hrow
    obtain ⟨date, _, hdate, _, ⟨_, _, _, hle, _⟩, _⟩ := archived_some.1 hrow
    simp [datedBy, hdate, hle] at hday
  rw [archivedBalances, archivedBalances, ← flatMap_filter_of (hlater _), h.checkpoints, h.accounts,
    flatMap_filter_of (hlater _)]

theorem importedRates_filter (rates : List ExchangeRate) :
    (importedRates positive rates).filter (fun r => r.rateDate ≤ day)
      = importedRates positive (rates.filter fun r => datedBy day r.rateDate) := by
  rw [importedRates, List.filter_insertionSort, importedRates]
  refine congrArg _ (filter_filterMap_of (fun r rate hrate => ?_) rates)
  simp only [importedRate, Option.bind_eq_bind, Option.bind_eq_some_iff,
    Option.ite_none_right_eq_some, Option.pure_def, Option.some.injEq] at hrate
  obtain ⟨date, hdate, _, _, _, _, _, rfl⟩ := hrate
  simp [datedBy, hdate]

theorem loadRates_filter (rates : List ExchangeRate) :
    (loadRates rates).filter (fun r => r.date ≤ day)
      = loadRates (rates.filter fun r => datedBy day r.rateDate) := by
  rw [loadRates, List.filter_map, List.filter_insertionSort, loadRates]
  refine congrArg _ (congrArg _ (filter_filterMap_of (fun r rate hrate => ?_) rates))
  simp only [ecbRate, Option.bind_eq_bind, Option.bind_eq_some_iff,
    Option.ite_none_right_eq_some, Option.pure_def, Option.some.injEq] at hrate
  obtain ⟨date, hdate, _, _, _, _, _, rfl⟩ := hrate
  simp [datedBy, hdate]

/-- The quotes up to a day are the same. -/
structure SameQuotes (day : String) (rates rates' : List FinanceModel.RateObservation)
    (imported imported' : List ImportedRate) : Prop where
  quoted : rates.filter (fun r => r.date ≤ day) = rates'.filter fun r => r.date ≤ day
  imported : imported.filter (fun r => r.rateDate ≤ day)
    = imported'.filter fun r => r.rateDate ≤ day

theorem filter_le_filter {α : Type} {f : α → String} {l l' : List α} (hle : date ≤ day)
    (h : l.filter (fun a => f a ≤ day) = l'.filter fun a => f a ≤ day) :
    l.filter (fun a => f a ≤ date) = l'.filter fun a => f a ≤ date := by
  have hday : ∀ l : List α, l.filter (fun a => f a ≤ date)
      = (l.filter fun a => f a ≤ day).filter fun a => f a ≤ date := by
    intro l
    rw [List.filter_filter]
    refine List.filter_congr fun a _ => ?_
    by_cases ha : f a ≤ date
    · simp [ha, ha.trans hle]
    · simp [ha]
  rw [hday l, hday l', h]

theorem SameQuotes.mono (h : SameQuotes day rates rates' imported imported') (hle : date ≤ day) :
    SameQuotes date rates rates' imported imported' :=
  ⟨filter_le_filter hle h.quoted, filter_le_filter hle h.imported⟩

theorem SameQuotes.hasPriorRate_eq (h : SameQuotes date rates rates' imported imported')
    (currency : String) : hasPriorRate rates currency date = hasPriorRate rates' currency date := by
  have hfilter : ∀ rates : List FinanceModel.RateObservation,
      (rates.any fun rate => rate.currency = currency ∧ rate.date ≤ date)
        = (rates.filter fun r => r.date ≤ date).any fun rate => rate.currency = currency := by
    intro rates
    rw [List.any_filter]
    congr 1
    funext rate
    rw [Bool.decide_and, Bool.and_comm]
  rw [hasPriorRate, hasPriorRate, hfilter, hfilter, h.quoted]

theorem SameQuotes.priorImported_eq (h : SameQuotes date rates rates' imported imported')
    (currency : String) :
    priorImported imported currency date = priorImported imported' currency date := by
  have hfilter : ∀ imported : List ImportedRate, priorImported imported currency date
      = (imported.filter fun r => r.rateDate ≤ date).reverse.find?
          fun rate => rate.baseCurrency = currency := by
    intro imported
    rw [priorImported, ← List.filter_reverse, List.find?_filter]
    congr 1
    funext rate
    simp only [Bool.decide_and, Bool.decide_coe, Bool.and_comm]
  rw [hfilter, hfilter, h.imported]

theorem SameQuotes.historyEur_eq (h : SameQuotes row.checkpointDate rates rates' imported imported')
    (currency : String) :
    historyEur rates imported currency row = historyEur rates' imported' currency row := by
  have hbalance : LedgerText.accountBalanceEur row.balanceDecimal currency row.checkpointDate rates
      = LedgerText.accountBalanceEur row.balanceDecimal currency row.checkpointDate rates' := by
    unfold LedgerText.accountBalanceEur
    rw [selectPriorRate_later h.quoted]
  rw [historyEur, historyEur, h.hasPriorRate_eq, h.priorImported_eq, hbalance]

theorem AgreeUntil.sameQuotes (h : AgreeUntil day db db') :
    SameQuotes day (loadRates db.rates) (loadRates db'.rates) (importedRates positive db.rates)
      (importedRates positive db'.rates) := by
  constructor
  · rw [loadRates_filter, loadRates_filter, h.rates]
  · rw [importedRates_filter, importedRates_filter, h.rates]

/-- The balances of a day are filed by that day. -/
theorem balancesOn_filter (filings : List (String × AccountHistoryBalance)) (hle : date ≤ day) :
    balancesOn (filings.filter fun filing => filing.1 ≤ day) date = balancesOn filings date := by
  rw [balancesOn, balancesOn, List.filter_filter]
  congr 2
  refine List.filter_congr fun filing _ => ?_
  by_cases hdate : filing.1 = date
  · simp [hdate, hle]
  · simp [hdate]

theorem keys_filter (filings : List (String × AccountHistoryBalance)) :
    (groups AccountHistoryBalance.accountId
        (filings.filter fun filing => filing.1 ≤ day)).keys.insertionSort (· ≤ ·)
      = ((groups AccountHistoryBalance.accountId filings).keys.insertionSort (· ≤ ·)).filter
          (· ≤ day) := by
  rw [List.filter_insertionSort]
  refine List.Perm.insertionSort_eq ?_ fun a _ b _ hab hba => le_antisymm hab hba
  refine (List.perm_ext_iff_of_nodup (AList.nodupKeys _) ((AList.nodupKeys _).filter _)).2 ?_
  intro date
  change date ∈ (groups AccountHistoryBalance.accountId _).keys ↔
    date ∈ (groups AccountHistoryBalance.accountId filings).keys.filter _
  rw [mem_keys_groups, List.mem_filter, mem_keys_groups, List.mem_map, List.mem_map]
  constructor
  · rintro ⟨filing, hfiling, rfl⟩
    obtain ⟨hmem, hle⟩ := List.mem_filter.1 hfiling
    exact ⟨⟨filing, hmem, rfl⟩, hle⟩
  · rintro ⟨⟨filing, hmem, rfl⟩, hle⟩
    exact ⟨filing, List.mem_filter.2 ⟨hmem, hle⟩, rfl⟩

/-- **The history does not reach back.** Up to a day it is the history that was shown on that day: what
is observed or quoted later changes no balance, no conversion and no total. -/
theorem accountHistory_past
    (h : loadAccountHistory positive db accounts asOf (loadRates db.rates) = .ok history)
    (hle : day ≤ asOf) (hagree : AgreeUntil day db db') :
    loadAccountHistory positive db' accounts day (loadRates db'.rates)
      = .ok (history.filter fun entry => entry.date ≤ day) := by
  obtain ⟨filings, hfilings, hdates⟩ := loadAccountHistory_eq_ok.1 h
  refine loadAccountHistory_eq_ok.2 ⟨filings.filter fun filing => filing.1 ≤ day, ?_, ?_⟩
  · rw [← archivedBalances_congr hagree, ← archivedBalances_filter hle,
      ← Except.mapM_filter (p := fun row => decide (row.checkpointDate ≤ day))
        (fun row _ filing hfiling => by rw [(filed_ok hfiling).1]) hfilings]
    refine Except.mapM_congr fun row hrow => ?_
    have hrow := of_decide_eq_true (List.mem_filter.1 hrow).2
    rw [filed, filed, historyBalance, historyBalance,
      (hagree.sameQuotes.mono hrow).historyEur_eq]
  · rw [keys_filter]
    rw [← Except.mapM_filter (p := fun date => decide (date ≤ day))
      (fun date _ entry hok => by rw [(historyDate_ok hok).1]) hdates]
    refine Except.mapM_congr fun date hdate => ?_
    rw [balancesOn_filter filings (of_decide_eq_true (List.mem_filter.1 hdate).2)]

/-- What was stored of the account in August 2025. -/
def archiveInAugust : HistoryTables where
  checkpoints := archive.checkpoints.take 2
  accounts := archive.accounts
  rates := [⟨"old", some "2025-03-01", some "USD", some "EUR", some "0.9", none⟩,
    ⟨"zero", some "2025-07-31", some "USD", some "EUR", some "0", none⟩]

theorem accountHistory_past_archive :
    loadAccountHistory (· ≠ "0") archiveInAugust 1 "2025-08-01" (loadRates archiveInAugust.rates)
      = .ok (archiveHistory.filter fun entry => entry.date ≤ "2025-08-01") := by
  refine accountHistory_past loadAccountHistory_archive (by decide) ⟨rfl, ?_, ?_⟩
  · decide +kernel
  · decide +kernel

/-! ## The current balances -/

/-- The currency of an account, which is the euro where none is stored. -/
def AccountSnapshot.valued (account : AccountSnapshot) : String := account.currency.getD "EUR"

variable {snapshot : List AccountSnapshot} {valuation : AccountValuation}
  {conversions conversions' : List ConversionRate}

/-- The conversions list the rate of every one of the currencies, once. -/
structure ListsRates (asOf : String) (rates : List FinanceModel.RateObservation)
    (currencies : List String) (conversions : List ConversionRate) : Prop where
  once : (conversions.map (·.currency)).Nodup
  listed : ∀ c, c ∈ conversions.map (·.currency) ↔ c ∈ currencies
  quoted : ∀ r ∈ conversions, ∃ quote, Decimal.parse r.unitsPerEur = .ok quote ∧
    RateOf rates asOf r.currency quote.toRat r.date

theorem ListsRates.empty (rates : List FinanceModel.RateObservation) (asOf : String) :
    ListsRates asOf rates [] [] := ⟨List.nodup_nil, by simp, by simp⟩

theorem ListsRates.withRate {currencies : List String}
    (h : ListsRates asOf rates currencies conversions)
    (hok : withRate asOf rates conversions currency = .ok conversions') :
    ListsRates asOf rates (currencies ++ [currency]) conversions' := by
  have hmem : (conversions.any fun rate => rate.currency = currency) = true ↔
      currency ∈ conversions.map (·.currency) := by
    simp [List.any_eq_true]
  unfold ReadModel.withRate at hok
  by_cases hany : (conversions.any fun rate => rate.currency = currency) = true
  · rw [if_pos hany, Except.ok.injEq] at hok
    subst hok
    refine ⟨h.once, fun c => ?_, h.quoted⟩
    rw [h.listed, List.mem_append, List.mem_singleton]
    constructor
    · exact .inl
    · rintro (hc | rfl)
      · exact hc
      · exact (h.listed c).1 (hmem.1 hany)
  · rw [if_neg hany] at hok
    simp only [Except.bind_eq_ok, Except.pure_eq_ok] at hok
    obtain ⟨selected, hselected, rfl⟩ := hok
    obtain ⟨quote, hquote, -, hof, -⟩ := selectPriorRate_ok hselected
    have hnew : currency ∉ conversions.map (·.currency) := fun hold => hany (hmem.2 hold)
    refine ⟨?_, fun c => ?_, fun r hr => ?_⟩
    · rw [List.map_append]
      exact h.once.append (List.nodup_singleton _) (by simpa using hnew)
    · rw [List.map_append, List.mem_append, List.mem_append, h.listed]
      rfl
    · rcases List.mem_append.1 hr with hr | hr
      · exact h.quoted r hr
      · rw [List.mem_singleton.1 hr]
        exact ⟨quote, hquote, hof⟩

/-- The value of an account: its balance, at the rate of its currency. -/
def ValuedAt (rates : List FinanceModel.RateObservation) (asOf : String) (account : AccountSnapshot)
    (text : String) : Prop :=
  ∃ native quote date, account.balanceNative = some native ∧
    RateOf rates asOf account.valued quote date ∧
    Posts .halfEven (decimalValue native) (1 / quote) text

/-- **The loop over the accounts** values each of them, and adds up and lists rates meanwhile. -/
theorem valueAccount_loop {total : String} {currencies : List String}
    (h : ListsRates asOf rates currencies conversions) {acc : String × List ConversionRate}
    (hok : snapshot.foldlM (valueAccount asOf rates) (total, conversions) = .ok acc) :
    (∃ texts, List.Forall₂ (fun account text => ∃ native, account.balanceNative = some native ∧
        LedgerText.accountBalanceEur native account.valued asOf rates = .ok text) snapshot texts ∧
      texts.foldlM addDecimalText total = .ok acc.1) ∧
    ListsRates asOf rates (currencies ++ snapshot.map (·.valued)) acc.2 := by
  induction snapshot generalizing total currencies conversions with
  | nil =>
    rw [List.foldlM_nil, Except.pure_eq_ok] at hok
    subst hok
    exact ⟨⟨[], .nil, rfl⟩, by simpa using h⟩
  | cons account snapshot ih =>
    rw [List.foldlM_cons, Except.bind_eq_ok] at hok
    obtain ⟨next, hstep, hrest⟩ := hok
    simp only [valueAccount, Except.bind_eq_ok, Except.pure_eq_ok, Except.fromOption_eq_ok] at hstep
    obtain ⟨native, hnative, eur, heur, sum, hsum, listed, hlisted, rfl⟩ := hstep
    obtain ⟨⟨texts, hvalued, htotal⟩, hrates⟩ := ih (h.withRate hlisted) hrest
    refine ⟨⟨eur :: texts, .cons ⟨native, hnative, heur⟩ hvalued, ?_⟩, ?_⟩
    · rw [List.foldlM_cons, hsum]
      exact htotal
    · rw [List.map_cons, ← List.singleton_append, ← List.append_assoc]
      exact hrates

theorem exists_withRate (conversions : List ConversionRate)
    (h : ∃ rate, FinanceModel.selectPriorRate currency asOf rates = .ok rate) :
    ∃ conversions', withRate asOf rates conversions currency = .ok conversions' := by
  obtain ⟨rate, hrate⟩ := h
  unfold withRate
  split
  · exact ⟨_, rfl⟩
  · exact ⟨_, by rw [hrate]; rfl⟩

/-- A value is converted at a rate. -/
theorem exists_rate {native text : String}
    (h : LedgerText.accountBalanceEur native currency asOf rates = .ok text) :
    ∃ rate, FinanceModel.selectPriorRate currency asOf rates = .ok rate := by
  simp only [LedgerText.accountBalanceEur, Except.bind_eq_ok] at h
  obtain ⟨_, -, rate, hrate, -⟩ := h
  exact ⟨rate, hrate⟩

/-- The loop ends where every account has a value and the values can be added up. -/
theorem exists_valueAccount_loop {texts : List String} {total sum : String}
    (hvalued : List.Forall₂ (fun account text => ∃ native, account.balanceNative = some native ∧
      LedgerText.accountBalanceEur native account.valued asOf rates = .ok text) snapshot texts)
    (hsum : texts.foldlM addDecimalText total = .ok sum) (conversions : List ConversionRate) :
    ∃ conversions', snapshot.foldlM (valueAccount asOf rates) (total, conversions)
      = .ok (sum, conversions') := by
  induction hvalued generalizing total conversions with
  | nil =>
    rw [List.foldlM_nil, Except.pure_eq_ok] at hsum
    exact ⟨conversions, by rw [List.foldlM_nil, hsum]; rfl⟩
  | @cons account text snapshot texts hhead _ ih =>
    obtain ⟨native, hnative, heur⟩ := hhead
    rw [List.foldlM_cons, Except.bind_eq_ok] at hsum
    obtain ⟨next, hnext, hrest⟩ := hsum
    obtain ⟨listed, hlisted⟩ := exists_withRate conversions (exists_rate heur)
    have hstep : valueAccount asOf rates (total, conversions) account = .ok (next, listed) := by
      simp only [valueAccount, Except.bind_eq_ok, Except.pure_eq_ok, Except.fromOption_eq_ok]
      exact ⟨native, hnative, text, heur, next, hnext, listed, hlisted, rfl⟩
    obtain ⟨conversions', hloop⟩ := ih hrest listed
    exact ⟨conversions', by rw [List.foldlM_cons, hstep]; exact hloop⟩

/-- The rate of the dollar is found, for an account in dollars or to be listed. -/
theorem exists_rate_of_valueAccounts (h : valueAccounts snapshot asOf rates = .ok valuation) :
    ∃ rate, FinanceModel.selectPriorRate "USD" asOf rates = .ok rate := by
  simp only [valueAccounts, Except.bind_eq_ok] at h
  obtain ⟨acc, hloop, listed, hlisted, -⟩ := h
  obtain ⟨⟨texts, hvalued, -⟩, hrates⟩ := valueAccount_loop (.empty rates asOf) hloop
  unfold withRate at hlisted
  split at hlisted
  case isTrue hany =>
    have hdollar : "USD" ∈ acc.2.map (·.currency) := by
      obtain ⟨rate, hrate, hcurrency⟩ := List.any_eq_true.1 hany
      exact List.mem_map.2 ⟨rate, hrate, by simpa using hcurrency⟩
    rw [hrates.listed, List.nil_append] at hdollar
    obtain ⟨account, haccount, hcurrency⟩ := List.mem_map.1 hdollar
    obtain ⟨text, -, native, -, heur⟩ := hvalued.exists_right haccount
    exact exists_rate (hcurrency ▸ heur)
  case isFalse hnone =>
    simp only [Except.bind_eq_ok] at hlisted
    obtain ⟨rate, hrate, -⟩ := hlisted
    exact ⟨rate, hrate⟩

theorem exists_valueAccounts {texts : List String} {sum : String}
    (hvalued : List.Forall₂ (fun account text => ∃ native, account.balanceNative = some native ∧
      LedgerText.accountBalanceEur native account.valued asOf rates = .ok text) snapshot texts)
    (hsum : texts.foldlM addDecimalText "0" = .ok sum)
    (hrate : ∃ rate, FinanceModel.selectPriorRate "USD" asOf rates = .ok rate) :
    ∃ listed, valueAccounts snapshot asOf rates = .ok ⟨asOf, sum, listed⟩ := by
  obtain ⟨conversions, hloop⟩ := exists_valueAccount_loop hvalued hsum []
  obtain ⟨listed, hlisted⟩ := exists_withRate conversions hrate
  refine ⟨listed, ?_⟩
  simp only [valueAccounts, hloop, Except.bind_eq_ok, Except.pure_eq_ok]
  exact ⟨_, rfl, listed, hlisted, rfl⟩

/-- What the valuation of the accounts says. -/
structure AccountsValued (snapshot : List AccountSnapshot) (asOf : String)
    (rates : List FinanceModel.RateObservation) (valuation : AccountValuation) : Prop where
  asOf : valuation.asOf = asOf
  total : ∃ texts total, List.Forall₂ (ValuedAt rates valuation.asOf) snapshot texts ∧
    Decimal.parse valuation.totalEur = .ok total ∧ valuation.totalEur = total.format ∧
    total.toRat = (texts.map decimalValue).sum
  rates : ListsRates valuation.asOf rates (snapshot.map (·.valued) ++ ["USD"]) valuation.rates

/-- **What the accounts are worth.** Each is converted at the last quote for its currency, the total is
their exact sum, every currency is listed once with the rate that was used, and later quotes change
nothing. -/
theorem accounts_valued (h : valueAccounts snapshot asOf rates = .ok valuation) :
    AccountsValued snapshot asOf rates valuation ∧
    ∀ rates', rates'.filter (fun r => r.date ≤ asOf) = rates.filter (fun r => r.date ≤ asOf) →
      valueAccounts snapshot asOf rates' = .ok valuation := by
  constructor
  · simp only [valueAccounts, Except.bind_eq_ok, Except.pure_eq_ok] at h
    obtain ⟨acc, hloop, listed, hlisted, rfl⟩ := h
    obtain ⟨⟨texts, hvalued, htotal⟩, hrates⟩ := valueAccount_loop (.empty rates asOf) hloop
    have hposted : List.Forall₂ (ValuedAt rates asOf) snapshot texts := by
      refine hvalued.imp fun account text hvalue => ?_
      obtain ⟨native, hnative, heur⟩ := hvalue
      obtain ⟨quote, date, hrate, hposts⟩ := accountBalanceEur_ok heur
      exact ⟨native, quote, date, hnative, hrate, hposts⟩
    have hparse : ∀ t ∈ texts, ∃ d, Decimal.parse t = .ok d := by
      intro t ht
      obtain ⟨account, -, _, _, _, _, _, hposts⟩ := hposted.exists_left ht
      exact parse_of_posts hposts
    obtain ⟨⟨total, hread, hformat, hsum⟩, -⟩ := sum_posted hparse htotal
    exact ⟨rfl, ⟨texts, total, hposted, hread, hformat, hsum⟩, hrates.withRate hlisted⟩
  · intro rates' hlater
    have hselect := selectPriorRate_later hlater
    have hvalue : valueAccount asOf rates' = valueAccount asOf rates := by
      funext acc account
      simp only [valueAccount, LedgerText.accountBalanceEur, withRate, hselect]
    rw [← h, valueAccounts, valueAccounts, hvalue]
    simp only [withRate, hselect]

theorem accounts_valued_dollars : ∃ valuation,
    valueAccounts [⟨some "USD", some "1500"⟩, ⟨none, some "12.50"⟩] "2026-09-30"
      [⟨"USD", "2026-09-28", "1.10"⟩, ⟨"USD", "2026-09-30", "1.25"⟩, ⟨"USD", "2026-10-01", "1.50"⟩]
        = .ok valuation ∧
    valuation.totalEur = "1212.5" ∧
    AccountsValued [⟨some "USD", some "1500"⟩, ⟨none, some "12.50"⟩] "2026-09-30"
      [⟨"USD", "2026-09-28", "1.10"⟩, ⟨"USD", "2026-09-30", "1.25"⟩, ⟨"USD", "2026-10-01", "1.50"⟩]
      valuation := by
  have hrun : valueAccounts [⟨some "USD", some "1500"⟩, ⟨none, some "12.50"⟩] "2026-09-30"
      [⟨"USD", "2026-09-28", "1.10"⟩, ⟨"USD", "2026-09-30", "1.25"⟩, ⟨"USD", "2026-10-01", "1.50"⟩]
      = .ok ⟨"2026-09-30", "1212.5",
        [⟨"USD", some "2026-09-30", "1.25"⟩, ⟨"EUR", none, "1"⟩]⟩ := by decide +kernel
  exact ⟨_, hrun, rfl, (accounts_valued hrun).1⟩

/-- With a quote, the balance is converted as the account is valued. -/
theorem historyBalance_quoted (h : historyBalance rates imported row = .ok balance)
    (hquote : ¬ NoQuote rates balance.currency row.checkpointDate) :
    ∃ text, balance.balanceEur = some text ∧ LedgerText.accountBalanceEur balance.balanceNative
      balance.currency row.checkpointDate rates = .ok text := by
  simp only [historyBalance, Except.bind_eq_ok, Except.pure_eq_ok] at h
  obtain ⟨eur, heur, rfl⟩ := h
  rw [← hasPriorRate_eq_false, Bool.not_eq_false] at hquote
  rw [historyEur, if_pos hquote, Except.map_eq_ok] at heur
  obtain ⟨text, htext, rfl⟩ := heur
  exact ⟨text, rfl, htext⟩

/-- **The history and the valuation agree**: a total that needed no imported quote is what the balances
of the date are worth on it. The valuation lists the rate of the dollar in any case, and so needs one. -/
theorem accountHistory_valued {entry : AccountHistoryDate} {total : String}
    {balances : List AccountHistoryBalance}
    (h : loadAccountHistory positive db accounts asOf rates = .ok history) (hentry : entry ∈ history)
    (htotal : entry.totalEur = some total)
    (hquote : ∀ balance ∈ entry.accounts, ¬ NoQuote rates balance.currency entry.date)
    (hperm : balances.Perm entry.accounts)
    (hsame : List.Forall₂ (fun account balance => account.valued = balance.currency ∧
      account.balanceNative = some balance.balanceNative) snapshot balances) :
    (∃ valuation, valueAccounts snapshot entry.date rates = .ok valuation ∧
        valuation.totalEur = total) ↔
      ∃ rate, FinanceModel.selectPriorRate "USD" entry.date rates = .ok rate := by
  obtain ⟨filings, hfilings, hdates⟩ := loadAccountHistory_eq_ok.1 h
  obtain ⟨date, -, hok⟩ := (Except.mapM_eq_ok hdates).exists_left hentry
  obtain ⟨rfl, haccounts, hsum⟩ := historyDate_ok hok
  -- what every balance of the date was converted to
  have hconverted : ∀ balance ∈ entry.accounts, ∃ text, balance.balanceEur = some text ∧
      LedgerText.accountBalanceEur balance.balanceNative balance.currency entry.date rates
        = .ok text := by
    intro balance hbalance
    obtain ⟨row, -, hdate, hrow, -⟩ := lastRow_of_mem hfilings (haccounts ▸ hbalance)
    rw [← hdate]
    exact historyBalance_quoted hrow (hdate ▸ hquote balance hbalance)
  have hparse : ∀ t ∈ entry.accounts.filterMap (·.balanceEur), ∃ d, Decimal.parse t = .ok d := by
    intro t ht
    obtain ⟨balance, hbalance, ht⟩ := List.mem_filterMap.1 ht
    obtain ⟨text, htext, heur⟩ := hconverted balance hbalance
    obtain rfl : text = t := Option.some.inj (htext.symm.trans ht)
    obtain ⟨_, _, -, hposts⟩ := accountBalanceEur_ok heur
    exact parse_of_posts hposts
  rw [htotal, ← haccounts] at hsum
  have hfold := sum_of_historyTotal hsum
  -- the accounts have the values of the balances, and the order does not matter to their sum
  have hvalued : List.Forall₂ (fun account text => ∃ native, account.balanceNative = some native ∧
      LedgerText.accountBalanceEur native account.valued entry.date rates = .ok text) snapshot
      (balances.filterMap (·.balanceEur)) := by
    have hmem : ∀ balance ∈ balances, balance ∈ entry.accounts := fun _ => hperm.mem_iff.1
    clear hperm
    induction hsame with
    | nil => exact .nil
    | @cons account balance snapshot balances hhead _ ih =>
      obtain ⟨text, htext, heur⟩ := hconverted balance (hmem balance List.mem_cons_self)
      rw [List.filterMap_cons, htext]
      exact .cons ⟨_, hhead.2, hhead.1 ▸ heur⟩ (ih fun b hb => hmem b (List.mem_cons_of_mem _ hb))
  have hpermuted : (balances.filterMap (·.balanceEur)).foldlM addDecimalText "0" = .ok total :=
    (sum_posted hparse hfold).2 _ (hperm.filterMap _)
  constructor
  · rintro ⟨valuation, hvalue, -⟩
    exact exists_rate_of_valueAccounts hvalue
  · intro hrate
    obtain ⟨listed, hvalue⟩ := exists_valueAccounts hvalued hpermuted hrate
    exact ⟨_, hvalue, rfl⟩

/-- Three accounts in September 2026, two of them in dollars. -/
def purses : HistoryTables where
  checkpoints := [⟨some "2026-09-30", "usd", some "200", "formula", "D"⟩,
    ⟨some "2026-09-30", "cash", some "12.34", "literal", "E"⟩,
    ⟨some "2026-09-30", "card", some "33.33", "literal", "F"⟩]
  accounts := [⟨"usd", "USD account", true, true, some "USD", 1⟩, ⟨"cash", "Cash", true, true, none, 2⟩,
    ⟨"card", "USD card", true, true, some "USD", 3⟩]
  rates := archive.rates

def pursesInSeptember : AccountHistoryDate :=
  ⟨"2026-09-30", some "199", [⟨"usd", "USD account", "USD", "200", some "160"⟩,
    ⟨"cash", "Cash", "EUR", "12.34", some "12.34"⟩, ⟨"card", "USD card", "USD", "33.33", some "26.66"⟩]⟩

theorem loadAccountHistory_purses : loadAccountHistory (· ≠ "0") purses 3 "2026-09-30"
    (loadRates purses.rates) = .ok [pursesInSeptember] := by decide +kernel

/-- The three accounts in another order. -/
theorem accountHistory_valued_archive : ∃ valuation,
    valueAccounts [⟨some "USD", some "33.33"⟩, ⟨some "USD", some "200"⟩, ⟨none, some "12.34"⟩]
      "2026-09-30" (loadRates purses.rates) = .ok valuation ∧ valuation.totalEur = "199" := by
  have hperm : [⟨"card", "USD card", "USD", "33.33", some "26.66"⟩,
      ⟨"usd", "USD account", "USD", "200", some "160"⟩,
      ⟨"cash", "Cash", "EUR", "12.34", some "12.34"⟩].Perm pursesInSeptember.accounts := by decide
  refine (accountHistory_valued loadAccountHistory_purses List.mem_cons_self rfl ?_ hperm
    (.cons ⟨rfl, rfl⟩ (.cons ⟨rfl, rfl⟩ (.cons ⟨rfl, rfl⟩ .nil)))).2 ?_
  · intro balance hbalance
    simp only [pursesInSeptember, List.mem_cons, List.not_mem_nil, or_false] at hbalance
    rcases hbalance with rfl | rfl | rfl
    all_goals
      rw [← hasPriorRate_eq_false]
      decide +kernel
  · exact ⟨⟨"1.25", some "2026-09-30", 0⟩, by decide +kernel⟩

end ReadModel
